import RdCore.Syscall.Prepare

/-!
# RdCore — preparing a syscall for recording: the prctl emulation

`rec_prepare_syscall` runs when a recorded task enters a syscall. It gives
the task a `TaskSyscallState` when it has none, runs the architecture's
preparation `rec_prepare_syscall_arch`, and ends with `done_preparing`,
except after a `sigreturn`, which has no exit event and drops the state.

The preparation the source implements is that of `prctl`. rd keeps some of
the state `prctl` reads and writes to itself: the thread group's dumpable
flag, the task's TSC mode and its seccomp status. For those options it
emulates the result and, when the kernel must not see the call, turns the
option into `-1` so that the kernel rejects it. It records the `int` or the
name some options write at `arg2`, and it expects `EINVAL` from the calls it
knows the kernel rejects. A syscall rd vetoed (`original_syscallno == -2`) is
not prepared; a syscall the task was descheduled in keeps the syscall buffer
as its scratch; every other syscall reaches `unimplemented!()`.

The syscall tables, `<linux/prctl.h>` and the errno values are not in the
source; their values here are the kernel's.

Main results:

* `Preparing.recPreparePrctl_spec` — what every arm of the prctl branch
  leaves, stated once for all options as `Preparing.PrctlSpec`, and
  `Preparing.recPreparePrctl_ok` — on a syscall state that has emulated
  nothing and is not prepared, the branch never fails;
* `recPrepareSyscall_task` — preparing any syscall changes the task's TSC
  mode only to one of the two modes, never its seccomp status, and the dumpable
  flag only as a prctl does;
* `recPrepareSyscall_prctl_withheld` — the kernel sees a prctl only as rd
  lets it: option `-1` exactly for the calls rd withholds;
* `recPrepareSyscall_getTsc` — `PR_GET_TSC` writes the task's TSC mode at
  `arg2` and nothing else;
* `recPrepareSyscall_prctl_emulates` — which prctls rd emulates, and the
  values `PR_GET_DUMPABLE` and `PR_GET_SECCOMP` report;
* `recPrepareSyscall_setTsc` — `PR_SET_TSC` reads only the low 32 bits of
  its argument;
* `recPrepareSyscall_desched` — a syscall the task was descheduled in may
  switch, leaves the task as it was, and registers only the buffer of a `read`
  into the scratch area, recorded in place;
* `recPrepareSyscall_vetoed` — a syscall rd vetoed is not prepared: no
  switch, no parameter, no emulation, the task as it was.
-/

namespace RdCore.Syscall

/-! ## Numbers of the ABI -/

/-- `Arch::READ`. -/
def SupportedArch.read : SupportedArch → Int
  | .x86 => 3
  | .x64 => 0

/-- `Arch::PRCTL`. -/
def SupportedArch.prctl : SupportedArch → Int
  | .x86 => 172
  | .x64 => 157

/-- `is_sigreturn(syscallno, arch)`: `sigreturn` or `rt_sigreturn`; x64 has
only the latter. -/
def isSigreturn (syscallno : Int) : SupportedArch → Bool
  | .x86 => syscallno == 119 || syscallno == 173
  | .x64 => syscallno == 15

/-- `SECCOMP_MAGIC_SKIP_ORIGINAL_SYSCALLNO`: the original syscall number by
which rd vetoes a syscall. -/
def seccompMagicSkipOriginalSyscallno : Int := -2

/-- `EINVAL`. -/
def einval : Nat := 22

/-- `ENOSYS`. -/
def enosys : Nat := 38

/-- `PR_TSC_ENABLE`. -/
def prTscEnable : Int := 1

/-- `PR_TSC_SIGSEGV`. -/
def prTscSigsegv : Int := 2

/-- `SECCOMP_MODE_STRICT`. -/
def seccompModeStrict : Nat := 1

/-- `SECCOMP_MODE_FILTER`. -/
def seccompModeFilter : Nat := 2

/-- `x as i32` for a register value `x`: its low 32 bits, signed. -/
def asI32 (x : Nat) : Int :=
  if x % 2 ^ 32 < 2 ^ 31 then ((x % 2 ^ 32 : Nat) : Int) else ((x % 2 ^ 32 : Nat) : Int) - 2 ^ 32

/-- `Registers::set_arg1_signed(v)`: argument 1 holds `v` as a word of the
architecture. -/
def Registers.setArg1Signed (r : Registers) (arch : SupportedArch) (v : Int) : Registers :=
  r.setArg 1 (v % 2 ^ (8 * arch.wordSize)).toNat

/-! ## The arms of the prctl match -/

/-- The arms of `match regs.arg1() as u32` in `rec_prepare_syscall_arch`, in
the source's order. -/
inductive PrctlArm where
  | recordInt
  | passThrough
  | setDumpable
  | getDumpable
  | getSeccomp
  | getTsc
  | setTsc
  | getName
  | setNoNewPrivs
  | setSeccomp
  | setPtracer
  | other
  deriving DecidableEq, Repr

/-- The options each arm matches. -/
def PrctlArm.options : PrctlArm → List Nat
  -- PR_GET_CHILD_SUBREAPER, PR_GET_ENDIAN, PR_GET_FPEMU, PR_GET_FPEXC, PR_GET_PDEATHSIG,
  -- PR_GET_UNALIGN
  | .recordInt => [37, 19, 9, 11, 2, 5]
  -- PR_GET_KEEPCAPS, PR_GET_NO_NEW_PRIVS, PR_GET_TIMERSLACK, PR_MCE_KILL, PR_MCE_KILL_GET,
  -- PR_SET_CHILD_SUBREAPER, PR_SET_KEEPCAPS, PR_SET_NAME, PR_SET_PDEATHSIG, PR_SET_TIMERSLACK,
  -- PR_CAP_AMBIENT, PR_CAPBSET_DROP, PR_CAPBSET_READ, PR_GET_SPECULATION_CTRL,
  -- PR_SET_SPECULATION_CTRL
  | .passThrough => [7, 39, 30, 33, 34, 36, 8, 15, 1, 29, 47, 24, 23, 52, 53]
  | .setDumpable => [4]
  | .getDumpable => [3]
  | .getSeccomp => [21]
  | .getTsc => [25]
  | .setTsc => [26]
  | .getName => [16]
  | .setNoNewPrivs => [38]
  | .setSeccomp => [22]
  | .setPtracer => [0x59616d61]
  | .other => []

/-- The arm an option selects; `_` when no arm names it. -/
def PrctlArm.ofOption (option : Nat) : PrctlArm :=
  ([PrctlArm.recordInt, .passThrough, .setDumpable, .getDumpable, .getSeccomp, .getTsc, .setTsc,
    .getName, .setNoNewPrivs, .setSeccomp, .setPtracer].find? fun a => option ∈ a.options).getD .other

/-! ## The recording task -/

/-- `t.ev().syscall_event()`: the syscall's number and architecture. -/
structure SyscallEvent where
  number : Int
  arch : SupportedArch
  deriving DecidableEq, Repr

/-- A task's syscall state: `TaskSyscallState` with `expect_errno`, which
only the preparation sets. -/
structure SyscallState where
  st : TaskSyscallState
  expectErrno : Nat

/-- `RecordTask`, with what preparing a syscall and installing a seccomp
filter read and write of it: the task, its current syscall event, the
`original_syscallno()` register, `desched_rec()` (null is 0), its syscall
state, its TSC mode and its seccomp status. -/
structure RecordTask where
  tracee : Tracee
  ev : SyscallEvent
  originalSyscallno : Int
  deschedRec : Nat
  syscallState : Option SyscallState
  tscMode : Int
  prctlSeccompStatus : Nat

/-- What `rec_prepare_syscall_arch` works on: the task, its syscall state
(`t.syscall_state_unwrap()`, passed on its own as rr passes it) and its
thread group's `dumpable` flag. -/
structure Preparing where
  t : RecordTask
  ss : SyscallState
  dumpable : Bool

namespace Preparing

/-- `syscall_entry_registers = regs.clone()`. -/
@[simps t ss dumpable]
def setSyscallEntryRegisters (p : Preparing) (regs : Registers) : Preparing :=
  { p with ss := { p.ss with st := { p.ss.st with syscallEntryRegisters := regs } } }

/-- `expect_errno = errno`. -/
@[simps t ss dumpable]
def expect (p : Preparing) (errno : Nat) : Preparing :=
  { p with ss := { p.ss with expectErrno := errno } }

/-- `let mut r = regs.clone(); r.set_arg1_signed(v); t.set_regs(&r)`. -/
@[simps t ss dumpable]
def setArg1Signed (p : Preparing) (v : Int) : Preparing :=
  { p with t := { p.t with tracee := p.t.tracee.setRegs (p.t.tracee.regs.setArg1Signed p.t.ev.arch v) } }

/-- `emulate_result(result)`; `emulate_result_signed` passes the `usize` bits
of its result. -/
def emulateResult (p : Preparing) (result : Nat) : Except String Preparing :=
  if p.ss.st.preparationDone then .error "assertion failed: !self.preparation_done"
  else if p.ss.st.shouldEmulateResult then .error "assertion failed: !self.should_emulate_result"
  else .ok { p with ss := { p.ss with st :=
    { p.ss.st with shouldEmulateResult := true, emulatedResult := result } } }

/-- `reg_parameter_with_size(arg, param_size, maybe_mode, None)` on the
syscall state. -/
def regParameterWithSize (p : Preparing) (arg : Nat) (paramSize : ParamSize)
    (maybeMode : Option ArgMode) : Except String (Preparing × Nat) :=
  (fun r => ({ p with ss := { p.ss with st := r.1 } }, r.2)) <$>
    p.ss.st.regParameterWithSize arg paramSize maybeMode none

/-- `write_val_mem(t, addr, &v, None)` of an `i32`. Memory is total, so the
write always succeeds: where the code's write fails, at an unmapped `addr`,
and asserts, the model writes. -/
@[simps t ss dumpable]
def writeValMem (p : Preparing) (addr : Nat) (v : Int) : Preparing :=
  { p with t := { p.t with tracee := p.t.tracee.writeMem addr (wordBytes 4 (v % 2 ^ 32).toNat) } }

end Preparing

open Preparing

/-- The `syscallno == Arch::PRCTL` branch of `rec_prepare_syscall_arch`;
`done_initial_exec()` is the session's. -/
def recPreparePrctl (p : Preparing) (doneInitialExec : Bool) : Except String Preparing :=
  let regs := p.t.tracee.regs
  match PrctlArm.ofOption (regs.arg 1 % 2 ^ 32) with
  | .recordInt => Prod.fst <$> p.regParameterWithSize 2 (.ofSize 4) none
  | .passThrough => .ok p
  | .setDumpable =>
    if regs.arg 2 = 0 then
      (fun p => { p with dumpable := false }) <$> (p.setArg1Signed (-1)).emulateResult 0
    else if regs.arg 2 = 1 then .ok { p with dumpable := true }
    else .ok p
  | .getDumpable => p.emulateResult (if p.dumpable then 1 else 0)
  | .getSeccomp => p.emulateResult p.t.prctlSeccompStatus
  | .getTsc => do
    let p ← (p.setArg1Signed (-1)).emulateResult 0
    let r ← p.regParameterWithSize 2 (.ofSize 4) (some .InOutNoScratch)
    pure (r.1.writeValMem r.2 r.1.t.tscMode)
  | .setTsc =>
    let p := p.setArg1Signed (-1)
    let val := asI32 (regs.arg 2)
    if val ≠ prTscEnable ∧ val ≠ prTscSigsegv then p.emulateResult (2 ^ 64 - einval)
    else (fun p => { p with t := { p.t with tscMode := val } }) <$> p.emulateResult 0
  | .getName => Prod.fst <$> p.regParameterWithSize 2 (.ofSize 16) none
  | .setNoNewPrivs => .ok (if regs.arg 2 ≠ 1 then p.expect einval else p)
  | .setSeccomp =>
    let mode := regs.arg 2 % 2 ^ 32
    .ok (if mode = seccompModeStrict then p
      else if mode = seccompModeFilter then (if doneInitialExec then p.setArg1Signed (-1) else p)
      else p.expect einval)
  | .setPtracer => (p.setArg1Signed (-1)).emulateResult 0
  | .other => .ok (p.expect einval)

/-- `rec_prepare_syscall_arch`, on the registers of the syscall's entry. -/
def recPrepareSyscallArch (p : Preparing) (doneInitialExec : Bool) :
    Except String (Preparing × Switchable) :=
  let regs := p.t.tracee.regs
  let syscallno := p.t.ev.number
  let arch := p.t.ev.arch
  if p.t.originalSyscallno = seccompMagicSkipOriginalSyscallno then .ok (p, .PreventSwitch)
  else
    let p := p.setSyscallEntryRegisters regs
    if p.t.deschedRec ≠ 0 then
      if syscallno = arch.read ∧ regs.arg 2 = p.t.tracee.scratchPtr then
        (fun r => (r.1, .AllowSwitch)) <$>
          p.regParameterWithSize 2 (.fromSyscallResultWithSize arch.wordSize (regs.arg 3))
            (some .InOutNoScratch)
      else .ok (p, .AllowSwitch)
    else if syscallno < 0 then .ok (p.expect enosys, .PreventSwitch)
    else if syscallno = arch.prctl then (·, .PreventSwitch) <$> recPreparePrctl p doneInitialExec
    else .error "not implemented"

/-- The first lines of `rec_prepare_syscall`: the task's syscall state, or a
new one initialised from the task. -/
def RecordTask.syscallStateOrNew (t : RecordTask) : Except String SyscallState :=
  match t.syscallState with
  | some ss => .ok ss
  | none => (⟨·, 0⟩) <$> (TaskSyscallState.new t.tracee.tuid).init t.tracee

/-- `rec_prepare_syscall(t)`: the task afterwards, its thread group's
`dumpable` flag, and whether the syscall may switch. -/
def recPrepareSyscall (t : RecordTask) (dumpable doneInitialExec : Bool) :
    Except String (RecordTask × Bool × Switchable) := do
  let ss ← t.syscallStateOrNew
  let r ← recPrepareSyscallArch ⟨t, ss, dumpable⟩ doneInitialExec
  if isSigreturn r.1.t.ev.number r.1.t.ev.arch then
    pure ({ r.1.t with syscallState := none }, r.1.dumpable, r.2)
  else do
    let d ← r.1.ss.st.donePreparing r.1.t.tracee r.2
    pure ({ r.1.t with tracee := d.2.1, syscallState := some { r.1.ss with st := d.1 } },
      r.1.dumpable, d.2.2)

theorem Except.map_eq_ok {ε α β : Type} {f : α → β} {x : Except ε α} {b : β} (h : f <$> x = .ok b) :
    ∃ a, x = .ok a ∧ f a = b := by
  cases x with
  | error e => cases h
  | ok a => exact ⟨a, rfl, Except.ok.inj h⟩

/-! ## Registration and `done_preparing` without switching -/

namespace TaskSyscallState

/-- A registration without a mutator never fails. It returns the argument's
value, null once preparation is done, and it appends parameters without a
mutator and does not lower `scratch`. -/
theorem regParameterWithSize_none (st : TaskSyscallState) (arg : Nat) (ps : ParamSize)
    (mode : Option ArgMode) :
    ∃ st', st.regParameterWithSize arg ps mode none =
        .ok (st', if st.preparationDone then 0 else st.syscallEntryRegisters.arg arg) ∧
      st' = { st with paramList := st'.paramList, scratch := st'.scratch } ∧ st.scratch ≤ st'.scratch ∧
      ∀ q ∈ st'.paramList, q ∈ st.paramList ∨ q.maybeMutator = none := by
  unfold regParameterWithSize
  by_cases hd : st.preparationDone = true
  · rw [if_pos hd, if_pos hd]
    exact ⟨st, rfl, rfl, le_rfl, fun q hq => .inl hq⟩
  rw [if_neg hd, if_neg hd]
  by_cases h0 : st.syscallEntryRegisters.arg arg = 0
  · rw [if_pos h0, h0]
    exact ⟨st, rfl, rfl, le_rfl, fun q hq => .inl hq⟩
  rw [if_neg h0]
  simp only [addParam, Option.isNone_none, Bool.true_or, if_true]
  split
  · refine ⟨_, rfl, rfl, Nat.le_trans (Nat.le_add_right _ _) (le_alignScratch _), ?_⟩
    simp only [List.mem_append, List.mem_singleton]
    rintro q (hq | rfl)
    exacts [.inl hq, .inr rfl]
  · refine ⟨_, rfl, rfl, le_rfl, ?_⟩
    simp only [List.mem_append, List.mem_singleton]
    rintro q (hq | rfl)
    exacts [.inl hq, .inr rfl]

/-- Step 3 of `done_preparing` changes nothing when no parameter has a mutator. -/
theorem runMutators_of_none (se : Bool) : ∀ (ps : List MemoryParam) (t : Tracee) (saved : List UInt8),
    (∀ q ∈ ps, q.maybeMutator = none) → runMutators se ps t saved = (ps, t, saved)
  | [], _, _, _ => rfl
  | p :: ps, t, saved, h => by
    have hp : p.maybeMutator = none := h p (List.mem_cons_self _ _)
    simp only [runMutators, runMutator, hp,
      runMutators_of_none se ps t saved fun q hq => h q (List.mem_cons_of_mem _ hq)]

/-- A syscall that may not switch, with parameters without mutators, leaves
`done_preparing` with scratch off and the task as it was. -/
theorem donePreparing_preventSwitch {st : TaskSyscallState} {t : Tracee} (htu : st.tuid = t.tuid)
    (hpd : st.preparationDone = false) (hsc : t.scratchPtr ≤ st.scratch)
    (hm : ∀ q ∈ st.paramList, q.maybeMutator = none) :
    st.donePreparing t .PreventSwitch = .ok ({ st with
      preparationDone := true, writeBack := .WriteBack, switchable := .PreventSwitch }, t, .PreventSwitch) := by
  have hi : st.donePreparingInternal t .PreventSwitch = .ok ({ st with
      preparationDone := true, writeBack := .WriteBack, switchable := .PreventSwitch }, t, .PreventSwitch) := by
    unfold donePreparingInternal
    simp only [hpd, Bool.false_eq_true, if_false, Nat.not_lt.mpr hsc]
    split_ifs <;> simp_all
  simp only [donePreparing, htu, hpd, ne_eq, not_true_eq_false, if_false, Bool.false_eq_true, hi,
    runMutators_of_none _ _ _ _ hm]

end TaskSyscallState

/-- A parameter recorded where it lies: `InOutNoScratch`, as
`reg_parameter_with_size` registers it, with no pointer in a register or in
memory, no size cell and no mutator. -/
structure MemoryParam.InPlace (q : MemoryParam) : Prop where
  mode : q.mode = .InOutNoScratch
  ptrInReg : q.ptrInReg = 0
  ptrInMemory : q.ptrInMemory = 0
  memPtr : q.numBytes.memPtr = 0
  mutator : q.maybeMutator = none

namespace TaskSyscallState

/-- Step 1 of `done_preparing_internal` copies nothing of parameters recorded
in place. -/
theorem copyParamsToScratch_of_inPlace : ∀ (ps : List MemoryParam) (t : Tracee),
    (∀ q ∈ ps, q.InPlace) → copyParamsToScratch ps t = t
  | [], _, _ => rfl
  | p :: ps, t, h => by
    have hp := h p (List.mem_cons_self _ _)
    simp only [copyParamsToScratch, hp.mode, reduceCtorEq, or_self, if_false]
    exact copyParamsToScratch_of_inPlace ps t fun q hq => h q (List.mem_cons_of_mem _ hq)

/-- Step 2 of `done_preparing_internal` relocates nothing of parameters
recorded in place. -/
theorem relocateParams_of_inPlace (paramList : List MemoryParam) :
    ∀ (ps : List MemoryParam) (r : Registers) (t : Tracee),
      (∀ q ∈ ps, q.InPlace) → relocateParams paramList ps r t = .ok (r, t, ps)
  | [], _, _, _ => rfl
  | p :: ps, r, t, h => by
    have hp := h p (List.mem_cons_self _ _)
    simp only [relocateParams, relocateReg, relocateMemPtr, relocateSizeCell, hp.ptrInReg,
      hp.ptrInMemory, hp.memPtr, ne_eq, not_true_eq_false, if_false, pure_bind,
      relocateParams_of_inPlace paramList ps r t fun q hq => h q (List.mem_cons_of_mem _ hq)]
    rfl

/-- `InOutNoScratch` registration appends the parameter, recorded in place,
unless its address is null. -/
theorem regParameterWithSize_inOutNoScratch (st : TaskSyscallState) (hpd : st.preparationDone = false)
    (arg : Nat) (ps : ParamSize) :
    st.regParameterWithSize arg ps (some .InOutNoScratch) none =
      .ok ({ st with paramList := st.paramList ++
          if st.syscallEntryRegisters.arg arg = 0 then []
          else [{ MemoryParam.default with
                  dest := st.syscallEntryRegisters.arg arg
                  numBytes := ps
                  mode := .InOutNoScratch }] },
        st.syscallEntryRegisters.arg arg) := by
  unfold regParameterWithSize
  rw [if_neg (ne_true_of_eq_false hpd)]
  by_cases h0 : st.syscallEntryRegisters.arg arg = 0
  · rw [if_pos h0, if_pos h0, h0, List.append_nil]
  · rw [if_neg h0, if_neg h0]
    rfl

/-- `done_preparing` of parameters recorded in place, `scratch` being where
`init` put it, leaves the task as it was and the switch as asked, whatever
was asked, and keeps the parameters. -/
theorem donePreparing_inPlace {st : TaskSyscallState} {t : Tracee} (htu : st.tuid = t.tuid)
    (hpd : st.preparationDone = false) (hsc : st.scratch = t.scratchPtr)
    (hp : ∀ q ∈ st.paramList, q.InPlace) (sw : Switchable) :
    ∃ st', st.donePreparing t sw = .ok (st', t, sw) ∧ st'.paramList = st.paramList := by
  have hi : ∃ st', st.donePreparingInternal t sw = .ok (st', t, sw) ∧
      st'.paramList = st.paramList ∧ st'.switchable = sw := by
    unfold donePreparingInternal
    simp only [hpd, Bool.false_eq_true, if_false, hsc, Nat.lt_irrefl,
      Nat.not_lt.mpr (Nat.le_add_right _ _), and_false]
    split_ifs
    · exact ⟨_, rfl, rfl, rfl⟩
    · exact ⟨_, rfl, rfl, rfl⟩
    · simp only [copyParamsToScratch_of_inPlace _ _ hp, relocateParams_of_inPlace _ _ _ _ hp]
      exact ⟨_, rfl, rfl, rfl⟩
  obtain ⟨st', hi, hpl, rfl⟩ := hi
  have hm : ∀ q ∈ st'.paramList, q.maybeMutator = none := fun q hq => (hp q (hpl ▸ hq)).mutator
  refine ⟨st', ?_, hpl⟩
  simp only [donePreparing, htu, hpd, ne_eq, not_true_eq_false, if_false, Bool.false_eq_true, hi,
    runMutators_of_none _ _ _ _ hm]

end TaskSyscallState

theorem wordValue_wordBytes : ∀ w v : Nat, wordValue (wordBytes w v) = v % 256 ^ w
  | 0, v => by simp [wordBytes, wordValue, Nat.mod_one]
  | w + 1, v => by
    have h1 : v.toUInt8.toNat = v % 256 := by
      simp only [Nat.toUInt8, UInt8.toNat, UInt8.ofNat, BitVec.toNat_ofNat]
    have hv : wordValue (wordBytes (w + 1) v) = v.toUInt8.toNat + 256 * wordValue (wordBytes w (v / 256)) := rfl
    rw [hv, wordValue_wordBytes w, h1, pow_succ', Nat.mod_mul]

/-! ## What the prctl branch does -/

/-- The syscall state has not been prepared and has no emulated result, as a
new `TaskSyscallState`. -/
structure SyscallState.Fresh (ss : SyscallState) : Prop where
  notDone : ss.st.preparationDone = false
  notEmulated : ss.st.shouldEmulateResult = false

namespace PrctlArm

/-- Whether rd keeps the call from the kernel by making its option `-1`. -/
def withheld (arm : PrctlArm) (arg2 : Nat) (doneInitialExec : Bool) : Bool :=
  arm == .getTsc || arm == .setTsc || arm == .setPtracer || (arm == .setDumpable && arg2 == 0) ||
    (arm == .setSeccomp && arg2 % 2 ^ 32 == seccompModeFilter && doneInitialExec)

/-- `PR_SET_TSC`'s argument is one of the two TSC modes. -/
def ValidTsc (arg2 : Nat) : Prop := asI32 arg2 = prTscEnable ∨ asI32 arg2 = prTscSigsegv

instance (arg2 : Nat) : Decidable (ValidTsc arg2) := inferInstanceAs (Decidable (_ ∨ _))

/-- The result rd emulates, if any. -/
def emulated (arm : PrctlArm) (arg2 : Nat) (dumpable : Bool) (status : Nat) : Option Nat :=
  match arm with
  | .setDumpable => if arg2 = 0 then some 0 else none
  | .getDumpable => some (if dumpable then 1 else 0)
  | .getSeccomp => some status
  | .getTsc | .setPtracer => some 0
  | .setTsc => some (if ValidTsc arg2 then 0 else 2 ^ 64 - einval)
  | _ => none

/-- The thread group's dumpable flag afterwards. -/
def dumpableAfter (arm : PrctlArm) (arg2 : Nat) (dumpable : Bool) : Bool :=
  if arm = .setDumpable ∧ arg2 = 0 then false
  else if arm = .setDumpable ∧ arg2 = 1 then true
  else dumpable

/-- The task's TSC mode afterwards. -/
def tscModeAfter (arm : PrctlArm) (arg2 : Nat) (mode : Int) : Int :=
  if arm = .setTsc ∧ ValidTsc arg2 then asI32 arg2 else mode

/-- `expect_errno` afterwards. -/
def expectAfter (arm : PrctlArm) (arg2 : Nat) (errno : Nat) : Nat :=
  match arm with
  | .setNoNewPrivs => if arg2 ≠ 1 then einval else errno
  | .setSeccomp =>
    if arg2 % 2 ^ 32 = seccompModeStrict ∨ arg2 % 2 ^ 32 = seccompModeFilter then errno else einval
  | .other => einval
  | _ => errno

/-- `PR_SET_TSC` reads the low 32 bits of `arg2`: they name a TSC mode when
they are 1 or 2, whatever the upper bits. -/
theorem validTsc_iff (a : Nat) : ValidTsc a ↔ a % 2 ^ 32 = 1 ∨ a % 2 ^ 32 = 2 := by
  unfold ValidTsc asI32 prTscEnable prTscSigsegv
  split_ifs <;> omega

theorem asI32_of_validTsc {a : Nat} (h : ValidTsc a) : asI32 a = ((a % 2 ^ 32 : Nat) : Int) := by
  rw [validTsc_iff] at h
  unfold asI32
  rw [if_pos (by omega)]

theorem emulated_isSome_iff (arm : PrctlArm) (a : Nat) (dumpable : Bool) (status : Nat) (d : Bool) :
    (arm.emulated a dumpable status).isSome = true ↔
      (arm.withheld a d = true ∧ arm ≠ .setSeccomp) ∨ arm = .getDumpable ∨ arm = .getSeccomp := by
  cases arm <;> simp [emulated, withheld]

end PrctlArm

namespace Preparing

open PrctlArm

/-- The arm the prctl being prepared selects. -/
def arm (p : Preparing) : PrctlArm := PrctlArm.ofOption (p.t.tracee.regs.arg 1 % 2 ^ 32)

/-- The prctl's second argument. -/
def arg2 (p : Preparing) : Nat := p.t.tracee.regs.arg 2

/-- What the prctl branch leaves of `p` in `p'`: the registers with option
`-1` when the call is withheld, the memory with the TSC mode at `arg2` for
`PR_GET_TSC`, the TSC mode, the dumpable flag, `expect_errno` and the emulated
result as each arm sets them, and parameters without mutator appended. -/
structure PrctlSpec (p : Preparing) (doneInitialExec : Bool) (p' : Preparing) : Prop where
  task : p'.t = { p.t with
    tracee := { p.t.tracee with
      regs := if p.arm.withheld p.arg2 doneInitialExec then
        p.t.tracee.regs.setArg1Signed p.t.ev.arch (-1) else p.t.tracee.regs
      mem := if p.arm = .getTsc then
        writeMem p.t.tracee.mem (p.ss.st.syscallEntryRegisters.arg 2) (wordBytes 4 (p.t.tscMode % 2 ^ 32).toNat)
        else p.t.tracee.mem }
    tscMode := p.arm.tscModeAfter p.arg2 p.t.tscMode }
  dumpable : p'.dumpable = p.arm.dumpableAfter p.arg2 p.dumpable
  expectErrno : p'.ss.expectErrno = p.arm.expectAfter p.arg2 p.ss.expectErrno
  st : p'.ss.st = match p.arm.emulated p.arg2 p.dumpable p.t.prctlSeccompStatus with
    | some v =>
      { p.ss.st with
        paramList := p'.ss.st.paramList
        scratch := p'.ss.st.scratch
        shouldEmulateResult := true
        emulatedResult := v }
    | none => { p.ss.st with paramList := p'.ss.st.paramList, scratch := p'.ss.st.scratch }
  scratch_le : p.ss.st.scratch ≤ p'.ss.st.scratch
  params : ∀ q ∈ p'.ss.st.paramList, q ∈ p.ss.st.paramList ∨ q.maybeMutator = none

theorem PrctlSpec.st_eq {p p' : Preparing} {d : Bool} (h : p.PrctlSpec d p') :
    p'.ss.st = { p.ss.st with
      paramList := p'.ss.st.paramList
      scratch := p'.ss.st.scratch
      shouldEmulateResult := p'.ss.st.shouldEmulateResult
      emulatedResult := p'.ss.st.emulatedResult } := by
  have := h.st
  split at this <;> rw [this]

variable {p p' : Preparing} {d : Bool}

theorem emulateResult_of_fresh (hf : p.ss.Fresh) (r : Nat) :
    p.emulateResult r = .ok { p with ss := { p.ss with st :=
      { p.ss.st with shouldEmulateResult := true, emulatedResult := r } } } := by
  simp only [emulateResult, hf.notDone, hf.notEmulated]
  rfl

theorem emulateResult_eq_ok {r : Nat} (h : p.emulateResult r = .ok p') :
    p.ss.Fresh ∧ p' = { p with ss := { p.ss with st :=
      { p.ss.st with shouldEmulateResult := true, emulatedResult := r } } } := by
  unfold emulateResult at h
  split_ifs at h with h₁ h₂
  cases h
  exact ⟨⟨by simpa using h₁, by simpa using h₂⟩, rfl⟩

theorem regParameterWithSize_eq (arg : Nat) (ps : ParamSize) (mode : Option ArgMode) :
    ∃ st', p.regParameterWithSize arg ps mode = .ok ({ p with ss := { p.ss with st := st' } },
        if p.ss.st.preparationDone then 0 else p.ss.st.syscallEntryRegisters.arg arg) ∧
      st' = { p.ss.st with paramList := st'.paramList, scratch := st'.scratch } ∧
      p.ss.st.scratch ≤ st'.scratch ∧
      ∀ q ∈ st'.paramList, q ∈ p.ss.st.paramList ∨ q.maybeMutator = none := by
  obtain ⟨st', h, hst, hle, hq⟩ := p.ss.st.regParameterWithSize_none arg ps mode
  exact ⟨st', by rw [regParameterWithSize, h]; rfl, hst, hle, hq⟩

theorem ofOption_eq_arm : PrctlArm.ofOption (p.t.tracee.regs.arg 1 % 2 ^ 32) = p.arm := rfl

/-- **What the prctl branch does**, stated once for every option: what it
returns is what `PrctlSpec` says. -/
theorem recPreparePrctl_spec (h : recPreparePrctl p d = .ok p') : PrctlSpec p d p' := by
  rw [recPreparePrctl, ofOption_eq_arm] at h
  rcases harm : p.arm <;> rw [harm] at h <;> dsimp only at h
  case recordInt | getName =>
    obtain ⟨st', hreg, hst, hle, hq⟩ := regParameterWithSize_eq (p := p) 2 (.ofSize _) none
    rw [hreg, Except.map_ok] at h
    obtain rfl := Except.ok.inj h
    refine ⟨?_, ?_, ?_, by simpa [emulated, harm] using hst, hle, hq⟩ <;>
      simp [withheld, tscModeAfter, dumpableAfter, expectAfter, harm]
  case passThrough | other =>
    obtain rfl := Except.ok.inj h
    refine ⟨?_, ?_, ?_, ?_, le_rfl, fun q hq => .inl hq⟩ <;>
      simp [withheld, tscModeAfter, dumpableAfter, expectAfter, emulated, harm]
  case setNoNewPrivs =>
    split_ifs at h with h1 <;> obtain rfl := Except.ok.inj h <;>
      refine ⟨?_, ?_, ?_, ?_, le_rfl, fun q hq => .inl hq⟩ <;>
        simp [withheld, tscModeAfter, dumpableAfter, expectAfter, emulated, harm, arg2, h1]
  case setSeccomp =>
    simp only [seccompModeStrict, seccompModeFilter] at h
    split_ifs at h with hs hf' <;> obtain rfl := Except.ok.inj h <;> cases d <;>
      refine ⟨?_, ?_, ?_, ?_, le_rfl, fun q hq => .inl hq⟩ <;>
        simp_all [Tracee.setRegs, withheld, tscModeAfter, dumpableAfter, expectAfter, emulated, arg2,
          seccompModeStrict, seccompModeFilter]
  case getDumpable | getSeccomp | setPtracer =>
    obtain ⟨-, rfl⟩ := emulateResult_eq_ok h
    refine ⟨?_, ?_, ?_, ?_, le_rfl, fun q hq => .inl hq⟩ <;>
      simp [Tracee.setRegs, withheld, tscModeAfter, dumpableAfter, expectAfter, emulated, harm]
  case setDumpable =>
    split_ifs at h with h0 h1
    · obtain ⟨q, hq, rfl⟩ := Except.map_eq_ok h
      obtain ⟨-, rfl⟩ := emulateResult_eq_ok hq
      refine ⟨?_, ?_, ?_, ?_, le_rfl, fun q hq => .inl hq⟩ <;>
        simp [Tracee.setRegs, withheld, tscModeAfter, dumpableAfter, expectAfter, emulated, harm, arg2, h0]
    all_goals
      obtain rfl := Except.ok.inj h
      refine ⟨?_, ?_, ?_, ?_, le_rfl, fun q hq => .inl hq⟩ <;>
        simp [withheld, tscModeAfter, dumpableAfter, expectAfter, emulated, harm, arg2, h0, h1]
  case setTsc =>
    have hv : ValidTsc p.arg2 ↔ ¬(asI32 p.arg2 ≠ prTscEnable ∧ asI32 p.arg2 ≠ prTscSigsegv) := by
      unfold ValidTsc; tauto
    simp only [arg2] at hv
    split_ifs at h with hv'
    · obtain ⟨-, rfl⟩ := emulateResult_eq_ok h
      refine ⟨?_, ?_, ?_, ?_, le_rfl, fun q hq => .inl hq⟩ <;>
        simp [Tracee.setRegs, withheld, tscModeAfter, dumpableAfter, expectAfter, emulated, harm, arg2,
          hv.not_left.mpr hv']
    · obtain ⟨q, hq, rfl⟩ := Except.map_eq_ok h
      obtain ⟨-, rfl⟩ := emulateResult_eq_ok hq
      refine ⟨?_, ?_, ?_, ?_, le_rfl, fun q hq => .inl hq⟩ <;>
        simp [Tracee.setRegs, withheld, tscModeAfter, dumpableAfter, expectAfter, emulated, harm, arg2,
          hv.mpr hv']
  case getTsc =>
    obtain ⟨q, hq, h⟩ := Except.bind_eq_ok.mp h
    obtain ⟨hf, rfl⟩ := emulateResult_eq_ok hq
    obtain ⟨st', hreg, hst, hle, hqs⟩ := regParameterWithSize_eq
      (p := { p.setArg1Signed (-1) with ss := { (p.setArg1Signed (-1)).ss with st :=
        { (p.setArg1Signed (-1)).ss.st with shouldEmulateResult := true, emulatedResult := 0 } } })
      2 (.ofSize 4) (some .InOutNoScratch)
    rw [hreg, Except.ok_bind] at h
    obtain rfl := Except.ok.inj h
    have hd : p.ss.st.preparationDone = false := hf.notDone
    refine ⟨?_, ?_, ?_, by simpa [emulated, harm] using hst, hle, hqs⟩ <;>
      simp [Tracee.setRegs, Tracee.writeMem, withheld, tscModeAfter, dumpableAfter, expectAfter, harm, hd]

/-- **The prctl branch never fails on a fresh syscall state**: no arm emulates
twice, and registrations without a mutator cannot fail. -/
theorem recPreparePrctl_ok (hf : p.ss.Fresh) (d : Bool) : ∃ p', recPreparePrctl p d = .ok p' := by
  rw [recPreparePrctl, ofOption_eq_arm]
  have he₁ := emulateResult_of_fresh (p := p.setArg1Signed (-1)) hf
  obtain ⟨st₁, h₁, -⟩ := regParameterWithSize_eq (p := p) 2 (.ofSize 4) none
  obtain ⟨st₂, h₂, -⟩ := regParameterWithSize_eq (p := p) 2 (.ofSize 16) none
  obtain ⟨st₃, h₃, -⟩ := regParameterWithSize_eq (p := { p.setArg1Signed (-1) with ss :=
    { (p.setArg1Signed (-1)).ss with st :=
      { (p.setArg1Signed (-1)).ss.st with shouldEmulateResult := true, emulatedResult := 0 } } })
    2 (.ofSize 4) (some .InOutNoScratch)
  cases p.arm <;> dsimp only <;>
    (try simp only [emulateResult_of_fresh hf, he₁, h₁, h₂, h₃, Except.map_ok, Except.ok_bind]) <;>
    (try split_ifs) <;> exact ⟨_, rfl⟩

theorem PrctlSpec.shouldEmulateResult (h : p.PrctlSpec d p') (hf : p.ss.Fresh) :
    p'.ss.st.shouldEmulateResult = (p.arm.emulated p.arg2 p.dumpable p.t.prctlSeccompStatus).isSome := by
  have := h.st
  split at this <;> rw [this]
  · next he => rw [he]; rfl
  · next he => rw [he]; exact hf.notEmulated

theorem PrctlSpec.emulatedResult (h : p.PrctlSpec d p') (v : Nat)
    (hv : p.arm.emulated p.arg2 p.dumpable p.t.prctlSeccompStatus = some v) :
    p'.ss.st.emulatedResult = v := by
  have := h.st
  rw [hv] at this
  rw [this]

end Preparing

/-! ## Every path of the preparation -/

/-- The prctl arm of the option the task entered with. -/
abbrev RecordTask.prctlArm (t : RecordTask) : PrctlArm := PrctlArm.ofOption (t.tracee.regs.arg 1 % 2 ^ 32)

section Paths

open Preparing

variable {p p' : Preparing} {d : Bool} {sw : Switchable}

/-- The TSC mode a prctl leaves is the task's, or one of the two modes. -/
theorem PrctlArm.tscModeAfter_cases (arm : PrctlArm) (a : Nat) (m : Int) :
    arm.tscModeAfter a m = m ∨ arm.tscModeAfter a m = prTscEnable ∨
      arm.tscModeAfter a m = prTscSigsegv := by
  unfold tscModeAfter
  split_ifs with h
  · exact .inr h.2
  · exact .inl rfl

/-- Preparing any syscall changes the task's TSC mode only to one of the two
modes and never its seccomp status, and the thread group's dumpable flag only
as a prctl does. -/
theorem recPrepareSyscallArch_task (h : recPrepareSyscallArch p d = .ok (p', sw)) :
    p'.t.prctlSeccompStatus = p.t.prctlSeccompStatus ∧
      (p'.t.tscMode = p.t.tscMode ∨ p'.t.tscMode = prTscEnable ∨ p'.t.tscMode = prTscSigsegv) ∧
      (p'.dumpable = p.dumpable ∨
        p.t.ev.number = p.t.ev.arch.prctl ∧ p'.dumpable = p.arm.dumpableAfter p.arg2 p.dumpable) := by
  unfold recPrepareSyscallArch at h
  dsimp only at h
  split_ifs at h with _ _ _ _ hno
  · cases h; exact ⟨rfl, .inl rfl, .inl rfl⟩
  · obtain ⟨r, hr, hq⟩ := Except.map_eq_ok h
    obtain ⟨st', hreg, -⟩ := regParameterWithSize_eq (p := p.setSyscallEntryRegisters p.t.tracee.regs) 2
      (.fromSyscallResultWithSize p.t.ev.arch.wordSize (p.t.tracee.regs.arg 3)) (some .InOutNoScratch)
    rw [hreg] at hr
    cases hr; cases hq; exact ⟨rfl, .inl rfl, .inl rfl⟩
  · cases h; exact ⟨rfl, .inl rfl, .inl rfl⟩
  · cases h; exact ⟨rfl, .inl rfl, .inl rfl⟩
  · obtain ⟨q, hq, hq'⟩ := Except.map_eq_ok h
    cases hq'
    have hspec := recPreparePrctl_spec hq
    have ht := congrArg RecordTask.tscMode hspec.task
    have hs := congrArg RecordTask.prctlSeccompStatus hspec.task
    exact ⟨hs, ht ▸ PrctlArm.tscModeAfter_cases _ _ _, .inr ⟨hno, hspec.dumpable⟩⟩

/-- The same for the whole of `rec_prepare_syscall`. -/
theorem recPrepareSyscall_task {t t' : RecordTask} {dumpable dumpable' d : Bool} {sw : Switchable}
    (h : recPrepareSyscall t dumpable d = .ok (t', dumpable', sw)) :
    t'.prctlSeccompStatus = t.prctlSeccompStatus ∧
      (t'.tscMode = t.tscMode ∨ t'.tscMode = prTscEnable ∨ t'.tscMode = prTscSigsegv) ∧
      (dumpable' = dumpable ∨
        t.ev.number = t.ev.arch.prctl ∧
          dumpable' = t.prctlArm.dumpableAfter (t.tracee.regs.arg 2) dumpable) := by
  obtain ⟨ss, -, h⟩ := Except.bind_eq_ok.mp h
  obtain ⟨r, hr, h⟩ := Except.bind_eq_ok.mp h
  have := recPrepareSyscallArch_task hr
  split at h
  · cases h; exact this
  · obtain ⟨_, -, h⟩ := Except.bind_eq_ok.mp h
    cases h; exact this

end Paths

/-! ## `rec_prepare_syscall` of a prctl -/

/-- The state `rec_prepare_syscall_arch` works on for a task that had no
syscall state: a new `TaskSyscallState` initialised from the task, holding the
entry registers. -/
def RecordTask.entryState (t : RecordTask) (dumpable : Bool) : Preparing :=
  ⟨t, ⟨{ TaskSyscallState.new t.tracee.tuid with
    scratch := t.tracee.scratchPtr, syscallEntryRegisters := t.tracee.regs }, 0⟩, dumpable⟩

/-- A task without a syscall state gets a new one, with `scratch` at the
task's scratch area. -/
theorem RecordTask.syscallStateOrNew_of_none {t : RecordTask} (hs : t.syscallState = none) :
    t.syscallStateOrNew = .ok ⟨{ TaskSyscallState.new t.tracee.tuid with
      scratch := t.tracee.scratchPtr }, 0⟩ := by
  simp [RecordTask.syscallStateOrNew, hs, TaskSyscallState.init, TaskSyscallState.new]

theorem SupportedArch.isSigreturn_prctl (arch : SupportedArch) : isSigreturn arch.prctl arch = false := by
  cases arch <;> decide

theorem SupportedArch.prctl_pos (arch : SupportedArch) : 0 < arch.prctl := by
  cases arch <;> decide

/-- The task `rec_prepare_syscall` leaves after the prctl branch left `p'`. -/
abbrev PrctlResult (p' : Preparing) : RecordTask :=
  { p'.t with syscallState := some { p'.ss with st :=
    { p'.ss.st with preparationDone := true, writeBack := .WriteBack, switchable := .PreventSwitch } } }

/-- An x64 task that has just entered `prctl(option, arg2)`, with no syscall
state yet, TSC mode `tscMode` and seccomp status 0. -/
def RecordTask.enteringPrctl (option arg2 : Nat) (tscMode : Int) : RecordTask :=
  ⟨⟨1, .x64, fun _ => 0, ⟨fun i => if i = 1 then option else if i = 2 then arg2 else 0, 0⟩,
    0x7000, 4096⟩,
    ⟨157, .x64⟩, 157, 0, none, tscMode, 0⟩

section PrctlEntry

variable {t : RecordTask} {dumpable d : Bool}
  (hs : t.syscallState = none) (hno : t.ev.number = t.ev.arch.prctl)
  (hveto : t.originalSyscallno ≠ seccompMagicSkipOriginalSyscallno) (hdesched : t.deschedRec = 0)
include hs hno hveto hdesched

/-- `rec_prepare_syscall` of a prctl is the prctl branch followed by a
`done_preparing` that changes nothing but the syscall state's flags. -/
theorem recPrepareSyscall_prctl_spec (dumpable d : Bool) :
    ∃ p', (t.entryState dumpable).PrctlSpec d p' ∧
      recPrepareSyscall t dumpable d = .ok (PrctlResult p', p'.dumpable, .PreventSwitch) := by
  have hss := RecordTask.syscallStateOrNew_of_none hs
  have hfresh : (t.entryState dumpable).ss.Fresh := ⟨rfl, rfl⟩
  obtain ⟨p', hp'⟩ := Preparing.recPreparePrctl_ok hfresh d
  have hspec := Preparing.recPreparePrctl_spec hp'
  have harch : recPrepareSyscallArch ⟨t, ⟨{ TaskSyscallState.new t.tracee.tuid with
      scratch := t.tracee.scratchPtr }, 0⟩, dumpable⟩ d = .ok (p', .PreventSwitch) := by
    have hneg : ¬ t.ev.arch.prctl < 0 := not_lt.mpr t.ev.arch.prctl_pos.le
    simp only [recPrepareSyscallArch, Preparing.setSyscallEntryRegisters_t, hveto, hdesched, hneg, hno,
      if_false, ne_eq, not_true_eq_false, if_true]
    erw [hp']; rfl
  have hsig : isSigreturn p'.t.ev.number p'.t.ev.arch = false := by
    rw [show p'.t.ev = t.ev by rw [hspec.task]; rfl, hno]
    exact t.ev.arch.isSigreturn_prctl
  have hst := hspec.st_eq
  have htr : p'.t.tracee = _ := congrArg RecordTask.tracee hspec.task
  have hdone := TaskSyscallState.donePreparing_preventSwitch
    (show p'.ss.st.tuid = p'.t.tracee.tuid by rw [hst, htr]; rfl) (by rw [hst]; rfl)
    (by rw [htr]; exact hspec.scratch_le)
    (fun q hq => (hspec.params q hq).resolve_left (List.not_mem_nil q))
  refine ⟨p', hspec, ?_⟩
  simp only [recPrepareSyscall, hss, Except.ok_bind, harch, hsig, Bool.false_eq_true, if_false, hdone]
  rfl

/-- **`PR_SET_TSC` reads only the low 32 bits of its argument.** When they
are `PR_TSC_ENABLE` or `PR_TSC_SIGSEGV`, whatever the upper bits, the task's
TSC mode becomes them and the emulated result is 0; otherwise the mode stays
and the emulated result is `-EINVAL`. -/
theorem recPrepareSyscall_setTsc (harm : t.prctlArm = .setTsc) :
    ∃ t' dumpable' ss, recPrepareSyscall t dumpable d = .ok (t', dumpable', .PreventSwitch) ∧
      t'.syscallState = some ss ∧
      if t.tracee.regs.arg 2 % 2 ^ 32 = 1 ∨ t.tracee.regs.arg 2 % 2 ^ 32 = 2 then
        t'.tscMode = ((t.tracee.regs.arg 2 % 2 ^ 32 : Nat) : Int) ∧ ss.st.emulatedResult = 0
      else t'.tscMode = t.tscMode ∧ ss.st.emulatedResult = 2 ^ 64 - einval := by
  obtain ⟨p', hspec, h⟩ := recPrepareSyscall_prctl_spec hs hno hveto hdesched dumpable d
  have htsc : p'.t.tscMode = _ := congrArg RecordTask.tscMode hspec.task
  have hres := hspec.emulatedResult
  simp only [Preparing.arm, Preparing.arg2, RecordTask.entryState, harm, PrctlArm.emulated,
    PrctlArm.tscModeAfter, true_and] at htsc hres
  refine ⟨_, _, _, h, rfl, ?_⟩
  by_cases hv : PrctlArm.ValidTsc (t.tracee.regs.arg 2)
  · rw [if_pos ((PrctlArm.validTsc_iff _).mp hv)]
    rw [if_pos hv] at htsc hres
    exact ⟨htsc.trans (PrctlArm.asI32_of_validTsc hv), hres 0 rfl⟩
  · rw [if_neg (mt (PrctlArm.validTsc_iff _).mpr hv)]
    rw [if_neg hv] at htsc hres
    exact ⟨htsc, hres _ rfl⟩

omit hs hno hveto hdesched in
/-- `PR_SET_TSC` with `2^32 + 2` sets `PR_TSC_SIGSEGV`. -/
theorem recPrepareSyscall_setTsc_upper_bits :
    ∃ t, t = RecordTask.enteringPrctl 26 (2 ^ 32 + 2) 1 ∧
      (t.syscallState = none ∧ t.ev.number = t.ev.arch.prctl ∧
        t.originalSyscallno ≠ seccompMagicSkipOriginalSyscallno ∧ t.deschedRec = 0 ∧
        t.prctlArm = .setTsc) ∧
      ∃ t' dumpable' ss, recPrepareSyscall t false true = .ok (t', dumpable', .PreventSwitch) ∧
        t'.syscallState = some ss ∧
        if t.tracee.regs.arg 2 % 2 ^ 32 = 1 ∨ t.tracee.regs.arg 2 % 2 ^ 32 = 2 then
          t'.tscMode = ((t.tracee.regs.arg 2 % 2 ^ 32 : Nat) : Int) ∧ ss.st.emulatedResult = 0
        else t'.tscMode = t.tscMode ∧ ss.st.emulatedResult = 2 ^ 64 - einval :=
  ⟨_, rfl, ⟨rfl, rfl, by decide, rfl, by decide⟩,
    recPrepareSyscall_setTsc rfl rfl (by decide) rfl (by decide)⟩

end PrctlEntry

/-! ## Syscalls rd does not prepare -/

/-- An x64 task descheduled in `read(fd, buf, count)` on its scratch buffer,
with no syscall state yet. -/
def RecordTask.descheduledRead (count : Nat) : RecordTask :=
  ⟨⟨1, .x64, fun _ => 0, ⟨fun i => if i = 2 then 0x7000 else if i = 3 then count else 0, 0⟩,
    0x7000, 4096⟩,
    ⟨0, .x64⟩, 0, 0x9000, none, 0, 0⟩

/-- **A syscall the task was descheduled in is recorded from the syscall
buffer.** `rec_prepare_syscall` allows a context switch and changes nothing of
the task but its syscall state. Unless the syscall is a `sigreturn`, the only
parameter it registers is the buffer of a `read` into the scratch area,
recorded in place with the size the syscall returns. -/
theorem recPrepareSyscall_desched {t : RecordTask} {dumpable d : Bool} (hs : t.syscallState = none)
    (hveto : t.originalSyscallno ≠ seccompMagicSkipOriginalSyscallno) (hdesched : t.deschedRec ≠ 0) :
    ∃ t', recPrepareSyscall t dumpable d = .ok (t', dumpable, .AllowSwitch) ∧
      t' = { t with syscallState := t'.syscallState } ∧
      t'.syscallState.map (·.st.paramList) =
        if isSigreturn t.ev.number t.ev.arch then none
        else some (if t.ev.number = t.ev.arch.read ∧ t.tracee.regs.arg 2 = t.tracee.scratchPtr ∧
            t.tracee.regs.arg 2 ≠ 0 then
          [{ MemoryParam.default with
              dest := t.tracee.regs.arg 2
              mode := .InOutNoScratch
              numBytes := .fromSyscallResultWithSize t.ev.arch.wordSize (t.tracee.regs.arg 3) }]
          else []) := by
  generalize hL : (if t.ev.number = t.ev.arch.read ∧ t.tracee.regs.arg 2 = t.tracee.scratchPtr ∧
      t.tracee.regs.arg 2 ≠ 0 then
    [{ MemoryParam.default with
        dest := t.tracee.regs.arg 2
        mode := .InOutNoScratch
        numBytes := .fromSyscallResultWithSize t.ev.arch.wordSize (t.tracee.regs.arg 3) }]
    else []) = L
  have harch : recPrepareSyscallArch ⟨t, ⟨{ TaskSyscallState.new t.tracee.tuid with
      scratch := t.tracee.scratchPtr }, 0⟩, dumpable⟩ d =
      .ok ((⟨t, ⟨{ (t.entryState dumpable).ss.st with paramList := L }, 0⟩, dumpable⟩ : Preparing),
        .AllowSwitch) := by
    simp only [recPrepareSyscallArch, Preparing.setSyscallEntryRegisters_t, hveto, hdesched, ne_eq,
      not_false_eq_true, if_false, if_true]
    subst hL
    by_cases hr : t.ev.number = t.ev.arch.read ∧ t.tracee.regs.arg 2 = t.tracee.scratchPtr
    · rw [if_pos hr, Preparing.regParameterWithSize,
        TaskSyscallState.regParameterWithSize_inOutNoScratch _ rfl]
      split_ifs with h0 h1 h1
      · exact absurd h0 h1.2.2
      · rfl
      · rfl
      · exact absurd ⟨hr.1, hr.2, h0⟩ h1
    · rw [if_neg hr, if_neg fun h => hr ⟨h.1, h.2.1⟩]; rfl
  have hp : ∀ q ∈ L, q.InPlace := by
    subst hL
    split_ifs
    · simp only [List.mem_singleton]
      rintro q rfl
      exact ⟨rfl, rfl, rfl, rfl, rfl⟩
    · exact fun q hq => absurd hq (List.not_mem_nil q)
  obtain ⟨st', hdone, hpl⟩ := TaskSyscallState.donePreparing_inPlace
    (show ({ (t.entryState dumpable).ss.st with paramList := L } : TaskSyscallState).tuid =
      t.tracee.tuid from rfl) rfl rfl hp .AllowSwitch
  have hrun : recPrepareSyscall t dumpable d =
      if isSigreturn t.ev.number t.ev.arch then .ok ({ t with syscallState := none }, dumpable, .AllowSwitch)
      else .ok ({ t with syscallState := some ⟨st', 0⟩ }, dumpable, .AllowSwitch) := by
    simp only [recPrepareSyscall, RecordTask.syscallStateOrNew_of_none hs, Except.ok_bind, harch]
    split_ifs
    · rfl
    · rw [hdone]; rfl
  split_ifs at hrun ⊢
  · exact ⟨_, hrun, rfl, rfl⟩
  · exact ⟨_, hrun, rfl, congrArg some hpl⟩

/-- A descheduled `read` of 100 bytes into the scratch buffer registers its
buffer in place. -/
theorem recPrepareSyscall_desched_read :
    ∃ t, t = RecordTask.descheduledRead 100 ∧
      (t.syscallState = none ∧ t.originalSyscallno ≠ seccompMagicSkipOriginalSyscallno ∧
        t.deschedRec ≠ 0) ∧
      ∃ t', recPrepareSyscall t true false = .ok (t', true, .AllowSwitch) ∧
        t' = { t with syscallState := t'.syscallState } ∧
        t'.syscallState.map (·.st.paramList) =
          if isSigreturn t.ev.number t.ev.arch then none
          else some (if t.ev.number = t.ev.arch.read ∧ t.tracee.regs.arg 2 = t.tracee.scratchPtr ∧
              t.tracee.regs.arg 2 ≠ 0 then
            [{ MemoryParam.default with
                dest := t.tracee.regs.arg 2
                mode := .InOutNoScratch
                numBytes := .fromSyscallResultWithSize t.ev.arch.wordSize (t.tracee.regs.arg 3) }]
            else []) :=
  ⟨_, rfl, ⟨rfl, by decide, by decide⟩, recPrepareSyscall_desched rfl (by decide) (by decide)⟩

/-- **A syscall rd vetoed is not prepared.** `rec_prepare_syscall` prevents
a context switch and changes nothing of the task but its syscall state, which,
unless the syscall is a `sigreturn`, is a new state marked prepared: no
parameter, no emulated result, no expected errno, and not even the entry
registers recorded. -/
theorem recPrepareSyscall_vetoed {t : RecordTask} {dumpable d : Bool} (hs : t.syscallState = none)
    (hveto : t.originalSyscallno = seccompMagicSkipOriginalSyscallno) :
    ∃ t', recPrepareSyscall t dumpable d = .ok (t', dumpable, .PreventSwitch) ∧
      t' = { t with syscallState := t'.syscallState } ∧
      t'.syscallState = if isSigreturn t.ev.number t.ev.arch then none
        else some ⟨{ TaskSyscallState.new t.tracee.tuid with
          scratch := t.tracee.scratchPtr
          preparationDone := true
          writeBack := .WriteBack }, 0⟩ := by
  have harch (p : Preparing) (ht : p.t = t) : recPrepareSyscallArch p d = .ok (p, .PreventSwitch) := by
    simp only [recPrepareSyscallArch, ht, hveto, if_true]
  have hdone := TaskSyscallState.donePreparing_preventSwitch
    (show ({ TaskSyscallState.new t.tracee.tuid with scratch := t.tracee.scratchPtr } :
      TaskSyscallState).tuid = t.tracee.tuid from rfl)
    rfl le_rfl fun q hq => absurd hq (List.not_mem_nil q)
  simp only [recPrepareSyscall, RecordTask.syscallStateOrNew_of_none hs, Except.ok_bind, harch]
  split_ifs
  · exact ⟨_, rfl, rfl, rfl⟩
  · rw [hdone]
    exact ⟨_, rfl, rfl, rfl⟩

/-- A vetoed `PR_SET_DUMPABLE` with argument 0 is not emulated: the thread
group stays dumpable. -/
theorem recPrepareSyscall_vetoed_setDumpable :
    ∃ t, t = { RecordTask.enteringPrctl 4 0 0 with originalSyscallno := -2 } ∧
      (t.syscallState = none ∧ t.originalSyscallno = seccompMagicSkipOriginalSyscallno) ∧
      ∃ t', recPrepareSyscall t true false = .ok (t', true, .PreventSwitch) ∧
        t' = { t with syscallState := t'.syscallState } ∧
        t'.syscallState = if isSigreturn t.ev.number t.ev.arch then none
          else some ⟨{ TaskSyscallState.new t.tracee.tuid with
            scratch := t.tracee.scratchPtr
            preparationDone := true
            writeBack := .WriteBack }, 0⟩ :=
  ⟨_, rfl, ⟨rfl, rfl⟩, recPrepareSyscall_vetoed rfl rfl⟩

end RdCore.Syscall
