import RdCore.Syscall.Tracee

/-!
# RdCore — registering syscall memory parameters

Before a syscall runs, `rec_prepare_syscall_arch` registers the memory the
syscall reads or writes with the task's `TaskSyscallState`: a parameter whose
address is in an argument register (`reg_parameter_with_size`) or in memory
(`mem_ptr_parameter_with_size`). Each parameter that may use scratch is given
the next area of the task's scratch buffer, `scratch` advancing by the
parameter's incoming size rounded up to 8 (`align_scratch`).

Main results:

* `ScratchLayout` — the invariant of registration: `scratch` is 8-aligned and
  the scratch areas lie in `[t.scratch_ptr, scratch)` in registration order;
* `RegCall.apply_ok` — everything one registration call can do; the
  layout lemmas `RegCall.scratchLayout` and `Registered.call` follow from it;
* `Registered` — what the registration calls of `rec_prepare_syscall_arch`
  leave for `done_preparing`, kept by every call.
-/

namespace RdCore.Syscall

/-! ## Parameters -/

/-- `ParamSize`: the incoming size, known before the syscall, and where a
final size is read after it (the word at `mem_ptr`, or the syscall result). -/
structure ParamSize where
  incomingSize : Nat
  memPtr : Nat
  readSize : Nat
  fromSyscall : Bool
  deriving DecidableEq, Repr

/-- `ParamSize::default()`. -/
def ParamSize.default : ParamSize := ⟨0, 0, 0, false⟩

/-- `i32::MAX`. -/
def i32Max : Nat := 2 ^ 31 - 1

/-- `impl From<usize> for ParamSize`. -/
def ParamSize.ofSize (siz : Nat) : ParamSize := ⟨min i32Max siz, 0, 0, false⟩

/-- `ParamSize::from_initialized_mem::<T>(t, p)`, `T` being `sizeOfT` bytes:
the incoming size is the `u32` or `u64` at `p` before the syscall (0 when `p`
is null), and the final size is read from `p` after it. -/
def ParamSize.fromInitializedMem (t : Tracee) (p sizeOfT : Nat) : Except String ParamSize := do
  let incoming ← (if p = 0 then .ok 0 else
    match sizeOfT with
    | 4 => .ok (wordValue (readMem t.mem p 4))
    | 8 => .ok (wordValue (readMem t.mem p 8))
    | _ => .error "Unknown read_size" : Except String Nat)
  pure { ParamSize.ofSize incoming with memPtr := p, readSize := sizeOfT }

/-- `ParamSize::from_mem::<T>(p)`: `ParamSize::default()` with the final size
read from `p` after the syscall. -/
def ParamSize.fromMem (p sizeOfT : Nat) : ParamSize := { ParamSize.default with memPtr := p, readSize := sizeOfT }

/-- `ParamSize::from_syscall_result::<T>()`: `ParamSize::default()` with the
final size taken from the syscall result. -/
def ParamSize.fromSyscallResult (sizeOfT : Nat) : ParamSize :=
  { ParamSize.default with fromSyscall := true, readSize := sizeOfT }

/-- `ParamSize::from_syscall_result_with_size::<T>(incoming_size)`. -/
def ParamSize.fromSyscallResultWithSize (sizeOfT incomingSize : Nat) : ParamSize :=
  { ParamSize.ofSize incomingSize with fromSyscall := true, readSize := sizeOfT }

/-- `limit_size(max)`: the incoming size is at most `max`. -/
def ParamSize.limitSize (ps : ParamSize) (max : Nat) : ParamSize :=
  { ps with incomingSize := min ps.incomingSize max }

/-- `ArgMode`. -/
inductive ArgMode where
  | In
  | Out
  | InOut
  | InOutNoScratch
  deriving DecidableEq, Repr

/-- `ArgMutator`: a callback on the task, the address of the parameter's data
and an optional save slot, returning `false` when it changed nothing. `run` is
the call with no slot; `runSaving n` the call with a slot of `n` zero bytes,
which also returns what the slot holds afterwards. -/
structure ArgMutator where
  run : Tracee → Nat → Bool × Tracee
  runSaving : Tracee → Nat → (n : Nat) → Bool × Tracee × Mathlib.Vector UInt8 n

/-- `MemoryParam`. -/
structure MemoryParam where
  dest : Nat
  scratch : Nat
  numBytes : ParamSize
  ptrInMemory : Nat
  ptrInReg : Nat
  mode : ArgMode
  maybeMutator : Option ArgMutator

/-- `MemoryParam::default()`. -/
def MemoryParam.default : MemoryParam := ⟨0, 0, .default, 0, 0, .Out, none⟩

/-- The parameter is given a scratch area: `mode != ArgMode::InOutNoScratch`. -/
def MemoryParam.usesScratch (p : MemoryParam) : Bool := p.mode != .InOutNoScratch

/-- `Switchable`. -/
inductive Switchable where
  | PreventSwitch
  | AllowSwitch
  deriving DecidableEq, Repr

/-- `WriteBack`. -/
inductive WriteBack where
  | WriteBack
  | NoWriteBack
  deriving DecidableEq, Repr

/-- `TaskSyscallState`. `exec_saved_event`, `emulate_wait_for_child` and
`expect_errno` are read by no function modelled here and are left out;
an after-syscall action is a function on the task. -/
structure TaskSyscallState where
  tuid : Nat
  paramList : List MemoryParam
  scratch : Nat
  afterSyscallActions : List (Tracee → Tracee)
  syscallEntryRegisters : Registers
  shouldEmulateResult : Bool
  emulatedResult : Nat
  switchable : Switchable
  writeBack : WriteBack
  preparationDone : Bool
  scratchEnabled : Bool
  savedData : List UInt8

namespace TaskSyscallState

/-- `TaskSyscallState::new`. -/
def new (tuid : Nat) : TaskSyscallState :=
  ⟨tuid, [], 0, [], ⟨fun _ => 0, 0⟩, false, 0, .PreventSwitch, .NoWriteBack, false, false, []⟩

/-- `TaskSyscallState::init`. -/
def init (st : TaskSyscallState) (t : Tracee) : Except String TaskSyscallState :=
  if st.tuid ≠ t.tuid then .error "assertion failed: self.tuid == t.tuid()"
  else if st.preparationDone then .ok st
  else .ok { st with scratch := t.scratchPtr }

end TaskSyscallState

/-- `align_scratch`: `(scratch + amount - 1) & !(amount - 1)`, `amount`
being 8 by default; on `Nat`, `x & !m` is `x - (x & m)`. -/
def alignScratch (scratch : Nat) (maybeAmount : Option Nat) : Nat :=
  let amount := maybeAmount.getD 8
  (scratch + amount - 1) - ((scratch + amount - 1) &&& (amount - 1))

namespace TaskSyscallState

/-! ## Registration -/

/-- The tail `reg_parameter_with_size` and `mem_ptr_parameter_with_size` share:
check the mutator's mode, then push the parameter, giving it the next scratch
area unless it is `InOutNoScratch`; `locate` records where its pointer lives. -/
def addParam (st : TaskSyscallState) (dest : Nat) (paramSize : ParamSize) (mode : ArgMode)
    (maybeMutator : Option ArgMutator) (locate : MemoryParam → MemoryParam) :
    Except String (TaskSyscallState × Nat) :=
  if maybeMutator.isNone || mode == .In then
    let param : MemoryParam :=
      { MemoryParam.default with dest, numBytes := paramSize, mode, maybeMutator }
    if mode != .InOutNoScratch then
      .ok ({ st with
        paramList := st.paramList ++ [locate { param with scratch := st.scratch }],
        scratch := alignScratch (st.scratch + paramSize.incomingSize) none }, dest)
    else .ok ({ st with paramList := st.paramList ++ [param] }, dest)
  else .error "assertion failed: param.maybe_mutator.is_none() || mode == ArgMode::In"

/-- `reg_parameter_with_size`: the parameter's address is argument `arg` of
the syscall-entry registers. Returns the address, or null. -/
def regParameterWithSize (st : TaskSyscallState) (arg : Nat) (paramSize : ParamSize)
    (maybeMode : Option ArgMode) (maybeMutator : Option ArgMutator) :
    Except String (TaskSyscallState × Nat) :=
  let mode := maybeMode.getD .Out
  if st.preparationDone then .ok (st, 0)
  else
    let dest := st.syscallEntryRegisters.arg arg
    if dest = 0 then .ok (st, 0)
    else st.addParam dest paramSize mode maybeMutator fun p => { p with ptrInReg := arg }

/-- `mem_ptr_parameter_with_size`: the parameter's address is the word at
`addr_of_buf_ptr` in the task. Returns the address, or null. -/
def memPtrParameterWithSize (st : TaskSyscallState) (t : Tracee) (addrOfBufPtr : Nat)
    (paramSize : ParamSize) (maybeMode : Option ArgMode) (maybeMutator : Option ArgMutator) :
    Except String (TaskSyscallState × Nat) :=
  if st.tuid ≠ t.tuid then .error "assertion failed: self.tuid == t.tuid()"
  else
    let mode := maybeMode.getD .Out
    if st.preparationDone || addrOfBufPtr == 0 then .ok (st, 0)
    else
      let dest := getRemotePtr t addrOfBufPtr
      if dest = 0 then .ok (st, 0)
      else st.addParam dest paramSize mode maybeMutator fun p => { p with ptrInMemory := addrOfBufPtr }

end TaskSyscallState

/-! ## Alignment -/

theorem alignScratch_none (s : Nat) : alignScratch s none = s + 7 - (s + 7) % 8 := by
  simp only [alignScratch, Option.getD_none]
  rw [show (8 - 1 : Nat) = 2 ^ 3 - 1 from rfl, Nat.and_pow_two_sub_one_eq_mod]
  rfl

theorem le_alignScratch (s : Nat) : s ≤ alignScratch s none := by
  rw [alignScratch_none]; omega

theorem alignScratch_mod (s : Nat) : alignScratch s none % 8 = 0 := by
  rw [alignScratch_none]; omega

/-! ## The scratch layout -/

/-- The scratch areas `[p.scratch, p.scratch + incoming_size)` of the
parameters that use scratch lie in list order, each at or after the end of the
one before, the first at or after `lo` and the last ending by `hi`. -/
def LaidOut : Nat → List MemoryParam → Nat → Prop
  | lo, [], hi => lo ≤ hi
  | lo, p :: ps, hi =>
    if p.usesScratch then lo ≤ p.scratch ∧ LaidOut (p.scratch + p.numBytes.incomingSize) ps hi
    else LaidOut lo ps hi

variable {lo hi : Nat} {p : MemoryParam} {ps : List MemoryParam}

theorem LaidOut.le : ∀ {lo : Nat} {ps : List MemoryParam}, LaidOut lo ps hi → lo ≤ hi
  | _, [], h => h
  | _, p :: ps, h => by
    unfold LaidOut at h
    split at h
    · exact Nat.le_trans (Nat.le_trans h.1 (Nat.le_add_right _ _)) h.2.le
    · exact h.le

theorem LaidOut.mono (hh : hi ≤ hi') : ∀ {lo : Nat} {ps : List MemoryParam},
    LaidOut lo ps hi → LaidOut lo ps hi'
  | _, [], h => Nat.le_trans h hh
  | _, p :: ps, h => by
    unfold LaidOut at h ⊢
    split
    · next hp => rw [if_pos hp] at h; exact ⟨h.1, h.2.mono hh⟩
    · next hp => rw [if_neg hp] at h; exact h.mono hh

/-- Appending a parameter with a scratch area that starts where the others end. -/
theorem LaidOut.append_of_usesScratch (hp : p.usesScratch) (hhi : p.scratch + p.numBytes.incomingSize ≤ hi) :
    ∀ {lo : Nat} {ps : List MemoryParam}, LaidOut lo ps p.scratch → LaidOut lo (ps ++ [p]) hi
  | _, [], h => by simp only [List.nil_append, LaidOut, hp, if_true]; exact ⟨h, hhi⟩
  | _, q :: ps, h => by
    unfold LaidOut at h
    simp only [List.cons_append, LaidOut]
    split
    · next hq => rw [if_pos hq] at h; exact ⟨h.1, append_of_usesScratch hp hhi h.2⟩
    · next hq => rw [if_neg hq] at h; exact append_of_usesScratch hp hhi h

theorem LaidOut.append_of_not_usesScratch (hp : p.usesScratch = false) :
    ∀ {lo : Nat} {ps : List MemoryParam}, LaidOut lo ps hi → LaidOut lo (ps ++ [p]) hi
  | _, [], h => by simp only [List.nil_append, LaidOut, hp]; exact h
  | _, q :: ps, h => by
    unfold LaidOut at h
    simp only [List.cons_append, LaidOut]
    split
    · next hq => rw [if_pos hq] at h; exact ⟨h.1, append_of_not_usesScratch hp h.2⟩
    · next hq => rw [if_neg hq] at h; exact append_of_not_usesScratch hp h

/-- Every scratch area lies in `[lo, hi)`. -/
theorem LaidOut.bounds (hp : p.usesScratch) : ∀ {lo : Nat} {ps : List MemoryParam},
    LaidOut lo ps hi → p ∈ ps → lo ≤ p.scratch ∧ p.scratch + p.numBytes.incomingSize ≤ hi
  | _, [], _, hm => absurd hm (List.not_mem_nil _)
  | _, q :: ps, h, hm => by
    unfold LaidOut at h
    split at h
    · rcases List.mem_cons.mp hm with rfl | hm
      · exact ⟨h.1, h.2.le⟩
      · have := bounds hp h.2 hm
        omega
    · rcases List.mem_cons.mp hm with rfl | hm
      · contradiction
      · exact bounds hp h hm

/-- The scratch areas are disjoint and in registration order. -/
theorem LaidOut.pairwise : ∀ {lo : Nat} {ps : List MemoryParam}, LaidOut lo ps hi →
    ps.Pairwise fun p q => p.usesScratch → q.usesScratch →
      p.scratch + p.numBytes.incomingSize ≤ q.scratch
  | _, [], _ => List.Pairwise.nil
  | _, q :: ps, h => by
    unfold LaidOut at h
    split at h
    · exact List.Pairwise.cons (fun r hr _ hru => (h.2.bounds hru hr).1) h.2.pairwise
    · next hq => exact List.Pairwise.cons (fun _ _ hqu => absurd hqu hq) h.pairwise

/-- Where a parameter lives: the fields registration sets and preparation keeps. -/
def MemoryParam.placement (p : MemoryParam) : ArgMode × Nat × Nat × Nat × Nat × Nat :=
  (p.mode, p.dest, p.scratch, p.numBytes.incomingSize, p.ptrInReg, p.ptrInMemory)

theorem LaidOut.congr_placement : ∀ {lo : Nat} {ps qs : List MemoryParam},
    ps.map MemoryParam.placement = qs.map MemoryParam.placement → LaidOut lo ps hi → LaidOut lo qs hi
  | _, [], [], _, h => h
  | _, [], _ :: _, he, _ => by simp at he
  | _, _ :: _, [], he, _ => by simp at he
  | _, p :: ps, q :: qs, he, h => by
    simp only [List.map_cons, List.cons.injEq, MemoryParam.placement, Prod.mk.injEq] at he
    obtain ⟨⟨hm, -, hs, hi, -, -⟩, he⟩ := he
    have hu : p.usesScratch = q.usesScratch := by simp [MemoryParam.usesScratch, hm]
    unfold LaidOut at h ⊢
    rw [← hu, ← hs, ← hi]
    split
    · next hp => rw [if_pos hp] at h; exact ⟨h.1, congr_placement he h.2⟩
    · next hp => rw [if_neg hp] at h; exact congr_placement he h

/-- The parameters' destinations `[dest, dest + incoming_size)` are pairwise
disjoint. -/
def DestsDisjoint (ps : List MemoryParam) : Prop :=
  ps.Pairwise fun p q =>
    p.dest + p.numBytes.incomingSize ≤ q.dest ∨ q.dest + q.numBytes.incomingSize ≤ p.dest

instance (ps : List MemoryParam) : Decidable (DestsDisjoint ps) :=
  inferInstanceAs (Decidable (List.Pairwise _ ps))

/-- The invariant of registration over a scratch buffer at `base`. -/
structure ScratchLayout (base : Nat) (st : TaskSyscallState) : Prop where
  aligned : st.scratch % 8 = 0
  laidOut : LaidOut base st.paramList st.scratch

/-! ## One registration -/

namespace TaskSyscallState

variable {st st' : TaskSyscallState} {t : Tracee} {base dest r arg : Nat} {paramSize : ParamSize}
  {mode : ArgMode} {maybeMode : Option ArgMode} {mm : Option ArgMutator}
  {locate : MemoryParam → MemoryParam}

/-- A successful `addParam` pushed one parameter and returned its address. -/
theorem addParam_ok (h : st.addParam dest paramSize mode mm locate = .ok (st', r)) :
    r = dest ∧ (mm.isNone || mode == .In) = true ∧
      ((mode != .InOutNoScratch) = true ∧ st' = { st with
          paramList := st.paramList ++ [locate { MemoryParam.default with
            dest, numBytes := paramSize, mode, maybeMutator := mm, scratch := st.scratch }],
          scratch := alignScratch (st.scratch + paramSize.incomingSize) none } ∨
        (mode != .InOutNoScratch) = false ∧ st' = { st with paramList := st.paramList ++
          [{ MemoryParam.default with dest, numBytes := paramSize, mode, maybeMutator := mm }] }) := by
  unfold addParam at h
  split at h
  · next hm =>
    split at h
    · next hs => cases h; exact ⟨rfl, hm, .inl ⟨hs, rfl⟩⟩
    · next hs => cases h; exact ⟨rfl, hm, .inr ⟨by simpa using hs, rfl⟩⟩
  · cases h

end TaskSyscallState

/-! ## Registration runs -/

/-- One registration call of `rec_prepare_syscall_arch`. -/
inductive RegCall where
  | reg (arg : Nat) (paramSize : ParamSize) (maybeMode : Option ArgMode)
      (maybeMutator : Option ArgMutator)
  | memPtr (addrOfBufPtr : Nat) (paramSize : ParamSize) (maybeMode : Option ArgMode)
      (maybeMutator : Option ArgMutator)

/-- Make the call on the task `t`. -/
def RegCall.apply (st : TaskSyscallState) (t : Tracee) : RegCall → Except String (TaskSyscallState × Nat)
  | .reg arg paramSize maybeMode mm => st.regParameterWithSize arg paramSize maybeMode mm
  | .memPtr addr paramSize maybeMode mm => st.memPtrParameterWithSize t addr paramSize maybeMode mm

/-- A run of registration calls on the task `t`, in order, as
`rec_prepare_syscall_arch` makes them for one syscall. -/
def RegCall.applyAll (t : Tracee) : TaskSyscallState → List RegCall → Except String TaskSyscallState
  | st, [] => .ok st
  | st, c :: cs =>
    match c.apply st t with
    | .ok (st', _) => applyAll t st' cs
    | .error e => .error e

namespace RegCall

variable {st st' : TaskSyscallState} {t : Tracee} {base r : Nat}

/-- What a registration call does: nothing, or, before preparation is done,
push one parameter `q`. `q` gets the current `scratch`, which moves past it,
unless it is `InOutNoScratch`; it has a mutator only if it is `In`; and its
address is where the call read it. -/
theorem apply_ok (c : RegCall) (h : c.apply st t = .ok (st', r)) :
    st' = st ∨ st.preparationDone = false ∧ ∃ q : MemoryParam,
      ((q.usesScratch = true ∧ q.scratch = st.scratch ∧ st' = { st with
          paramList := st.paramList ++ [q],
          scratch := alignScratch (st.scratch + q.numBytes.incomingSize) none }) ∨
        (q.usesScratch = false ∧ st' = { st with paramList := st.paramList ++ [q] })) ∧
      (q.maybeMutator.isSome = true → q.mode = .In) ∧
      (q.ptrInReg ≠ 0 → st.syscallEntryRegisters.arg q.ptrInReg = q.dest) ∧
      (q.ptrInMemory ≠ 0 → getRemotePtr t q.ptrInMemory = q.dest) := by
  cases c with
  | reg arg ps mode mm =>
    simp only [apply, TaskSyscallState.regParameterWithSize] at h
    split_ifs at h with hpd
    · cases h; exact .inl rfl
    · cases h; exact .inl rfl
    · have hpd : st.preparationDone = false := by simpa using hpd
      obtain ⟨rfl, hm, ⟨hs, rfl⟩ | ⟨hs, rfl⟩⟩ := TaskSyscallState.addParam_ok h
      · exact .inr ⟨hpd, _, .inl ⟨by simpa [MemoryParam.usesScratch] using hs, rfl, rfl⟩,
          fun hsome => by cases mm <;> simp_all, fun _ => rfl, fun h => (h rfl).elim⟩
      · exact .inr ⟨hpd, _, .inr ⟨by simpa [MemoryParam.usesScratch] using hs, rfl⟩,
          fun hsome => by cases mm <;> simp_all, fun h => (h rfl).elim, fun h => (h rfl).elim⟩
  | memPtr addr ps mode mm =>
    simp only [apply, TaskSyscallState.memPtrParameterWithSize] at h
    split_ifs at h with ht hpd
    · cases h; exact .inl rfl
    · cases h; exact .inl rfl
    · have hpd : st.preparationDone = false := by simp_all
      obtain ⟨rfl, hm, ⟨hs, rfl⟩ | ⟨hs, rfl⟩⟩ := TaskSyscallState.addParam_ok h
      · exact .inr ⟨hpd, _, .inl ⟨by simpa [MemoryParam.usesScratch] using hs, rfl, rfl⟩,
          fun hsome => by cases mm <;> simp_all, fun h => (h rfl).elim, fun _ => rfl⟩
      · exact .inr ⟨hpd, _, .inr ⟨by simpa [MemoryParam.usesScratch] using hs, rfl⟩,
          fun hsome => by cases mm <;> simp_all, fun h => (h rfl).elim, fun h => (h rfl).elim⟩

theorem eq_of_preparationDone (c : RegCall) (hd : st.preparationDone = true)
    (h : c.apply st t = .ok (st', r)) : st' = st := by
  rcases c.apply_ok h with h | ⟨hpd, -⟩
  · exact h
  · simp [hd] at hpd

/-- A registration changes only `param_list` and `scratch`. -/
theorem apply_eq (c : RegCall) (h : c.apply st t = .ok (st', r)) :
    st' = { st with paramList := st'.paramList, scratch := st'.scratch } := by
  rcases c.apply_ok h with rfl | ⟨-, q, ⟨-, -, rfl⟩ | ⟨-, rfl⟩, -⟩ <;> rfl

/-- A registration keeps the layout and does not lower `scratch`. -/
theorem laidOut (c : RegCall) (hl : LaidOut base st.paramList st.scratch)
    (h : c.apply st t = .ok (st', r)) :
    LaidOut base st'.paramList st'.scratch ∧ st.scratch ≤ st'.scratch := by
  rcases c.apply_ok h with rfl | ⟨-, q, ⟨hu, hq, rfl⟩ | ⟨hu, rfl⟩, -⟩
  · exact ⟨hl, le_rfl⟩
  · have hle := le_alignScratch (st.scratch + q.numBytes.incomingSize)
    exact ⟨LaidOut.append_of_usesScratch hu (hq ▸ hle) (hq ▸ hl),
      Nat.le_trans (Nat.le_add_right _ _) hle⟩
  · exact ⟨LaidOut.append_of_not_usesScratch hu hl, le_rfl⟩

theorem scratchLayout (c : RegCall) (hl : ScratchLayout base st) (h : c.apply st t = .ok (st', r)) :
    ScratchLayout base st' ∧ st.scratch ≤ st'.scratch := by
  refine ⟨⟨?_, (c.laidOut hl.laidOut h).1⟩, (c.laidOut hl.laidOut h).2⟩
  rcases c.apply_ok h with rfl | ⟨-, q, ⟨-, -, rfl⟩ | ⟨-, rfl⟩, -⟩
  · exact hl.aligned
  · exact alignScratch_mod _
  · exact hl.aligned

end RegCall

/-! ## Registered parameter lists -/

/-- A mutator of a parameter with incoming size `n` changes only the `n`
bytes it is handed, with or without a save slot. -/
structure ArgMutator.ChangesOnly (mu : ArgMutator) (n : Nat) : Prop where
  run : ∀ t a, Tracee.Frame (fun x => a ≤ x ∧ x < a + n) t (mu.run t a).2
  runSaving : ∀ t a, Tracee.Frame (fun x => a ≤ x ∧ x < a + n) t (mu.runSaving t a n).2.1

/-- A mutator that also, given a save slot, fills it with the bytes it is
handed before changing them, and returns `false` only when it changed nothing. -/
structure ArgMutator.WellBehaved (mu : ArgMutator) (n : Nat) extends mu.ChangesOnly n : Prop where
  slot : ∀ t a, (mu.runSaving t a n).1 = true →
    (mu.runSaving t a n).2.2.toList = readMem t.mem a n
  unchanged : ∀ t a, (mu.runSaving t a n).1 = false → (mu.runSaving t a n).2.1 = t

/-- What registration on the task `t` leaves: the state as `init` made it,
with the entry registers `rec_prepare_syscall_arch` stores, and parameters
laid out from `t.scratch_ptr`, mutators only on `In` parameters, and each
parameter's address where registration read it. -/
structure Registered (t : Tracee) (st : TaskSyscallState) : Prop where
  tuid : st.tuid = t.tuid
  entry : st.syscallEntryRegisters = t.regs
  notDone : st.preparationDone = false
  notEnabled : st.scratchEnabled = false
  saved : st.savedData = []
  laidOut : LaidOut t.scratchPtr st.paramList st.scratch
  mutator_in : ∀ p ∈ st.paramList, p.maybeMutator.isSome = true → p.mode = .In
  reg : ∀ p ∈ st.paramList, p.ptrInReg ≠ 0 → st.syscallEntryRegisters.arg p.ptrInReg = p.dest
  cell : ∀ p ∈ st.paramList, p.ptrInMemory ≠ 0 → getRemotePtr t p.ptrInMemory = p.dest

namespace Registered

variable {st st' : TaskSyscallState} {t : Tracee} {r : Nat}

/-- `rec_prepare_syscall_arch` starts from `init` and stores the entry registers. -/
theorem start (h : (TaskSyscallState.new t.tuid).init t = .ok st) :
    Registered t { st with syscallEntryRegisters := t.regs } := by
  simp only [TaskSyscallState.init, TaskSyscallState.new, ne_eq, not_true_eq_false, if_false,
    Bool.false_eq_true] at h
  cases h
  exact ⟨rfl, rfl, rfl, rfl, rfl, le_rfl, nofun, nofun, nofun⟩

theorem call (c : RegCall) (hr : Registered t st) (h : c.apply st t = .ok (st', r)) :
    Registered t st' := by
  have hl := (c.laidOut hr.laidOut h).1
  rcases c.apply_ok h with rfl | ⟨-, q, hq, hm, hreg, hcell⟩
  · exact hr
  · have hst : st' = { st with paramList := st.paramList ++ [q], scratch := st'.scratch } := by
      rcases hq with ⟨-, -, rfl⟩ | ⟨-, rfl⟩ <;> rfl
    rw [hst] at hl ⊢
    refine ⟨hr.tuid, hr.entry, hr.notDone, hr.notEnabled, hr.saved, hl, ?_, ?_, ?_⟩ <;>
      simp only [List.mem_append, List.mem_singleton] <;> rintro p (hp | rfl)
    exacts [hr.mutator_in p hp, hm, hr.reg p hp, hreg, hr.cell p hp, hcell]

/-- Every run of registration calls from `init` leaves a registered state. -/
theorem applyAll : ∀ {cs : List RegCall} {st st' : TaskSyscallState}, Registered t st →
    RegCall.applyAll t st cs = .ok st' → Registered t st'
  | [], _, _, hr, h => by cases h; exact hr
  | c :: cs, st, _, hr, h => by
    simp only [RegCall.applyAll] at h
    split at h
    · next st₁ r h₁ => exact applyAll (hr.call c h₁) h
    · cases h

end Registered

end RdCore.Syscall
