import RdCore.Syscall.State

/-!
# RdCore — preparing a syscall's memory parameters

`done_preparing` ends registration. When the task has a scratch buffer, the
syscall may switch, the parameters fit and there are some,
`done_preparing_internal` enables scratch: it copies every `In`/`InOut`
parameter to its scratch area (step 1) and points the argument registers, the
in-memory pointers and the size cells at the scratch areas (step 2). The
mutators then run (step 3), on the scratch copy, or on the original with the
bytes they overwrite saved in `saved_data`.

Main results:

* `scratch_layout_all_runs` — over every run of registrations and
  `done_preparing`, `ScratchLayout` holds, `scratch` never decreases, calls
  after preparation change nothing, and when scratch is enabled every scratch
  area lies in the usable buffer and every slice `process_syscall_results`
  takes of it is in bounds.
-/

namespace RdCore.Syscall

namespace TaskSyscallState

/-! ## Step 2: relocation -/

/-- One iteration of the loop of `relocate_pointer_to_scratch`: the count of
relocations and the result so far, updated by `param`. -/
def relocateStep (ptr : Nat) (acc : Nat × Nat) (param : MemoryParam) : Nat × Nat :=
  if param.dest ≤ ptr ∧ ptr < param.dest + param.numBytes.incomingSize then
    (acc.1 + 1, param.scratch + (ptr - param.dest))
  else acc

/-- `relocate_pointer_to_scratch` over `self.param_list`: the scratch address
of `ptr`, which has to lie in exactly one parameter's `[dest, dest + incoming_size)`. -/
def relocatePointerToScratch (paramList : List MemoryParam) (ptr : Nat) : Except String Nat :=
  let (numRelocations, result) := paramList.foldl (relocateStep ptr) (0, 0)
  if numRelocations = 0 then .error "Pointer in non-scratch memory being updated to point to scratch?"
  else if 1 < numRelocations then .error "Overlapping buffers containing relocated pointer?"
  else .ok result

/-- Step 2 for one parameter's in-memory pointer: store its scratch address
at the pointer's own scratch copy. -/
def relocateMemPtr (paramList : List MemoryParam) (p : MemoryParam) (t : Tracee) :
    Except String Tracee :=
  if p.ptrInMemory ≠ 0 then do
    let q ← relocatePointerToScratch paramList p.ptrInMemory
    pure (setRemotePtr t q p.scratch)
  else pure t

/-- Step 2 for one parameter's size cell: the entry of `to_adjust`. -/
def relocateSizeCell (paramList : List MemoryParam) (p : MemoryParam) : Except String MemoryParam :=
  if p.numBytes.memPtr ≠ 0 then do
    let q ← relocatePointerToScratch paramList p.numBytes.memPtr
    pure { p with numBytes := { p.numBytes with memPtr := q } }
  else pure p

/-- Step 2 for one parameter's register: point it at the scratch area. -/
def relocateReg (p : MemoryParam) (r : Registers) : Registers :=
  if p.ptrInReg ≠ 0 then r.setArg p.ptrInReg p.scratch else r

/-- Step 2 over the parameters `ps` of `paramList`, in order; the relocated
size cells (`to_adjust`) are applied to the parameters after the loop. -/
def relocateParams (paramList : List MemoryParam) :
    List MemoryParam → Registers → Tracee → Except String (Registers × Tracee × List MemoryParam)
  | [], r, t => .ok (r, t, [])
  | p :: ps, r, t => do
    let r := relocateReg p r
    let t ← relocateMemPtr paramList p t
    let p' ← relocateSizeCell paramList p
    let (r, t, ps') ← relocateParams paramList ps r t
    pure (r, t, p' :: ps')

theorem relocateParams_cons_ok {paramList ps ps' : List MemoryParam} {p : MemoryParam}
    {r r' : Registers} {t t' : Tracee}
    (h : relocateParams paramList (p :: ps) r t = .ok (r', t', ps')) :
    ∃ t₁ p' ps'', relocateMemPtr paramList p t = .ok t₁ ∧ relocateSizeCell paramList p = .ok p' ∧
      relocateParams paramList ps (relocateReg p r) t₁ = .ok (r', t', ps'') ∧ ps' = p' :: ps'' := by
  simp only [relocateParams] at h
  cases h₁ : relocateMemPtr paramList p t with
  | error e => simp [h₁, bind, Except.bind] at h
  | ok t₁ =>
    cases h₂ : relocateSizeCell paramList p with
    | error e => simp [h₁, h₂, bind, Except.bind] at h
    | ok p' =>
      cases h₃ : relocateParams paramList ps (relocateReg p r) t₁ with
      | error e => simp [h₁, h₂, h₃, bind, Except.bind] at h
      | ok v =>
        simp [h₁, h₂, h₃, bind, Except.bind, pure, Except.pure] at h
        obtain ⟨rfl, rfl, rfl⟩ := h
        exact ⟨t₁, p', v.2.2, rfl, rfl, h₃, rfl⟩

/-- Step 1: copy every `In`/`InOut` parameter to its scratch area. -/
def copyParamsToScratch : List MemoryParam → Tracee → Tracee
  | [], t => t
  | p :: ps, t => copyParamsToScratch ps
      (if p.mode = .InOut ∨ p.mode = .In then
        t.writeMem p.scratch (readMem t.mem p.dest p.numBytes.incomingSize)
      else t)

/-- `done_preparing_internal`. -/
def donePreparingInternal (st : TaskSyscallState) (t : Tracee) (sw : Switchable) :
    Except String (TaskSyscallState × Tracee × Switchable) :=
  if st.preparationDone then .error "assertion failed: !self.preparation_done"
  else
    let st := { st with preparationDone := true, writeBack := .WriteBack, switchable := sw }
    if t.scratchPtr = 0 then .ok (st, t, st.switchable)
    else if st.scratch < t.scratchPtr then .error "assertion failed: self.scratch >= t.scratch_ptr"
    else
      let st := if sw = .AllowSwitch ∧ t.scratchPtr + t.usableScratchSize < st.scratch then
        { st with switchable := .PreventSwitch } else st
      if st.switchable = .PreventSwitch ∨ st.paramList.isEmpty then .ok (st, t, st.switchable)
      else
        let st := { st with scratchEnabled := true }
        let t := copyParamsToScratch st.paramList t
        match relocateParams st.paramList st.paramList t.regs t with
        | .error e => .error e
        | .ok (r, t, params) => .ok ({ st with paramList := params }, t.setRegs r, st.switchable)

/-! ## Step 3: mutators -/

/-- One iteration of step 3 of `done_preparing`. Without scratch the mutator
is handed a save slot appended to `saved_data`; a mutator that changed nothing
is dropped, with its slot. -/
def runMutator (scratchEnabled : Bool) (p : MemoryParam) (t : Tracee) (saved : List UInt8) :
    MemoryParam × Tracee × List UInt8 :=
  match p.maybeMutator with
  | none => (p, t, saved)
  | some mu =>
    if scratchEnabled then
      let (changed, t) := mu.run t p.scratch
      (if changed then p else { p with maybeMutator := none }, t, saved)
    else
      let (changed, t, slot) := mu.runSaving t p.dest p.numBytes.incomingSize
      if changed then (p, t, saved ++ slot.toList) else ({ p with maybeMutator := none }, t, saved)

/-- Step 3 of `done_preparing`: the mutators, in order. -/
def runMutators (scratchEnabled : Bool) :
    List MemoryParam → Tracee → List UInt8 → List MemoryParam × Tracee × List UInt8
  | [], t, saved => ([], t, saved)
  | p :: ps, t, saved =>
    let (p, t, saved) := runMutator scratchEnabled p t saved
    let (ps, t, saved) := runMutators scratchEnabled ps t saved
    (p :: ps, t, saved)

/-- `done_preparing`. -/
def donePreparing (st : TaskSyscallState) (t : Tracee) (sw : Switchable) :
    Except String (TaskSyscallState × Tracee × Switchable) :=
  if st.tuid ≠ t.tuid then .error "assertion failed: self.tuid == t.tuid()"
  else if st.preparationDone then .ok (st, t, st.switchable)
  else
    match st.donePreparingInternal t sw with
    | .error e => .error e
    | .ok (st, t, sw) =>
      if sw ≠ st.switchable then .error "assertion failed: sw == self.switchable"
      else
        let (params, t, saved) := runMutators st.scratchEnabled st.paramList t st.savedData
        .ok ({ st with paramList := params, savedData := saved }, t, st.switchable)

/-! ## What preparation keeps -/

variable {st st' : TaskSyscallState} {t t' : Tracee} {sw sw' : Switchable}
  {paramList ps ps' : List MemoryParam} {p p' : MemoryParam} {r r' : Registers}

theorem relocateSizeCell_placement (h : relocateSizeCell paramList p = .ok p') :
    p'.placement = p.placement ∧ p'.maybeMutator = p.maybeMutator := by
  unfold relocateSizeCell at h
  split at h
  · cases hq : relocatePointerToScratch paramList p.numBytes.memPtr <;>
      simp [hq, bind, Except.bind, pure, Except.pure] at h
    subst h
    exact ⟨rfl, rfl⟩
  · cases h; exact ⟨rfl, rfl⟩

theorem relocateParams_placement : ∀ {ps ps' : List MemoryParam} {r r' : Registers} {t t' : Tracee},
    relocateParams paramList ps r t = .ok (r', t', ps') →
      ps'.map MemoryParam.placement = ps.map MemoryParam.placement
  | [], _, _, _, _, _, h => by cases h; rfl
  | _ :: _, _, _, _, _, _, h => by
    obtain ⟨_, _, _, -, hp, hrec, rfl⟩ := relocateParams_cons_ok h
    rw [List.map_cons, List.map_cons, (relocateSizeCell_placement hp).1, relocateParams_placement hrec]

theorem runMutator_placement (se : Bool) (p : MemoryParam) (t : Tracee) (saved : List UInt8) :
    (runMutator se p t saved).1.placement = p.placement := by
  unfold runMutator
  repeat' split
  all_goals rfl

theorem runMutators_placement (se : Bool) : ∀ (ps : List MemoryParam) (t : Tracee) (saved : List UInt8),
    (runMutators se ps t saved).1.map MemoryParam.placement = ps.map MemoryParam.placement
  | [], _, _ => rfl
  | p :: ps, t, saved => by
    simp only [runMutators, List.map_cons, runMutator_placement, runMutators_placement]

/-- What `done_preparing_internal` does: either it leaves scratch off and the
task alone, or the parameters fit, scratch goes on, and the task is the one
steps 1 and 2 leave. -/
theorem donePreparingInternal_ok (h : st.donePreparingInternal t sw = .ok (st', t', sw')) :
    st.preparationDone = false ∧ sw' = st'.switchable ∧
      ((st' = { st with
          preparationDone := true, writeBack := .WriteBack, switchable := st'.switchable } ∧
          t' = t) ∨
        (sw = .AllowSwitch ∧ t.scratchPtr ≤ st.scratch ∧
          st.scratch ≤ t.scratchPtr + t.usableScratchSize ∧
          st' = { st with
            preparationDone := true, writeBack := .WriteBack, switchable := .AllowSwitch,
            scratchEnabled := true, paramList := st'.paramList } ∧
          ∃ r t₁, relocateParams st.paramList st.paramList (copyParamsToScratch st.paramList t).regs
            (copyParamsToScratch st.paramList t) = .ok (r, t₁, st'.paramList) ∧ t' = t₁.setRegs r)) := by
  unfold donePreparingInternal at h
  dsimp only at h
  have hpd : st.preparationDone = false := by
    cases hp : st.preparationDone <;> simp_all
  split_ifs at h with h₁ h₂ h₃ h₄ h₅ h₆
  · cases h; exact ⟨hpd, rfl, .inl ⟨rfl, rfl⟩⟩
  · cases h; exact ⟨hpd, rfl, .inl ⟨rfl, rfl⟩⟩
  · simp at h₅
  · cases h; exact ⟨hpd, rfl, .inl ⟨rfl, rfl⟩⟩
  · split at h
    · cases h
    · next r t₁ params hr =>
      cases h
      have hsw : sw = .AllowSwitch := by cases sw <;> simp_all
      subst hsw
      simp only [true_and, not_lt] at h₄
      exact ⟨hpd, rfl, .inr ⟨rfl, by omega, h₄, rfl, r, t₁, hr, rfl⟩⟩

/-- What `done_preparing` does: nothing once preparation is done; otherwise
`done_preparing_internal` and then the mutators. -/
theorem donePreparing_ok (h : st.donePreparing t sw = .ok (st', t', sw')) :
    st.tuid = t.tuid ∧
      ((st.preparationDone = true ∧ st' = st ∧ t' = t ∧ sw' = st.switchable) ∨
        ∃ st₁ t₁, st.donePreparingInternal t sw = .ok (st₁, t₁, st₁.switchable) ∧
          st' = { st₁ with
            paramList := (runMutators st₁.scratchEnabled st₁.paramList t₁ st₁.savedData).1,
            savedData := (runMutators st₁.scratchEnabled st₁.paramList t₁ st₁.savedData).2.2 } ∧
          t' = (runMutators st₁.scratchEnabled st₁.paramList t₁ st₁.savedData).2.1 ∧
          sw' = st₁.switchable) := by
  unfold donePreparing at h
  split_ifs at h with h₁ h₂
  · cases h; exact ⟨by simpa using h₁, .inl ⟨h₂, rfl, rfl, rfl⟩⟩
  · split at h
    · cases h
    · next st₁ t₁ sw₁ hi =>
      have hsw := (donePreparingInternal_ok hi).2.1
      subst hsw
      simp only [ne_eq, not_true_eq_false, if_false] at h
      cases h
      exact ⟨by simpa using h₁, .inr ⟨st₁, t₁, hi, rfl, rfl, rfl⟩⟩

/-- `done_preparing` keeps `scratch` and where every parameter lives, and
enables scratch only when the parameters fit in the usable buffer. -/
theorem donePreparing_placement (h : st.donePreparing t sw = .ok (st', t', sw')) :
    st'.scratch = st.scratch ∧
      st'.paramList.map MemoryParam.placement = st.paramList.map MemoryParam.placement ∧
      st'.preparationDone = true ∧
      (st'.scratchEnabled = true → st.scratchEnabled = true ∨
        t.scratchPtr ≤ st.scratch ∧ st.scratch ≤ t.scratchPtr + t.usableScratchSize) := by
  obtain ⟨-, ⟨hpd, rfl, -, -⟩ | ⟨st₁, t₁, hi, rfl, -, -⟩⟩ := donePreparing_ok h
  · exact ⟨rfl, rfl, hpd, .inl⟩
  · obtain ⟨-, -, ⟨hst, -⟩ | ⟨-, hlo, hhi, hst, r, t₂, hr, -⟩⟩ := donePreparingInternal_ok hi
    · rw [hst]
      exact ⟨rfl, runMutators_placement _ _ _ _, rfl, .inl⟩
    · rw [hst]
      exact ⟨rfl, (runMutators_placement _ _ _ _).trans (relocateParams_placement hr), rfl,
        fun _ => .inr ⟨hlo, hhi⟩⟩

end TaskSyscallState

/-! ## Preparation runs -/

/-- `let offset = param.scratch - t.scratch_ptr; &data[offset..offset + size]`:
the part of its scratch snapshot `data` that `process_syscall_results` copies
or records for `param`. -/
def scratchSlice (data : List UInt8) (scratchPtr : Nat) (param : MemoryParam) (size : Nat) :
    Except String (List UInt8) := do
  let offset ← usizeSub param.scratch scratchPtr
  sliceRange data offset (offset + size)

theorem length_of_scratchSlice {data d : List UInt8} {base size : Nat} {p : MemoryParam}
    (h : scratchSlice data base p size = .ok d) : d.length = size := by
  obtain ⟨off, -, h⟩ := Except.bind_eq_ok.mp h
  rw [length_of_sliceRange h, Nat.add_sub_cancel_left]

theorem scratchSlice_readMem {m : Nat → UInt8} {base n size : Nat} {p : MemoryParam}
    (hlo : base ≤ p.scratch) (hhi : p.scratch + size ≤ base + n) :
    scratchSlice (readMem m base n) base p size = .ok (readMem m p.scratch size) := by
  simp only [scratchSlice, usizeSub_of_le hlo, bind, Except.bind]
  rw [sliceRange_readMem (by omega), Nat.add_sub_cancel' hlo]

/-- The syscall states of a task whose scratch buffer is at `base` with
`usable` usable bytes: `init` of a new state with the entry registers stored,
as `rec_prepare_syscall_arch` does, then any registration calls and
`done_preparing`, each made on any state of the task. -/
inductive Prepared (base usable : Nat) : TaskSyscallState → Prop
  | init {t : Tracee} {st : TaskSyscallState} : t.scratchPtr = base →
      (TaskSyscallState.new t.tuid).init t = .ok st →
      Prepared base usable { st with syscallEntryRegisters := t.regs }
  | call {t : Tracee} {st st' : TaskSyscallState} {r : Nat} (c : RegCall) :
      Prepared base usable st → c.apply st t = .ok (st', r) → Prepared base usable st'
  | prepare {t t' : Tracee} {st st' : TaskSyscallState} {sw sw' : Switchable} :
      t.scratchPtr = base → t.usableScratchSize = usable → Prepared base usable st →
      st.donePreparing t sw = .ok (st', t', sw') → Prepared base usable st'

/-- The invariant of preparation runs. -/
structure PreparedInv (base usable : Nat) (st : TaskSyscallState) : Prop where
  layout : ScratchLayout base st
  enabled_done : st.scratchEnabled = true → st.preparationDone = true
  fits : st.scratchEnabled = true → st.scratch ≤ base + usable

namespace PreparedInv

variable {base usable : Nat} {st st' : TaskSyscallState} {t t' : Tracee}

theorem init (h8 : base % 8 = 0) (hb : t.scratchPtr = base)
    (h : (TaskSyscallState.new t.tuid).init t = .ok st) :
    PreparedInv base usable { st with syscallEntryRegisters := t.regs } := by
  simp only [TaskSyscallState.init, TaskSyscallState.new, ne_eq, not_true_eq_false, if_false,
    Bool.false_eq_true] at h
  cases h
  exact ⟨⟨by simpa [← hb] using h8, by simp [LaidOut, hb]⟩, nofun, nofun⟩

theorem call {r : Nat} (c : RegCall) (hi : PreparedInv base usable st)
    (h : c.apply st t = .ok (st', r)) : PreparedInv base usable st' := by
  cases hpd : st.preparationDone
  · have hse : st.scratchEnabled = false := by
      cases hse : st.scratchEnabled
      · rfl
      · simpa [hpd] using hi.enabled_done hse
    have heq := c.apply_eq h
    refine ⟨(c.scratchLayout hi.layout h).1, ?_, ?_⟩ <;> rw [heq] <;> simp [hse]
  · rw [c.eq_of_preparationDone hpd h]; exact hi

theorem prepare {sw sw' : Switchable} (hb : t.scratchPtr = base)
    (hu : t.usableScratchSize = usable) (hi : PreparedInv base usable st)
    (h : st.donePreparing t sw = .ok (st', t', sw')) : PreparedInv base usable st' := by
  obtain ⟨hs, hpl, hpd, hfit⟩ := TaskSyscallState.donePreparing_placement h
  refine ⟨⟨hs ▸ hi.layout.aligned, hs ▸ hi.layout.laidOut.congr_placement hpl.symm⟩,
    fun _ => hpd, fun he => ?_⟩
  rcases hfit he with he | ⟨-, hfit⟩
  · exact hs ▸ hi.fits he
  · rw [hs, ← hb, ← hu]; exact hfit

end PreparedInv

theorem Prepared.inv {base usable : Nat} {st : TaskSyscallState} (h8 : base % 8 = 0)
    (hr : Prepared base usable st) : PreparedInv base usable st := by
  induction hr with
  | init hb h => exact .init h8 hb h
  | call c _ h ih => exact ih.call c h
  | prepare hb hu _ h ih => exact ih.prepare hb hu h

/-- A run of registration calls extends a preparation run. -/
theorem Prepared.applyAll {base usable : Nat} {t : Tracee} :
    ∀ {cs : List RegCall} {st st' : TaskSyscallState}, Prepared base usable st →
      RegCall.applyAll t st cs = .ok st' → Prepared base usable st'
  | [], _, _, hr, h => by cases h; exact hr
  | c :: cs, st, _, hr, h => by
    simp only [RegCall.applyAll] at h
    split at h
    · next st₁ r h₁ => exact Prepared.applyAll (.call c hr h₁) h
    · cases h

/-- One syscall's preparation as `rec_prepare_syscall_arch` makes it on the
task `t`: `init`, the entry registers stored, registration calls, then
`done_preparing`. -/
theorem Prepared.ofSyscall {base usable : Nat} {t t' : Tracee} {cs : List RegCall}
    {st₀ st st' : TaskSyscallState} {sw sw' : Switchable} (hb : t.scratchPtr = base)
    (hu : t.usableScratchSize = usable) (h₀ : (TaskSyscallState.new t.tuid).init t = .ok st₀)
    (hc : RegCall.applyAll t { st₀ with syscallEntryRegisters := t.regs } cs = .ok st)
    (hd : st.donePreparing t sw = .ok (st', t', sw')) : Prepared base usable st' :=
  .prepare hb hu (.applyAll (.init hb h₀) hc) hd

/-- **Scratch layout.** Over every preparation run on an 8-aligned scratch
buffer: `scratch` is 8-aligned and every parameter that uses scratch owns
`[p.scratch, p.scratch + incoming_size)` inside `[t.scratch_ptr, scratch)`,
these areas disjoint and in registration order; a registration never lowers
`scratch` and changes nothing once preparation is done, and `done_preparing`
keeps `scratch`; once scratch is enabled, `scratch` lies within the usable
buffer and every slice `process_syscall_results` takes of its snapshot is in
bounds. -/
theorem scratch_layout_all_runs {base usable : Nat} {st : TaskSyscallState} (h8 : base % 8 = 0)
    (hr : Prepared base usable st) :
    st.scratch % 8 = 0 ∧ base ≤ st.scratch ∧
      (∀ p ∈ st.paramList, p.usesScratch = true →
        base ≤ p.scratch ∧ p.scratch + p.numBytes.incomingSize ≤ st.scratch) ∧
      st.paramList.Pairwise (fun p q => p.usesScratch = true → q.usesScratch = true →
        p.scratch + p.numBytes.incomingSize ≤ q.scratch) ∧
      (∀ (t : Tracee) (c : RegCall) (st' : TaskSyscallState) (r : Nat),
        c.apply st t = .ok (st', r) →
          st.scratch ≤ st'.scratch ∧ (st.preparationDone = true → st' = st)) ∧
      (∀ (t t' : Tracee) (sw sw' : Switchable) (st' : TaskSyscallState),
        st.donePreparing t sw = .ok (st', t', sw') → st'.scratch = st.scratch) ∧
      (st.scratchEnabled = true → st.scratch ≤ base + usable ∧
        usizeSub st.scratch base = .ok (st.scratch - base) ∧
        ∀ p ∈ st.paramList, p.usesScratch = true → ∀ (m : Nat → UInt8) (size : Nat),
          size ≤ p.numBytes.incomingSize →
            scratchSlice (readMem m base (st.scratch - base)) base p size =
              .ok (readMem m p.scratch size)) := by
  have hi := hr.inv h8
  have hl := hi.layout.laidOut
  refine ⟨hi.layout.aligned, hl.le, fun p hp hu => hl.bounds hu hp, hl.pairwise,
    fun t c st' r h => ⟨(c.scratchLayout hi.layout h).2, fun hd => c.eq_of_preparationDone hd h⟩,
    fun t t' sw sw' st' h => (TaskSyscallState.donePreparing_placement h).1,
    fun he => ⟨hi.fits he, usizeSub_of_le hl.le, fun p hp hu m size hs => ?_⟩⟩
  obtain ⟨hlo, hhi⟩ := hl.bounds hu hp
  exact scratchSlice_readMem hlo (by omega)

/-- A run on a task whose scratch buffer is at `0x1000`, with 100 usable
bytes: `init`, a 16-byte `In` struct at `0x2000` passed in register 1, an
`Out` buffer of 8 bytes whose address is the struct's word at `0x2008`, and
`done_preparing`, which turns scratch on. -/
theorem scratch_layout_after_prepare :
    ∃ st, Prepared 4096 100 st ∧ st.paramList.length = 2 ∧ st.scratchEnabled = true ∧
      st.scratch % 8 = 0 ∧ 4096 ≤ st.scratch ∧
      (∀ p ∈ st.paramList, p.usesScratch = true →
        4096 ≤ p.scratch ∧ p.scratch + p.numBytes.incomingSize ≤ st.scratch) ∧
      st.paramList.Pairwise (fun p q => p.usesScratch = true → q.usesScratch = true →
        p.scratch + p.numBytes.incomingSize ≤ q.scratch) ∧
      (∀ (t : Tracee) (c : RegCall) (st' : TaskSyscallState) (r : Nat),
        c.apply st t = .ok (st', r) →
          st.scratch ≤ st'.scratch ∧ (st.preparationDone = true → st' = st)) ∧
      (∀ (t t' : Tracee) (sw sw' : Switchable) (st' : TaskSyscallState),
        st.donePreparing t sw = .ok (st', t', sw') → st'.scratch = st.scratch) ∧
      (st.scratchEnabled = true → st.scratch ≤ 4096 + 100 ∧
        usizeSub st.scratch 4096 = .ok (st.scratch - 4096) ∧
        ∀ p ∈ st.paramList, p.usesScratch = true → ∀ (m : Nat → UInt8) (size : Nat),
          size ≤ p.numBytes.incomingSize →
            scratchSlice (readMem m 4096 (st.scratch - 4096)) 4096 p size =
              .ok (readMem m p.scratch size)) := by
  have hp := Prepared.ofSyscall (t := ⟨0, .x64, fun a => if a = 0x2009 then 0x30 else 0,
      ⟨fun i => if i = 1 then 0x2000 else 0, 0⟩, 4096, 100⟩) rfl rfl rfl
    (rfl : RegCall.applyAll _ _
      [.reg 1 ⟨16, 0, 0, false⟩ (some .In) none, .memPtr 0x2008 ⟨8, 0, 0, false⟩ none none] = _)
    (rfl : TaskSyscallState.donePreparing _ _ .AllowSwitch = _)
  exact ⟨_, hp, rfl, rfl, scratch_layout_all_runs (by decide) hp⟩

end RdCore.Syscall
