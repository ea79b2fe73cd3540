import RdCore.Syscall.Results

/-!
# RdCore — what preparing, processing and aborting a syscall change

`done_preparing` writes the tracee in three places: the scratch copies of
step 1, the relocated in-memory pointers of step 2, and whatever the
mutators of step 3 touch; step 2 also points argument registers at scratch.
`process_syscall_results` and `abort_syscall_results` write the destinations
copied back, the in-memory pointers they restore and, without scratch, the
bytes saved for the mutated parameters. For each step this module proves
which bytes and registers it can change and what it leaves in them; the
round-trip theorems of `RdCore.Syscall.RoundTrip` are assembled from these.

Main results:

* `relocatePointerToScratch_ok` — a relocated pointer is the scratch address
  of the one parameter that holds it;
* `copyParamsToScratch_frame`, `relocateParams_ok`, `runMutators_frame` —
  the steps of `done_preparing` when scratch is on;
* `setArgRegs_arg`, `restoreCells_mem` — the registers and the bytes that
  restoring pointers leaves;
* `runMutators_restore` — without scratch, `saved_data` is consumed first in,
  first out and gives every mutated destination its bytes back.
-/

namespace RdCore.Syscall

/-! ## Where a byte is -/

/-- `x` is a byte of the in-memory pointer, a word of `w` bytes, of a
parameter of `ps`. -/
def InPointerCell (w : Nat) (ps : List MemoryParam) (x : Nat) : Prop :=
  ∃ q ∈ ps, q.ptrInMemory ≠ 0 ∧ q.ptrInMemory ≤ x ∧ x < q.ptrInMemory + w

/-- `x` is a byte of the destination of a parameter of `ps` that still has
its mutator, that is, whose mutator changed something. -/
def Mutated (ps : List MemoryParam) (x : Nat) : Prop :=
  ∃ p ∈ ps, p.maybeMutator.isSome = true ∧ p.dest ≤ x ∧ x < p.dest + p.numBytes.incomingSize

theorem inPointerCell_cons {w x : Nat} {q : MemoryParam} {ps : List MemoryParam} :
    InPointerCell w (q :: ps) x ↔
      (q.ptrInMemory ≠ 0 ∧ q.ptrInMemory ≤ x ∧ x < q.ptrInMemory + w) ∨ InPointerCell w ps x := by
  simp [InPointerCell]

theorem mutated_cons {x : Nat} {p : MemoryParam} {ps : List MemoryParam} :
    Mutated (p :: ps) x ↔ (p.maybeMutator.isSome = true ∧ p.dest ≤ x ∧
      x < p.dest + p.numBytes.incomingSize) ∨ Mutated ps x := by
  simp [Mutated]

/-- Every in-memory pointer of `ps`, a word of `w` bytes, lies inside the
destination of a parameter that uses scratch. -/
def PointersInScratchParams (w : Nat) (ps : List MemoryParam) : Prop :=
  ∀ q ∈ ps, q.ptrInMemory ≠ 0 → ∃ p ∈ ps, p.usesScratch = true ∧
    p.dest ≤ q.ptrInMemory ∧ q.ptrInMemory + w ≤ p.dest + p.numBytes.incomingSize

instance (w : Nat) (ps : List MemoryParam) : DecidablePred (InPointerCell w ps) := fun _ =>
  inferInstanceAs (Decidable (∃ q ∈ ps, _))

instance (ps : List MemoryParam) : DecidablePred (Mutated ps) := fun _ =>
  inferInstanceAs (Decidable (∃ p ∈ ps, _))

instance (w : Nat) (ps : List MemoryParam) : Decidable (PointersInScratchParams w ps) :=
  inferInstanceAs (Decidable (∀ q ∈ ps, _))

/-- Every size cell of `ps`, a word of `read_size` bytes, lies inside the
destination of a parameter that uses scratch. -/
def SizeCellsInScratchParams (ps : List MemoryParam) : Prop :=
  ∀ q ∈ ps, q.numBytes.memPtr ≠ 0 → ∃ p ∈ ps, p.usesScratch = true ∧
    p.dest ≤ q.numBytes.memPtr ∧ q.numBytes.memPtr + q.numBytes.readSize ≤ p.dest + p.numBytes.incomingSize

instance (ps : List MemoryParam) : Decidable (SizeCellsInScratchParams ps) :=
  inferInstanceAs (Decidable (∀ q ∈ ps, _))

/-- Parameters without mutators meet any condition on their mutators. -/
theorem forall_mutator_of_isNone {ps : List MemoryParam} {P : MemoryParam → ArgMutator → Prop}
    (h : ∀ p ∈ ps, p.maybeMutator.isNone = true) :
    ∀ p ∈ ps, ∀ mu, p.maybeMutator = some mu → P p mu :=
  fun p hp _ hm => absurd (h p hp) (by simp [hm])

/-! ## Parameters in the same place -/

section Placement

variable {ps qs : List MemoryParam}

@[simp] theorem MemoryParam.placement_eq_iff {p q : MemoryParam} :
    p.placement = q.placement ↔ p.mode = q.mode ∧ p.dest = q.dest ∧ p.scratch = q.scratch ∧
      p.numBytes.incomingSize = q.numBytes.incomingSize ∧ p.ptrInReg = q.ptrInReg ∧
      p.ptrInMemory = q.ptrInMemory := by
  simp [MemoryParam.placement]

theorem exists_placement_eq (h : qs.map MemoryParam.placement = ps.map MemoryParam.placement)
    {q : MemoryParam} (hq : q ∈ qs) : ∃ p ∈ ps, p.placement = q.placement :=
  List.mem_map.mp (h ▸ List.mem_map_of_mem MemoryParam.placement hq)

theorem DestsDisjoint.of_placement (h : qs.map MemoryParam.placement = ps.map MemoryParam.placement)
    (hd : DestsDisjoint ps) : DestsDisjoint qs := by
  have hm : (ps.map MemoryParam.placement).Pairwise
      fun a b => a.2.1 + a.2.2.2.1 ≤ b.2.1 ∨ b.2.1 + b.2.2.2.1 ≤ a.2.1 := List.pairwise_map.mpr hd
  exact List.pairwise_map.mp (h ▸ hm)

end Placement

/-! ## Relocating a pointer -/

namespace TaskSyscallState

/-- The loop of `relocate_pointer_to_scratch` over `l` from `acc`: it counts
the parameters whose range holds `ptr`, keeps `acc.2` when there is none,
and ends with the scratch address of the only one when there is one. -/
theorem foldl_relocateStep (ptr : Nat) : ∀ (l : List MemoryParam) (acc : Nat × Nat),
    (l.foldl (relocateStep ptr) acc).1 = acc.1 + l.countP (fun p =>
        decide (p.dest ≤ ptr ∧ ptr < p.dest + p.numBytes.incomingSize)) ∧
      (l.countP (fun p => decide (p.dest ≤ ptr ∧ ptr < p.dest + p.numBytes.incomingSize)) = 0 →
        (l.foldl (relocateStep ptr) acc).2 = acc.2) ∧
      ∀ p ∈ l, p.dest ≤ ptr → ptr < p.dest + p.numBytes.incomingSize →
        l.countP (fun p => decide (p.dest ≤ ptr ∧ ptr < p.dest + p.numBytes.incomingSize)) = 1 →
        (l.foldl (relocateStep ptr) acc).2 = p.scratch + (ptr - p.dest)
  | [], acc => ⟨rfl, fun _ => rfl, nofun⟩
  | q :: l, acc => by
    rw [List.foldl_cons, List.countP_cons]
    by_cases hq : q.dest ≤ ptr ∧ ptr < q.dest + q.numBytes.incomingSize
    · obtain ⟨h₁, h₂, -⟩ := foldl_relocateStep ptr l (acc.1 + 1, q.scratch + (ptr - q.dest))
      simp only [relocateStep, if_pos hq, decide_eq_true hq, if_true] at h₁ h₂ ⊢
      refine ⟨by omega, by omega, fun p hp hlo hhi hn => ?_⟩
      have hl : l.countP (fun p => decide (p.dest ≤ ptr ∧ ptr < p.dest + p.numBytes.incomingSize)) = 0 := by
        omega
      rcases List.mem_cons.mp hp with rfl | hp
      · exact h₂ hl
      · have : 0 < l.countP fun p =>
            decide (p.dest ≤ ptr ∧ ptr < p.dest + p.numBytes.incomingSize) :=
          List.countP_pos_iff.mpr ⟨p, hp, decide_eq_true ⟨hlo, hhi⟩⟩
        omega
    · obtain ⟨h₁, h₂, h₃⟩ := foldl_relocateStep ptr l acc
      simp only [relocateStep, if_neg hq, decide_eq_false hq] at h₁ h₂ h₃ ⊢
      refine ⟨by simpa using h₁, by simpa using h₂, fun p hp hlo hhi hn => ?_⟩
      rcases List.mem_cons.mp hp with rfl | hp
      · exact absurd ⟨hlo, hhi⟩ hq
      · exact h₃ p hp hlo hhi (by simpa using hn)

/-- **Relocation.** A pointer `relocate_pointer_to_scratch` accepts is moved
to the same offset in the scratch area of the one parameter that holds it. -/
theorem relocatePointerToScratch_ok {paramList : List MemoryParam} {ptr a : Nat} {p : MemoryParam}
    (h : relocatePointerToScratch paramList ptr = .ok a) (hp : p ∈ paramList)
    (hlo : p.dest ≤ ptr) (hhi : ptr < p.dest + p.numBytes.incomingSize) :
    a = p.scratch + (ptr - p.dest) := by
  obtain ⟨h₁, -, h₃⟩ := foldl_relocateStep ptr paramList (0, 0)
  unfold relocatePointerToScratch at h
  rcases hf : paramList.foldl (relocateStep ptr) (0, 0) with ⟨n, r⟩
  rw [hf] at h h₁ h₃
  dsimp only at h h₁ h₃
  split_ifs at h with hn₀ hn₁
  cases h
  exact h₃ p hp hlo hhi (by omega)

end TaskSyscallState

/-! ## Argument registers -/

/-- The register half of step 2 of `done_preparing` and of its undoing: each
parameter that names an argument register gets it set to `f param`. -/
def setArgRegs (f : MemoryParam → Nat) (ps : List MemoryParam) (r : Registers) : Registers :=
  ps.foldl (fun r param => if param.ptrInReg ≠ 0 then r.setArg param.ptrInReg (f param) else r) r

section SetArgRegs

variable (f : MemoryParam → Nat)

@[simp] theorem setArgRegs_syscallResult : ∀ (ps : List MemoryParam) (r : Registers),
    (setArgRegs f ps r).syscallResult = r.syscallResult
  | [], _ => rfl
  | p :: ps, r => (setArgRegs_syscallResult ps _).trans (by dsimp only; split_ifs <;> rfl)

/-- A register no parameter names keeps its value; a named one ends with
`f p` for a parameter `p` naming it. -/
theorem setArgRegs_arg (i : Nat) : ∀ (ps : List MemoryParam) (r : Registers),
    ((setArgRegs f ps r).arg i = r.arg i ∧ ∀ p ∈ ps, p.ptrInReg ≠ 0 → p.ptrInReg ≠ i) ∨
      ∃ p ∈ ps, p.ptrInReg ≠ 0 ∧ p.ptrInReg = i ∧ (setArgRegs f ps r).arg i = f p
  | [], _ => .inl ⟨rfl, nofun⟩
  | p :: ps, r => by
    rcases setArgRegs_arg i ps (if p.ptrInReg ≠ 0 then r.setArg p.ptrInReg (f p) else r) with
      ⟨h, hno⟩ | ⟨q, hq, hq0, hqi, h⟩
    · by_cases hp : p.ptrInReg ≠ 0 ∧ p.ptrInReg = i
      · refine .inr ⟨p, List.mem_cons_self _ _, hp.1, hp.2, ?_⟩
        simp only [setArgRegs, List.foldl_cons, if_pos hp.1] at h ⊢
        rw [h, Registers.setArg_arg, if_pos hp.2.symm]
      · refine .inl ⟨?_, fun q hq => ?_⟩
        · simp only [setArgRegs, List.foldl_cons] at h ⊢
          rw [h]
          split_ifs with h0
          · rw [Registers.setArg_arg, if_neg fun h' => hp ⟨h0, h'.symm⟩]
          · rfl
        · rcases List.mem_cons.mp hq with rfl | hq
          · exact fun h0 h' => hp ⟨h0, h'⟩
          · exact hno q hq
    · exact .inr ⟨q, List.mem_cons_of_mem _ hq, hq0, hqi, h⟩

theorem setArgRegs_arg_of_not_named {i : Nat} {ps : List MemoryParam} (r : Registers)
    (hi : ∀ p ∈ ps, p.ptrInReg ≠ 0 → p.ptrInReg ≠ i) : (setArgRegs f ps r).arg i = r.arg i := by
  rcases setArgRegs_arg f i ps r with ⟨h, -⟩ | ⟨p, hp, h0, rfl, -⟩
  · exact h
  · exact absurd rfl (hi p hp h0)

end SetArgRegs

/-- Pointing each named register at its parameter's destination, when every
parameter's destination is what the registers `R` hold in its register: each
named register ends with that destination. -/
theorem setArgRegs_dest {ps : List MemoryParam} {R : Registers} (r : Registers)
    (hc : ∀ p ∈ ps, p.ptrInReg ≠ 0 → R.arg p.ptrInReg = p.dest) {p : MemoryParam} (hp : p ∈ ps)
    (h0 : p.ptrInReg ≠ 0) : (setArgRegs MemoryParam.dest ps r).arg p.ptrInReg = p.dest := by
  rcases setArgRegs_arg MemoryParam.dest p.ptrInReg ps r with ⟨-, hno⟩ | ⟨q, hq, hq0, hqi, h⟩
  · exact absurd rfl (hno p hp h0)
  · rw [h, ← hc q hq hq0, hqi, hc p hp h0]

/-! ## The steps of `done_preparing` with scratch -/

namespace TaskSyscallState

variable {S : Nat → Prop} {paramList ps ps' : List MemoryParam} {p : MemoryParam}
  {r r' : Registers} {t t' : Tracee}

/-- Step 1 writes only the scratch areas of the `In`/`InOut` parameters. -/
theorem copyParamsToScratch_frame : ∀ (ps : List MemoryParam) (t : Tracee),
    (∀ p ∈ ps, (p.mode = .InOut ∨ p.mode = .In) →
      ∀ x, p.scratch ≤ x → x < p.scratch + p.numBytes.incomingSize → S x) →
    Tracee.Frame S t (copyParamsToScratch ps t)
  | [], t, _ => .refl S t
  | p :: ps, t, hS => by
    refine Tracee.Frame.trans ?_
      (copyParamsToScratch_frame ps _ fun q hq => hS q (List.mem_cons_of_mem _ hq))
    split_ifs with hm
    · refine (t.frame_writeMem _ _).mono fun x hx => hS p (List.mem_cons_self _ _) hm x hx.1 ?_
      simpa using hx.2
    · exact .refl S t

theorem relocateMemPtr_frame
    (hS : p.ptrInMemory ≠ 0 → ∀ a, relocatePointerToScratch paramList p.ptrInMemory = .ok a →
      ∀ x, a ≤ x → x < a + t.arch.wordSize → S x)
    (h : relocateMemPtr paramList p t = .ok t') : Tracee.Frame S t t' := by
  unfold relocateMemPtr at h
  split at h
  · next hp =>
    obtain ⟨a, ha, h⟩ := Except.bind_eq_ok.mp h
    cases h
    exact (frame_setRemotePtr t a p.scratch).mono fun x hx => hS hp a ha x hx.1 hx.2
  · cases h; exact .refl S t

/-- Step 2 over `ps`: the registers are `setArgRegs` of the scratch
addresses, and memory changes only at the relocated pointers. -/
theorem relocateParams_ok : ∀ {ps ps' : List MemoryParam} {r r' : Registers} {t t' : Tracee},
    relocateParams paramList ps r t = .ok (r', t', ps') →
    (∀ q ∈ ps, q.ptrInMemory ≠ 0 → ∀ a, relocatePointerToScratch paramList q.ptrInMemory = .ok a →
      ∀ x, a ≤ x → x < a + t.arch.wordSize → S x) →
    r' = setArgRegs MemoryParam.scratch ps r ∧ Tracee.Frame S t t'
  | [], _, _, _, _, _, h, _ => by cases h; exact ⟨rfl, .refl S _⟩
  | q :: ps, _, r, _, t, _, h, hS => by
    obtain ⟨t₁, _, _, hm, -, hrec, -⟩ := relocateParams_cons_ok h
    have h₁ := relocateMemPtr_frame (hS q (List.mem_cons_self _ _)) hm
    obtain ⟨hr, h₂⟩ := relocateParams_ok hrec fun q' hq' => by
      rw [h₁.arch]; exact hS q' (List.mem_cons_of_mem _ hq')
    exact ⟨hr, h₁.trans h₂⟩

/-- Step 2 keeps each parameter's place and mutator. -/
theorem relocateParams_mem : ∀ {ps ps' : List MemoryParam} {r r' : Registers} {t t' : Tracee},
    relocateParams paramList ps r t = .ok (r', t', ps') →
    ∀ p' ∈ ps', ∃ p ∈ ps, p'.placement = p.placement ∧ p'.maybeMutator = p.maybeMutator
  | [], _, _, _, _, _, h => by cases h; exact nofun
  | q :: _, _, _, _, _, _, h => by
    obtain ⟨_, _, _, -, hq, hrec, rfl⟩ := relocateParams_cons_ok h
    intro p' hp'
    rcases List.mem_cons.mp hp' with rfl | hp'
    · exact ⟨q, List.mem_cons_self _ _, relocateSizeCell_placement hq⟩
    · obtain ⟨p, hp, h⟩ := relocateParams_mem hrec p' hp'
      exact ⟨p, List.mem_cons_of_mem _ hp, h⟩

/-- Step 2 moves a size cell to the scratch address
`relocate_pointer_to_scratch` gives it and keeps its width. -/
theorem relocateSizeCell_numBytes (h : relocateSizeCell paramList p = .ok p') :
    p'.numBytes.readSize = p.numBytes.readSize ∧ (p'.numBytes.memPtr ≠ 0 → p.numBytes.memPtr ≠ 0 ∧
      relocatePointerToScratch paramList p.numBytes.memPtr = .ok p'.numBytes.memPtr) := by
  unfold relocateSizeCell at h
  split at h
  · next h0 =>
    obtain ⟨a, ha, h⟩ := Except.bind_eq_ok.mp h
    cases h
    exact ⟨rfl, fun _ => ⟨h0, ha⟩⟩
  · next h0 =>
    cases h
    exact ⟨rfl, fun h' => absurd h' h0⟩

/-- Every parameter step 2 leaves is one of `ps` with its size cell moved. -/
theorem relocateParams_sizeCell : ∀ {ps ps' : List MemoryParam} {r r' : Registers} {t t' : Tracee},
    relocateParams paramList ps r t = .ok (r', t', ps') →
    ∀ p' ∈ ps', ∃ p ∈ ps, relocateSizeCell paramList p = .ok p'
  | [], _, _, _, _, _, h => by cases h; exact nofun
  | q :: _, _, _, _, _, _, h => by
    obtain ⟨_, _, _, -, hq, hrec, rfl⟩ := relocateParams_cons_ok h
    intro p' hp'
    rcases List.mem_cons.mp hp' with rfl | hp'
    · exact ⟨q, List.mem_cons_self _ _, hq⟩
    · obtain ⟨p, hp, h⟩ := relocateParams_sizeCell hrec p' hp'
      exact ⟨p, List.mem_cons_of_mem _ hp, h⟩

theorem runMutator_numBytes (se : Bool) (p : MemoryParam) (t : Tracee) (saved : List UInt8) :
    (runMutator se p t saved).1.numBytes = p.numBytes := by
  unfold runMutator
  repeat' split
  all_goals rfl

/-- Step 3 keeps every parameter's size. -/
theorem runMutators_numBytes (se : Bool) : ∀ (ps : List MemoryParam) (t : Tracee) (saved : List UInt8),
    ∀ p' ∈ (runMutators se ps t saved).1, ∃ p ∈ ps, p'.numBytes = p.numBytes
  | [], _, _ => nofun
  | p :: ps, t, saved => by
    intro p' hp'
    rcases List.mem_cons.mp hp' with rfl | hp'
    · exact ⟨p, List.mem_cons_self _ _, runMutator_numBytes se p t saved⟩
    · obtain ⟨q, hq, h⟩ := runMutators_numBytes se ps _ _ p' hp'
      exact ⟨q, List.mem_cons_of_mem _ hq, h⟩

/-- Step 3 with scratch: each mutator runs on its parameter's scratch area
and `saved_data` is left alone. -/
theorem runMutators_frame : ∀ (ps : List MemoryParam) (t : Tracee) (saved : List UInt8),
    (∀ p ∈ ps, ∀ mu, p.maybeMutator = some mu → mu.ChangesOnly p.numBytes.incomingSize ∧
      ∀ x, p.scratch ≤ x → x < p.scratch + p.numBytes.incomingSize → S x) →
    Tracee.Frame S t (runMutators true ps t saved).2.1 ∧ (runMutators true ps t saved).2.2 = saved
  | [], t, _, _ => ⟨.refl S t, rfl⟩
  | p :: ps, t, saved, hS => by
    have hstep : Tracee.Frame S t (runMutator true p t saved).2.1 ∧
        (runMutator true p t saved).2.2 = saved := by
      unfold runMutator
      split
      · exact ⟨.refl S t, rfl⟩
      · next mu hmu =>
        obtain ⟨hc, hs⟩ := hS p (List.mem_cons_self _ _) mu hmu
        exact ⟨(hc.run t p.scratch).mono fun x hx => hs x hx.1 hx.2, rfl⟩
    obtain ⟨h₁, h₂⟩ := runMutators_frame ps (runMutator true p t saved).2.1
      (runMutator true p t saved).2.2 fun q hq => hS q (List.mem_cons_of_mem _ hq)
    exact ⟨hstep.1.trans h₁, h₂.trans hstep.2⟩

end TaskSyscallState

/-! ## Restoring pointers -/

/-- The memory half of restoring pointers: store each in-memory pointer's
destination back in its cell. -/
def restoreCells (ps : List MemoryParam) (t : Tracee) : Tracee :=
  ps.foldl (fun t param =>
    if param.ptrInMemory ≠ 0 then setRemotePtr t param.ptrInMemory param.dest else t) t

theorem restorePointers_eq : ∀ (ps : List MemoryParam) (r : Registers) (t : Tracee) (c : Bool),
    restorePointers ps r t c =
      (setArgRegs MemoryParam.dest ps r, restoreCells ps t, c || ps.any fun q => q.ptrInMemory != 0)
  | [], _, _, c => by simp [restorePointers, setArgRegs, restoreCells]
  | q :: ps, r, t, c => by
    by_cases hq : q.ptrInMemory = 0 <;>
      simp [restorePointers, restorePointers_eq ps, setArgRegs, restoreCells, hq]

/-- Restoring the pointers writes only their cells. -/
theorem restoreCells_frame : ∀ (ps : List MemoryParam) (t : Tracee),
    Tracee.Frame (InPointerCell t.arch.wordSize ps) t (restoreCells ps t)
  | [], t => .refl _ t
  | q :: ps, t => by
    have h₁ : Tracee.Frame (InPointerCell t.arch.wordSize (q :: ps)) t
        (if q.ptrInMemory ≠ 0 then setRemotePtr t q.ptrInMemory q.dest else t) := by
      split_ifs with hq
      · exact (frame_setRemotePtr t _ _).mono fun x hx => ⟨q, List.mem_cons_self _ _, hq, hx⟩
      · exact .refl _ t
    have h₂ := restoreCells_frame ps (if q.ptrInMemory ≠ 0 then setRemotePtr t q.ptrInMemory q.dest else t)
    rw [h₁.arch] at h₂
    exact h₁.trans (h₂.mono fun x ⟨q', hq', h⟩ => ⟨q', List.mem_cons_of_mem _ hq', h⟩)

/-- **What the scratch branch changes.** `process_syscall_results` with
scratch changes the task only in the destinations it copies back and in the
in-memory pointers it restores, and only argument registers. -/
theorem TaskSyscallState.processScratchResults_frame {st : TaskSyscallState} {t tm : Tracee}
    {recs : List MemRecord} (hdisj : DestsDisjoint st.paramList)
    (h : st.processScratchResults t = .ok (tm, recs)) :
    tm = { t with mem := tm.mem, regs := tm.regs } ∧ tm.regs.syscallResult = t.regs.syscallResult ∧
      ∀ x, (∀ q ∈ st.paramList, st.CopiesBack q → ¬ (q.dest ≤ x ∧ x < q.dest + q.numBytes.incomingSize)) →
        ¬ InPointerCell t.arch.wordSize st.paramList x → tm.mem x = t.mem x := by
  obtain ⟨n, t₁, sizes, -, hw, rfl, -⟩ := TaskSyscallState.processScratchResults_ok h
  obtain ⟨-, -, ht₁, hframe, -⟩ := TaskSyscallState.writeBackFromScratch_ok hdisj (List.drop_zero _) hw
  -- the copies back, then the cells
  have hf : Tracee.Frame (fun x => (∃ q ∈ st.paramList, st.CopiesBack q ∧
      q.dest ≤ x ∧ x < q.dest + q.numBytes.incomingSize) ∨
        InPointerCell t.arch.wordSize st.paramList x) t (restoreCells st.paramList t₁) := by
    have hf₁ : Tracee.Frame (fun x => ∃ q ∈ st.paramList, st.CopiesBack q ∧
        q.dest ≤ x ∧ x < q.dest + q.numBytes.incomingSize) t t₁ :=
      ⟨ht₁, fun x hx => hframe x fun q hq hc hr => hx ⟨q, hq, hc, hr⟩⟩
    have hc := restoreCells_frame st.paramList t₁
    rw [hf₁.arch] at hc
    exact (hf₁.mono fun x hx => .inl hx).trans (hc.mono fun x hx => .inr hx)
  simp only [restorePointers_eq]
  refine ⟨hf.setRegs_eq _, by simp [hf.regs], fun x hx hc => ?_⟩
  exact hf.2 x fun h => h.elim (fun ⟨q, hq, hcb, hr⟩ => hx q hq hcb hr) hc

/-- `abort_syscall_results` with scratch points the registers and the
in-memory pointers back at the destinations. -/
theorem TaskSyscallState.abortSyscallResults_scratch {st : TaskSyscallState} {t : Tracee}
    (htu : st.tuid = t.tuid) (hpd : st.preparationDone = true) (he : st.scratchEnabled = true) :
    st.abortSyscallResults t = .ok (st, (restoreCells st.paramList t).setRegs
      (setArgRegs MemoryParam.dest st.paramList t.regs)) := by
  simp [TaskSyscallState.abortSyscallResults, htu, hpd, he, restorePointers_eq]

/-- Storing a word that `t₀` holds at `a` writes `t₀`'s bytes there. -/
theorem setRemotePtr_mem_of_eq {t t₀ : Tracee} {a v x : Nat} (hv : getRemotePtr t₀ a = v)
    (ha : t.arch = t₀.arch) (hlo : a ≤ x) (hhi : x < a + t.arch.wordSize) :
    (setRemotePtr t a v).mem x = t₀.mem x := by
  have hw := wordBytes_wordValue (readMem t₀.mem a t.arch.wordSize)
  rw [length_readMem] at hw
  rw [← hv, getRemotePtr, ← ha]
  show writeMem t.mem a (wordBytes t.arch.wordSize _) x = t₀.mem x
  rw [hw, writeMem_of_mem hlo (by simpa using hhi), getD_readMem (by omega),
    Nat.add_sub_cancel' hlo]

/-- Restoring the cells of pointers that `t₀` holds: only the cells change,
and they end with `t₀`'s bytes, whatever the order and overlaps. -/
theorem restoreCells_mem {t₀ : Tracee} : ∀ (ps : List MemoryParam) (t : Tracee),
    t.arch = t₀.arch → (∀ q ∈ ps, q.ptrInMemory ≠ 0 → getRemotePtr t₀ q.ptrInMemory = q.dest) →
    Tracee.Frame (InPointerCell t₀.arch.wordSize ps) t (restoreCells ps t) ∧
      ∀ x, InPointerCell t₀.arch.wordSize ps x → (restoreCells ps t).mem x = t₀.mem x
  | [], t, _, _ => ⟨.refl _ t, fun _ ⟨_, h, _⟩ => absurd h (List.not_mem_nil _)⟩
  | q :: ps, t, ha, hc => by
    -- the task after `q`'s cell is stored
    have h₁ : Tracee.Frame (InPointerCell t₀.arch.wordSize [q]) t
          (if q.ptrInMemory ≠ 0 then setRemotePtr t q.ptrInMemory q.dest else t) ∧
        ∀ x, InPointerCell t₀.arch.wordSize [q] x →
          (if q.ptrInMemory ≠ 0 then setRemotePtr t q.ptrInMemory q.dest else t).mem x = t₀.mem x := by
      split_ifs with hq
      · refine ⟨(frame_setRemotePtr t _ _).mono fun x hx => ⟨q, List.mem_singleton_self _, hq, ?_⟩,
          fun x ⟨q', hq', _, hlo, hhi⟩ => ?_⟩
        · rw [ha] at hx; exact hx
        · rw [List.mem_singleton.mp hq'] at hlo hhi
          exact setRemotePtr_mem_of_eq (hc q (List.mem_cons_self _ _) hq) ha hlo (ha ▸ hhi)
      · exact ⟨.refl _ t, fun x ⟨q', hq', h0, _⟩ => absurd (List.mem_singleton.mp hq' ▸ h0) (by simpa using hq)⟩
    obtain ⟨hf, hin⟩ := restoreCells_mem ps _ (h₁.1.arch.trans ha)
      fun q' hq' => hc q' (List.mem_cons_of_mem _ hq')
    have hcell : ∀ x, InPointerCell t₀.arch.wordSize (q :: ps) x ↔
        InPointerCell t₀.arch.wordSize [q] x ∨ InPointerCell t₀.arch.wordSize ps x := by
      simp [InPointerCell, or_and_right, exists_or]
    refine ⟨(h₁.1.mono fun x hx => (hcell x).mpr (.inl hx)).trans
      (hf.mono fun x hx => (hcell x).mpr (.inr hx)), fun x hx => ?_⟩
    by_cases hps : InPointerCell t₀.arch.wordSize ps x
    · exact hin x hps
    · exact (hf.2 x hps).trans (h₁.2 x (((hcell x).mp hx).resolve_right hps))

/-! ## Saving and restoring mutated memory -/

namespace TaskSyscallState

/-- One mutator without scratch: either it changed something, and then only
its destination, with its save slot holding the bytes it found there; or it
changed nothing and is dropped, with its slot. -/
theorem runMutator_saving {p p' : MemoryParam} {t t' : Tracee} {saved saved' : List UInt8}
    (hmu : ∀ mu, p.maybeMutator = some mu → mu.WellBehaved p.numBytes.incomingSize)
    (h : runMutator false p t saved = (p', t', saved')) :
    p'.placement = p.placement ∧
      ((p'.maybeMutator.isSome = true ∧
          Tracee.Frame (fun x => p.dest ≤ x ∧ x < p.dest + p.numBytes.incomingSize) t t' ∧
          saved' = saved ++ readMem t.mem p.dest p.numBytes.incomingSize) ∨
        (p'.maybeMutator = none ∧ t' = t ∧ saved' = saved)) := by
  unfold runMutator at h
  split at h
  · next hm => cases h; exact ⟨rfl, .inr ⟨hm, rfl, rfl⟩⟩
  · next mu hm =>
    have hw := hmu mu hm
    simp only [Bool.false_eq_true, if_false] at h
    by_cases hc : (mu.runSaving t p.dest p.numBytes.incomingSize).1 = true
    · rw [if_pos hc] at h
      cases h
      exact ⟨rfl, .inl ⟨by simp [hm], hw.runSaving t p.dest, by rw [hw.slot t p.dest hc]⟩⟩
    · rw [if_neg hc] at h
      cases h
      exact ⟨rfl, .inr ⟨rfl, hw.unchanged t p.dest (by simpa using hc), rfl⟩⟩

/-- **Saved data, first in, first out.** Without scratch, step 3 leaves the
parameters in place, appends to `saved_data` the bytes each mutator that
changed something found at its destination, and changes only those
destinations; afterwards, from any task and with anything after those bytes,
restoring the mutated memory consumes exactly them, changes only those
destinations, and gives each its bytes from before step 3. -/
theorem runMutators_restore : ∀ {ps ps' : List MemoryParam} {t t' : Tracee} {pre saved : List UInt8},
    DestsDisjoint ps →
    (∀ p ∈ ps, ∀ mu, p.maybeMutator = some mu → mu.WellBehaved p.numBytes.incomingSize) →
    runMutators false ps t pre = (ps', t', saved) →
    ps'.map MemoryParam.placement = ps.map MemoryParam.placement ∧ ∃ S, saved = pre ++ S ∧
      Tracee.Frame (Mutated ps') t t' ∧
      ∀ (t₂ : Tracee) (rest : List UInt8), ∃ t₃,
        restoreMutatedMemory ps' t₂ (S ++ rest) = .ok (t₃, rest) ∧
        Tracee.Frame (Mutated ps') t₂ t₃ ∧ ∀ x, Mutated ps' x → t₃.mem x = t.mem x
  | [], _, t, _, pre, _, _, _, h => by
    cases h
    refine ⟨rfl, [], by simp, .refl _ t, fun t₂ rest => ⟨t₂, rfl, .refl _ t₂, fun _ ⟨_, h, _⟩ => ?_⟩⟩
    exact absurd h (List.not_mem_nil _)
  | p :: ps, _, t, _, pre, _, hdisj, hmu, h => by
    rcases h₁ : runMutator false p t pre with ⟨p₁, t₁, pre₁⟩
    rcases h₂ : runMutators false ps t₁ pre₁ with ⟨ps₁, t₂', saved₂⟩
    simp only [runMutators, h₁, h₂, Prod.mk.injEq] at h
    obtain ⟨rfl, rfl, rfl⟩ := h
    have hd := List.pairwise_cons.mp hdisj
    obtain ⟨hpl, S, rfl, hf, hres⟩ :=
      runMutators_restore hd.2 (fun q hq => hmu q (List.mem_cons_of_mem _ hq)) h₂
    obtain ⟨hp₁, ⟨hsome, hfp, rfl⟩ | ⟨hnone, rfl, rfl⟩⟩ :=
      runMutator_saving (hmu p (List.mem_cons_self _ _)) h₁
    all_goals
      simp only [MemoryParam.placement_eq_iff] at hp₁
      refine ⟨by rw [List.map_cons, List.map_cons, hpl, MemoryParam.placement_eq_iff.mpr hp₁], ?_⟩
    · -- the mutator changed `p.dest`: its bytes come first
      -- no later mutated destination meets `p`'s
      have hout : ∀ x, p.dest ≤ x → x < p.dest + p.numBytes.incomingSize → ¬ Mutated ps₁ x := by
        rintro x hlo hhi ⟨q, hq, -, hqlo, hqhi⟩
        obtain ⟨q', hq', hqq⟩ := exists_placement_eq hpl hq
        simp only [MemoryParam.placement_eq_iff] at hqq
        have := hd.1 q' hq'
        omega
      have hin : ∀ x, Mutated (p₁ :: ps₁) x →
          (p.dest ≤ x ∧ x < p.dest + p.numBytes.incomingSize) ∨ Mutated ps₁ x := by
        intro x hx
        rcases mutated_cons.mp hx with ⟨-, hx⟩ | hx
        · exact .inl (by rw [← hp₁.2.1, ← hp₁.2.2.2.1]; exact hx)
        · exact .inr hx
      have hsub : ∀ x, p.dest ≤ x ∧ x < p.dest + p.numBytes.incomingSize → Mutated (p₁ :: ps₁) x :=
        fun x hx => mutated_cons.mpr (.inl ⟨hsome, by rw [hp₁.2.1, hp₁.2.2.2.1]; exact hx⟩)
      refine ⟨readMem t.mem p.dest p.numBytes.incomingSize ++ S, by rw [List.append_assoc],
        (hfp.mono hsub).trans (hf.mono fun x hx => mutated_cons.mpr (.inr hx)), fun t₂ rest => ?_⟩
      obtain ⟨t₃, hr, hf₃, hm₃⟩ := hres (t₂.writeMem p.dest (readMem t.mem p.dest p.numBytes.incomingSize)) rest
      refine ⟨t₃, ?_, ((t₂.frame_writeMem _ _).mono fun x hx => hsub x (by simpa using hx)).trans
        (hf₃.mono fun x hx => mutated_cons.mpr (.inr hx)), fun x hx => ?_⟩
      · simp only [restoreMutatedMemory, hsome, if_true, hp₁.2.1, hp₁.2.2.2.1, List.append_assoc,
          length_readMem, List.length_append, Nat.le_add_right, List.take_left', List.drop_left']
        exact hr
      · rcases hin x hx with hx | hx
        · rw [hf₃.2 x (hout x hx.1 hx.2), Tracee.writeMem_mem, writeMem_of_mem hx.1 (by simpa using hx.2),
            getD_readMem (by omega), Nat.add_sub_cancel' hx.1]
        · rw [hm₃ x hx]
          exact hfp.2 x fun hp => hout x hp.1 hp.2 hx
    · -- the mutator changed nothing and was dropped
      have hin : ∀ x, Mutated (p₁ :: ps₁) x → Mutated ps₁ x := fun x hx =>
        (mutated_cons.mp hx).resolve_left fun h => by simp [hnone] at h
      refine ⟨S, rfl, hf.mono fun x hx => mutated_cons.mpr (.inr hx), fun t₂ rest => ?_⟩
      obtain ⟨t₃, hr, hf₃, hm₃⟩ := hres t₂ rest
      refine ⟨t₃, ?_, hf₃.mono fun x hx => mutated_cons.mpr (.inr hx), fun x hx => hm₃ x (hin x hx)⟩
      simpa [restoreMutatedMemory, hnone] using hr

end TaskSyscallState

end RdCore.Syscall
