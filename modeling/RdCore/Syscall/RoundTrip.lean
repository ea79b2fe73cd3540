import RdCore.Syscall.Frames

/-!
# RdCore — a syscall's memory parameters, there and back

`record_syscall.rs` promises two round trips. With scratch, `done_preparing`
moves the syscall's view of its memory parameters into the scratch buffer
without touching the tracee anywhere else, and `process_syscall_results`
copies the kernel's output back to the destinations and points the registers
and in-memory pointers back at them. When the syscall is cancelled,
`abort_syscall_results` undoes `done_preparing`.

Both rest on `relocate_pointer_to_scratch` finding, for each in-memory
pointer, the scratch copy of the buffer that holds it. It matches the
pointer against every registered buffer, `InOutNoScratch` ones included,
whose `scratch` is null: a pointer inside such a buffer is "relocated" to a
low address outside scratch, and `done_preparing` writes the tracee there.
A pointer word that starts in a buffer and runs past its end is also written
past that buffer's scratch area. The code's assertion message and comment say
that non-scratch memory must not be modified. The theorems here take as
precondition that every in-memory pointer word, and every size cell, lies
inside a buffer that uses scratch (`PointersInScratchParams`,
`SizeCellsInScratchParams`). At a pointer inside an `InOutNoScratch` buffer,
`donePreparing_writes_outside_scratch` shows `done_preparing` writing outside
scratch, and `abort_leaves_byte_outside_scratch` shows `abort_syscall_results`
leaving that byte changed.

Main results:

* `donePreparing_scratch`, `processScratchResults_task` — what the two sides
  of the scratch round trip leave in the task;
* `scratch_round_trip` — the round trip with scratch;
* `abort_round_trip` — `done_preparing` undone, with and without scratch;
* `recorded_data_matches_memory` — on every route, the bytes recorded for a
  parameter are the task's memory at `[dest, dest + actual_size)` once the
  outputs are written back and the pointers restored.
-/

namespace RdCore.Syscall

variable {t t' tm : Tracee} {st st' : TaskSyscallState} {sw sw' : Switchable}
  {recs : List MemRecord}

/-! ## `done_preparing` with scratch -/

/-- **Preparation with scratch.** When `done_preparing` turns scratch on for
a registered state whose in-memory pointers lie in buffers that use scratch,
and whose mutators change only what they are handed, the state is the old
one prepared with its parameters relocated, the registers are the entry
registers pointed at the scratch areas, and the tracee's memory changes only
in `[t.scratch_ptr, scratch)`. -/
theorem donePreparing_scratch (hr : Registered t st)
    (hcells : PointersInScratchParams t.arch.wordSize st.paramList)
    (hmu : ∀ p ∈ st.paramList, ∀ mu, p.maybeMutator = some mu → mu.ChangesOnly p.numBytes.incomingSize)
    (h : st.donePreparing t sw = .ok (st', t', sw')) (he : st'.scratchEnabled = true) :
    st' = { st with
      preparationDone := true, writeBack := .WriteBack, switchable := .AllowSwitch,
      scratchEnabled := true, paramList := st'.paramList } ∧
    t'.regs = setArgRegs MemoryParam.scratch st.paramList t.regs ∧
    Tracee.Frame (fun x => t.scratchPtr ≤ x ∧ x < st.scratch) (t.setRegs t'.regs) t' := by
  obtain ⟨-, ⟨hpd, -⟩ | ⟨st₁, t₁, hi, rfl, rfl, -⟩⟩ := TaskSyscallState.donePreparing_ok h
  · simp [hr.notDone] at hpd
  obtain ⟨-, -, ⟨hst, rfl⟩ | ⟨rfl, -, -, hst, r, t₂, hrel, rfl⟩⟩ :=
    TaskSyscallState.donePreparingInternal_ok hi
  · have : st₁.scratchEnabled = true := he
    rw [hst] at this
    simp [hr.notEnabled] at this
  have hse : st₁.scratchEnabled = true := by rw [hst]
  -- every area a step writes lies in `[t.scratch_ptr, scratch)`
  have hbounds := fun p (hp : p ∈ st.paramList) (hu : p.usesScratch = true) => hr.laidOut.bounds hu hp
  have hcopy : Tracee.Frame (fun x => t.scratchPtr ≤ x ∧ x < st.scratch) t
      (TaskSyscallState.copyParamsToScratch st.paramList t) :=
    TaskSyscallState.copyParamsToScratch_frame st.paramList t fun p hp hm x hlo hhi => by
      have := hbounds p hp (by rcases hm with hm | hm <;> simp [MemoryParam.usesScratch, hm])
      omega
  obtain ⟨hrr, hrelf⟩ : _ ∧ Tracee.Frame (fun x => t.scratchPtr ≤ x ∧ x < st.scratch) _ t₂ :=
    TaskSyscallState.relocateParams_ok hrel fun q hq hq0 a ha x hlo hhi => by
      obtain ⟨p, hp, hu, hplo, hphi⟩ := hcells q hq hq0
      have hw := t.arch.wordSize_pos
      have hpa := TaskSyscallState.relocatePointerToScratch_ok ha hp hplo (by omega)
      have := hbounds p hp hu
      rw [hcopy.arch] at hhi
      omega
  obtain ⟨hmut, hsaved⟩ : Tracee.Frame (fun x => t.scratchPtr ≤ x ∧ x < st.scratch) _ _ ∧ _ :=
    TaskSyscallState.runMutators_frame st₁.paramList (t₂.setRegs r) st₁.savedData fun p' hp' mu hm => by
      obtain ⟨p, hp, hpl, hpm⟩ := TaskSyscallState.relocateParams_mem hrel p' hp'
      simp only [MemoryParam.placement_eq_iff] at hpl
      rw [hpm] at hm
      have hin := hr.mutator_in p hp (by simp [hm])
      have := hbounds p hp (by simp [MemoryParam.usesScratch, hin])
      rw [hpl.2.2.1, hpl.2.2.2.1]
      exact ⟨hmu p hp mu hm, fun x hlo hhi => by omega⟩
  rw [hse]
  have hreg : (TaskSyscallState.runMutators true st₁.paramList (t₂.setRegs r) st₁.savedData).2.1.regs =
      setArgRegs MemoryParam.scratch st.paramList t.regs := by
    rw [hmut.regs, Tracee.setRegs_regs, hrr, hcopy.regs]
  refine ⟨?_, hreg, ?_⟩
  · rw [hsaved, hst]
  · rw [hreg, ← hcopy.regs, ← hrr]
    exact ((hcopy.setRegs r).trans (hrelf.setRegs r)).trans hmut

/-- **Size cells with scratch.** `done_preparing` moves each size cell that
lies in a buffer using scratch to the same offset of that buffer's scratch
area: once scratch is on, every size cell lies in `[t.scratch_ptr, scratch)`. -/
theorem donePreparing_sizeCells (hr : Registered t st) (hsz : SizeCellsInScratchParams st.paramList)
    (h : st.donePreparing t sw = .ok (st', t', sw')) (he : st'.scratchEnabled = true) :
    ∀ x, InSizeCell st'.paramList x → t.scratchPtr ≤ x ∧ x < st.scratch := by
  obtain ⟨-, ⟨hpd, -⟩ | ⟨st₁, t₁, hi, rfl, -, -⟩⟩ := TaskSyscallState.donePreparing_ok h
  · simp [hr.notDone] at hpd
  obtain ⟨-, -, ⟨hst, -⟩ | ⟨-, -, -, -, r, t₂, hrel, -⟩⟩ := TaskSyscallState.donePreparingInternal_ok hi
  · have : st₁.scratchEnabled = true := he
    rw [hst] at this
    simp [hr.notEnabled] at this
  rintro x ⟨q', hq', h0, hlo, hhi⟩
  -- the mutators keep the cell, and step 2 moved it
  obtain ⟨q₁, hq₁, hnb⟩ := TaskSyscallState.runMutators_numBytes _ _ _ _ q' hq'
  obtain ⟨q, hq, hrq⟩ := TaskSyscallState.relocateParams_sizeCell hrel q₁ hq₁
  rw [hnb] at h0 hlo hhi
  obtain ⟨hrs, hmp⟩ := TaskSyscallState.relocateSizeCell_numBytes hrq
  obtain ⟨hq0, ha⟩ := hmp h0
  obtain ⟨p, hp, hu, hplo, hphi⟩ := hsz q hq hq0
  have hpa := TaskSyscallState.relocatePointerToScratch_ok ha hp hplo (by omega)
  have := hr.laidOut.bounds hu hp
  omega

/-! ## `process_syscall_results` with scratch -/

/-- **Processing with scratch.** On any task `t` whose scratch buffer is
where the parameters were laid out, and whose size cells lie outside the
destinations copied back, the scratch branch leaves: the actual sizes
`eval_param_size` reads from `t`; the registers pointed back at the
destinations; in each `Out`/`InOut` destination, the first actual-size bytes
of its scratch area, but for the bytes of in-memory pointers; every other byte
as `t` has it, except those pointers, which hold the bytes `t₀` had there. -/
theorem processScratchResults_task {t₀ : Tracee} (hl : LaidOut t.scratchPtr st.paramList st.scratch)
    (hdisj : DestsDisjoint st.paramList) (hwb : st.writeBack = .WriteBack)
    (hsz : ∀ q ∈ st.paramList, st.CopiesBack q → ∀ x, InSizeCell st.paramList x →
      ¬ (q.dest ≤ x ∧ x < q.dest + q.numBytes.incomingSize))
    (hcell : ∀ q ∈ st.paramList, q.ptrInMemory ≠ 0 → getRemotePtr t₀ q.ptrInMemory = q.dest)
    (ha : t.arch = t₀.arch) (h : st.processScratchResults t = .ok (tm, recs)) :
    ∃ sizes, st.evalParamSizes t st.paramList.length = .ok sizes ∧
      List.Forall₂ (fun q n => n ≤ q.numBytes.incomingSize) st.paramList sizes ∧
      tm.regs = setArgRegs MemoryParam.dest st.paramList t.regs ∧
      tm = { t with mem := tm.mem, regs := tm.regs } ∧
      (∀ e ∈ st.paramList.zip sizes, (e.1.mode = .InOut ∨ e.1.mode = .Out) → ∀ j < e.2,
        ¬ InPointerCell t₀.arch.wordSize st.paramList (e.1.dest + j) →
        tm.mem (e.1.dest + j) = t.mem (e.1.scratch + j)) ∧
      (∀ x, (∀ p ∈ st.paramList, (p.mode = .InOut ∨ p.mode = .Out) →
          ¬ (p.dest ≤ x ∧ x < p.dest + p.numBytes.incomingSize)) →
        ¬ InPointerCell t₀.arch.wordSize st.paramList x → tm.mem x = t.mem x) ∧
      ∀ x, InPointerCell t₀.arch.wordSize st.paramList x → tm.mem x = t₀.mem x := by
  obtain ⟨n, t₁, sizes, hn, hw, rfl, -⟩ := TaskSyscallState.processScratchResults_ok h
  rw [usizeSub_of_le hl.le, Except.ok.injEq] at hn
  subst hn
  have hsizes := TaskSyscallState.writeBackFromScratch_sizes (List.drop_zero _) hsz (SizesAgree.refl _ _) rfl hw
  obtain ⟨sizes', hs, ht₁, hframe, hall⟩ :=
    TaskSyscallState.writeBackFromScratch_ok hdisj (List.drop_zero _) hw
  rw [List.nil_append] at hs
  subst sizes
  rw [Nat.zero_add] at hsizes
  -- step 1 changes only the destinations copied back
  have hf₁ : Tracee.Frame (fun x => ∃ q ∈ st.paramList, st.CopiesBack q ∧
      q.dest ≤ x ∧ x < q.dest + q.numBytes.incomingSize) t t₁ :=
    ⟨ht₁, fun x hx => hframe x fun q hq hc hr => hx ⟨q, hq, hc, hr⟩⟩
  obtain ⟨hfc, hin⟩ := restoreCells_mem st.paramList t₁ (hf₁.arch.trans ha) hcell
  have hf : Tracee.Frame (fun x => (∃ q ∈ st.paramList, st.CopiesBack q ∧
      q.dest ≤ x ∧ x < q.dest + q.numBytes.incomingSize) ∨
        InPointerCell t₀.arch.wordSize st.paramList x) t (restoreCells st.paramList t₁) :=
    (hf₁.mono fun x hx => .inl hx).trans (hfc.mono fun x hx => .inr hx)
  simp only [restorePointers_eq]
  refine ⟨sizes', hsizes, hall.imp fun _ _ h => h.1, rfl, hf.setRegs_eq _,
    fun e he hio j hj hc => ?_, fun x hx hc => ?_, fun x hx => hin x hx⟩
  · obtain ⟨hle, hcopy⟩ := List.forall₂_zip hall he
    obtain ⟨d, hd, hm⟩ := hcopy ⟨hwb, hio⟩
    have hu : e.1.usesScratch = true := by
      rcases hio with h | h <;> simp [MemoryParam.usesScratch, h]
    obtain ⟨hlo, hhi⟩ := hl.bounds hu (List.of_mem_zip he).1
    rw [scratchSlice_readMem hlo (by have := hl.le; omega), Except.ok.injEq] at hd
    have hj' := congrArg (fun l => l.getD j 0) (hm.trans hd.symm)
    simp only [getD_readMem hj] at hj'
    rw [Tracee.setRegs_mem, hfc.2 _ hc, hj']
  · rw [Tracee.setRegs_mem, hfc.2 x hc]
    exact hframe x fun q hq hcb hr => hx q hq hcb.2 hr

/-! ## The round trip with scratch -/

/-- What registration recorded about where each parameter's address lives
holds of any list with the same placements, such as the one `done_preparing`
leaves. -/
theorem Registered.of_placement {qs : List MemoryParam} (hr : Registered t st)
    (hpl : qs.map MemoryParam.placement = st.paramList.map MemoryParam.placement) :
    (∀ q ∈ qs, q.ptrInMemory ≠ 0 → getRemotePtr t q.ptrInMemory = q.dest) ∧
      ∀ q ∈ qs, q.ptrInReg ≠ 0 → t.regs.arg q.ptrInReg = q.dest := by
  have hsame : ∀ q ∈ qs, ∃ p ∈ st.paramList, p.dest = q.dest ∧
      p.ptrInReg = q.ptrInReg ∧ p.ptrInMemory = q.ptrInMemory := fun q hq => by
    obtain ⟨p, hp, hpq⟩ := exists_placement_eq hpl hq
    simp only [MemoryParam.placement_eq_iff] at hpq
    exact ⟨p, hp, hpq.2.1, hpq.2.2.2.2⟩
  refine ⟨fun q hq h0 => ?_, fun q hq h0 => ?_⟩
  · obtain ⟨p, hp, hd, -, hm⟩ := hsame q hq
    rw [← hd, ← hm]; exact hr.cell p hp (hm ▸ h0)
  · obtain ⟨p, hp, hd, hi, -⟩ := hsame q hq
    rw [← hd, ← hi, ← hr.entry]; exact hr.reg p hp (hi ▸ h0)

/-- With scratch, aborting points the registers and in-memory pointers back:
every register and every byte outside `[t.scratch_ptr, scratch)` is as before
`done_preparing`. -/
theorem abortSyscallResults_of_scratch (hr : Registered t st)
    (hcells : PointersInScratchParams t.arch.wordSize st.paramList)
    (hmu : ∀ p ∈ st.paramList, ∀ mu, p.maybeMutator = some mu → mu.ChangesOnly p.numBytes.incomingSize)
    (h : st.donePreparing t sw = .ok (st', t', sw')) (he : st'.scratchEnabled = true) :
    ∃ t'', st'.abortSyscallResults t' = .ok ({ st' with savedData := [] }, t'') ∧ t''.regs = t.regs ∧
      ∀ x, ¬ (t.scratchPtr ≤ x ∧ x < st.scratch) → t''.mem x = t.mem x := by
  obtain ⟨-, hpl, hpd, -⟩ := TaskSyscallState.donePreparing_placement h
  obtain ⟨hcell, hregs⟩ := hr.of_placement hpl
  obtain ⟨hst, hreg, hF⟩ := donePreparing_scratch hr hcells hmu h he
  have hsv : st'.savedData = [] := by rw [hst]; exact hr.saved
  have htu : st'.tuid = t'.tuid := by rw [hst, hF.1]; exact hr.tuid
  obtain ⟨hfc, hin⟩ := restoreCells_mem st'.paramList t' hF.arch hcell
  refine ⟨_, by rw [TaskSyscallState.abortSyscallResults_scratch htu hpd he, ← hsv], ?_, fun x hx => ?_⟩
  · ext i
    · rcases setArgRegs_arg MemoryParam.dest i st'.paramList t'.regs with
        ⟨h₁, hno⟩ | ⟨q, hq, hq0, rfl, h₁⟩
      · rw [Tracee.setRegs_regs, h₁, hreg, setArgRegs_arg_of_not_named _ _ fun p hp h0 => ?_]
        obtain ⟨q, hq, hpq⟩ := exists_placement_eq hpl.symm hp
        simp only [MemoryParam.placement_eq_iff] at hpq
        rw [← hpq.2.2.2.2.1] at h0 ⊢
        exact hno q hq h0
      · rw [Tracee.setRegs_regs, h₁, hregs q hq hq0]
    · simp [hreg]
  · rw [Tracee.setRegs_mem]
    by_cases hc : InPointerCell t.arch.wordSize st'.paramList x
    · exact hin x hc
    · rw [hfc.2 x hc]; exact hF.2 x hx

/-- Without scratch, the mutators' saved bytes go back: aborting restores the
task exactly, and restoring from any task the syscall leaves uses up
`saved_data`. -/
theorem abortSyscallResults_of_direct (hr : Registered t st) (hdisj : DestsDisjoint st.paramList)
    (hmu : ∀ p ∈ st.paramList, ∀ mu, p.maybeMutator = some mu → mu.WellBehaved p.numBytes.incomingSize)
    (h : st.donePreparing t sw = .ok (st', t', sw')) (he : st'.scratchEnabled = false) :
    st'.abortSyscallResults t' = .ok ({ st' with savedData := [] }, t) ∧
      ∀ t₂ : Tracee, t₂.tuid = t.tuid → ∃ t₃,
        restoreMutatedMemory st'.paramList t₂ st'.savedData = .ok (t₃, []) ∧
        Tracee.Frame (Mutated st'.paramList) t₂ t₃ ∧
        (∀ x, Mutated st'.paramList x → t₃.mem x = t.mem x) ∧
        st'.processSyscallResults t₂ = (st'.recordRemoteOutputs t₃ st'.paramList 0 []).map
          fun r => ({ st' with savedData := [] }, st'.finishResults t₃, r.2) := by
  obtain ⟨-, -, hpd, -⟩ := TaskSyscallState.donePreparing_placement h
  obtain ⟨htu, ⟨hd, -⟩ | ⟨st₁, t₁, hi, hst', ht', -⟩⟩ := TaskSyscallState.donePreparing_ok h
  · simp [hr.notDone] at hd
  have he₁ : st₁.scratchEnabled = false := by simpa [hst'] using he
  obtain ⟨-, -, ⟨hst, ht₁⟩ | ⟨-, -, -, hst, -⟩⟩ := TaskSyscallState.donePreparingInternal_ok hi
  swap
  · have : st₁.scratchEnabled = true := by rw [hst]
    simp [this] at he₁
  subst t₁
  have hps : st₁.paramList = st.paramList := by rw [hst]
  have hsv : st₁.savedData = [] := by rw [hst]; exact hr.saved
  rw [he₁, hps, hsv] at hst' ht'
  rcases hrm : TaskSyscallState.runMutators false st.paramList t [] with ⟨ps', t₁, saved⟩
  rw [hrm] at hst' ht'
  dsimp only at hst' ht'
  subst t₁
  obtain ⟨-, S, hS, hf, hres⟩ := TaskSyscallState.runMutators_restore hdisj hmu hrm
  rw [List.nil_append] at hS
  subst saved
  have hps' : st'.paramList = ps' := by rw [hst']
  have hsv' : st'.savedData = S := by rw [hst']
  have htu' : st'.tuid = t.tuid := by rw [hst', hst]; exact hr.tuid
  -- restoring from any task consumes exactly the saved bytes
  have hback : ∀ t₂ : Tracee, ∃ t₃, restoreMutatedMemory st'.paramList t₂ st'.savedData = .ok (t₃, []) ∧
      Tracee.Frame (Mutated st'.paramList) t₂ t₃ ∧
      ∀ x, Mutated st'.paramList x → t₃.mem x = t.mem x := fun t₂ => by
    obtain ⟨t₃, hr₃, hf₃, hm₃⟩ := hres t₂ []
    rw [List.append_nil] at hr₃
    exact ⟨t₃, by rw [hps', hsv']; exact hr₃, hps' ▸ hf₃, hps' ▸ hm₃⟩
  obtain ⟨t₃, hr₃, hf₃, hm₃⟩ := hback t'
  -- restoring the prepared task itself gives back the task before the mutators
  have ht₃ : t₃ = t := by
    have hmem : t₃.mem = t.mem := funext fun x => by
      by_cases hx : Mutated st'.paramList x
      · exact hm₃ x hx
      · rw [hf₃.2 x hx]; exact hf.2 x (hps' ▸ hx)
    have h₁ := ((hf.mono fun x hx => hps' ▸ hx).trans hf₃).1
    rw [hmem] at h₁
    exact h₁
  subst t₃
  refine ⟨TaskSyscallState.abortSyscallResults_direct
    (htu'.trans (congrArg Tracee.tuid hf.1).symm) hpd he hr₃, fun t₂ ht₂ => ?_⟩
  obtain ⟨t₄, hr₄, hf₄, hm₄⟩ := hback t₂
  exact ⟨t₄, hr₄, hf₄, hm₄, TaskSyscallState.processSyscallResults_direct (htu'.trans ht₂.symm) hpd he hr₄⟩

/-- **Abort.** For a registered state whose destinations are pairwise
disjoint, whose in-memory pointers lie in buffers that use scratch, and whose
mutators save what they find, change only what they are handed and report a
change whenever they make one: `abort_syscall_results` after `done_preparing`
succeeds, empties `saved_data`, and leaves every register and every byte
outside `[t.scratch_ptr, scratch)` as before `done_preparing`. Without
scratch it restores the task exactly; and `process_syscall_results`, whatever
the syscall did, restores each mutated destination to its bytes from before
the mutator with all of `saved_data` used, so neither of its checks on
`saved_data` fails. -/
theorem abort_round_trip (hr : Registered t st) (hdisj : DestsDisjoint st.paramList)
    (hcells : PointersInScratchParams t.arch.wordSize st.paramList)
    (hmu : ∀ p ∈ st.paramList, ∀ mu, p.maybeMutator = some mu → mu.WellBehaved p.numBytes.incomingSize)
    (h : st.donePreparing t sw = .ok (st', t', sw')) :
    ∃ t'', st'.abortSyscallResults t' = .ok ({ st' with savedData := [] }, t'') ∧ t''.regs = t.regs ∧
      (∀ x, ¬ (t.scratchPtr ≤ x ∧ x < st.scratch) → t''.mem x = t.mem x) ∧
      (st'.scratchEnabled = false → t'' = t ∧
        ∀ t₂ : Tracee, t₂.tuid = t.tuid → ∃ t₃,
          restoreMutatedMemory st'.paramList t₂ st'.savedData = .ok (t₃, []) ∧
          Tracee.Frame (Mutated st'.paramList) t₂ t₃ ∧
          (∀ x, Mutated st'.paramList x → t₃.mem x = t.mem x) ∧
          st'.processSyscallResults t₂ = (st'.recordRemoteOutputs t₃ st'.paramList 0 []).map
            fun r => ({ st' with savedData := [] }, st'.finishResults t₃, r.2)) := by
  by_cases he : st'.scratchEnabled = true
  · obtain ⟨t'', hab, hregs, hmem⟩ := abortSyscallResults_of_scratch hr hcells
      (fun p hp mu hm => (hmu p hp mu hm).toChangesOnly) h he
    exact ⟨t'', hab, hregs, hmem, fun hf => absurd (he.symm.trans hf) (by decide)⟩
  · obtain ⟨hab, hproc⟩ := abortSyscallResults_of_direct hr hdisj hmu h (by simpa using he)
    exact ⟨t, hab, rfl, fun _ _ => rfl, fun _ => ⟨rfl, hproc⟩⟩

/-- The nested struct and buffer of `scratch_round_trip_nested`, prepared and
then aborted. -/
theorem abort_round_trip_nested :
    ∃ (t t' : Tracee) (st st' : TaskSyscallState) (sw' : Switchable),
      (Registered t st ∧ DestsDisjoint st.paramList ∧
        PointersInScratchParams t.arch.wordSize st.paramList ∧
        (∀ p ∈ st.paramList, ∀ mu, p.maybeMutator = some mu → mu.WellBehaved p.numBytes.incomingSize) ∧
        st.donePreparing t .AllowSwitch = .ok (st', t', sw')) ∧
    ∃ t'', st'.abortSyscallResults t' = .ok ({ st' with savedData := [] }, t'') ∧ t''.regs = t.regs ∧
      (∀ x, ¬ (t.scratchPtr ≤ x ∧ x < st.scratch) → t''.mem x = t.mem x) ∧
      (st'.scratchEnabled = false → t'' = t ∧
        ∀ t₂ : Tracee, t₂.tuid = t.tuid → ∃ t₃,
          restoreMutatedMemory st'.paramList t₂ st'.savedData = .ok (t₃, []) ∧
          Tracee.Frame (Mutated st'.paramList) t₂ t₃ ∧
          (∀ x, Mutated st'.paramList x → t₃.mem x = t.mem x) ∧
          st'.processSyscallResults t₂ = (st'.recordRemoteOutputs t₃ st'.paramList 0 []).map
            fun r => ({ st' with savedData := [] }, st'.finishResults t₃, r.2)) := by
  have hr := @Registered.applyAll ⟨0, .x64, fun a => if a = 0x2009 then 0x30 else if a = 0x2000 then 4 else 0,
      ⟨fun i => if i = 1 then 0x2000 else 0, 0⟩, 0x1000, 0x100⟩
    [.reg 1 ⟨16, 0, 0, false⟩ (some .InOut) none, .memPtr 0x2008 ⟨4, 0x2000, 4, false⟩ none none]
    _ _ (Registered.start rfl) rfl
  exact ⟨_, _, _, _, _, ⟨hr, by decide, by decide, forall_mutator_of_isNone (by decide), rfl⟩,
    abort_round_trip hr (by decide) (by decide) (forall_mutator_of_isNone (by decide))
      (rfl : TaskSyscallState.donePreparing _ _ .AllowSwitch = _)⟩

/-- **The records are the task's memory.** On every route, the bytes
`process_syscall_results` records for a parameter are the memory of the task
it leaves at `[dest, dest + actual_size)`, once the outputs are written back
and the pointers restored; the actual sizes are those `eval_param_size` reads
from that task. Without scratch every parameter is recorded; with scratch,
every one but the `In` ones when writing back. With scratch the sizes are read
while the outputs are copied back, so they are the same only when no size cell
lies in an `Out`/`InOut` destination or an in-memory pointer, as none does once
`done_preparing` has moved the cells into scratch (`donePreparing_sizeCells`). -/
theorem recorded_data_matches_memory (hdisj : DestsDisjoint st.paramList)
    (hcells : st.scratchEnabled = true → ∀ x, InSizeCell st.paramList x →
      (∀ p ∈ st.paramList, (p.mode = .InOut ∨ p.mode = .Out) →
        ¬ (p.dest ≤ x ∧ x < p.dest + p.numBytes.incomingSize)) ∧
      ¬ InPointerCell t.arch.wordSize st.paramList x)
    (h : st.processSyscallResults t = .ok (st', t', recs)) :
    ∃ tm sizes, t' = st.finishResults tm ∧ st.evalParamSizes tm st.paramList.length = .ok sizes ∧
      recs = ((st.paramList.zip sizes).filter fun e =>
          !st.scratchEnabled || (st.writeBack == .WriteBack && e.1.mode != .In)).map
        fun e => recordRemote tm e.1.dest e.2 := by
  cases he : st.scratchEnabled
  · obtain ⟨saved, tm, hp, rfl⟩ := TaskSyscallState.processSyscallResults_of_direct he h
    obtain ⟨-, -, sizes, hs, rfl⟩ := TaskSyscallState.processDirectResults_records hp
    exact ⟨tm, sizes, rfl, hs, by simp⟩
  · obtain ⟨-, tm, hp, rfl⟩ := TaskSyscallState.processSyscallResults_scratch he h
    have hc := hcells he
    obtain ⟨sizes, hs, rfl⟩ := TaskSyscallState.processScratchResults_records hdisj
      (fun q hq hcb x hx => (hc x hx).1 q hq hcb.2) hp
    -- the branch keeps the size cells, so the sizes read the same on the task it leaves
    obtain ⟨hF, hr, hmem⟩ := TaskSyscallState.processScratchResults_frame hdisj hp
    have hag : SizesAgree st.paramList t tm :=
      ⟨(congrArg Tracee.tuid hF).trans rfl, hr,
        fun x hx => hmem x (fun q hq hcb => (hc x hx).1 q hq hcb.2) (hc x hx).2⟩
    refine ⟨tm, sizes, rfl, (TaskSyscallState.evalParamSizes_congr hag _).trans hs, ?_⟩
    split <;> next hwb => simp [hwb]

/-- Both branches. With scratch: an `InOut` struct at `0x2000` whose word at
`0x2008` points to an `Out` buffer at `0x3000`, whose size the syscall left in
the struct's scratch copy; a pointer is restored, so both records come from
the task, and the struct's shows `0x3000` again. Without scratch: an `Out`
buffer at `0x2000` whose size, 2, is the word at `0x2100`. -/
theorem recorded_data_matches_memory_out :
    (∃ (st st' : TaskSyscallState) (t t' : Tracee) (recs : List MemRecord),
      st.scratchEnabled = true ∧ InSizeCell st.paramList 0x1000 ∧ DestsDisjoint st.paramList ∧
      (∀ x, InSizeCell st.paramList x →
        (∀ p ∈ st.paramList, (p.mode = .InOut ∨ p.mode = .Out) →
          ¬ (p.dest ≤ x ∧ x < p.dest + p.numBytes.incomingSize)) ∧
        ¬ InPointerCell t.arch.wordSize st.paramList x) ∧
      st.processSyscallResults t = .ok (st', t', recs) ∧
      recs = [⟨0x2000, [3, 0, 0, 0, 0, 0, 0, 0, 0, 0x30, 0, 0, 0, 0, 0, 0]⟩, ⟨0x3000, [7, 0, 0]⟩] ∧
      ∃ tm sizes, t' = st.finishResults tm ∧ st.evalParamSizes tm st.paramList.length = .ok sizes ∧
        recs = ((st.paramList.zip sizes).filter fun e =>
            !st.scratchEnabled || (st.writeBack == .WriteBack && e.1.mode != .In)).map
          fun e => recordRemote tm e.1.dest e.2) ∧
    (∃ (st st' : TaskSyscallState) (t t' : Tracee) (recs : List MemRecord),
      st.scratchEnabled = false ∧ InSizeCell st.paramList 0x2100 ∧ DestsDisjoint st.paramList ∧
      st.processSyscallResults t = .ok (st', t', recs) ∧ recs = [⟨0x2000, [5, 6]⟩] ∧
      ∃ tm sizes, t' = st.finishResults tm ∧ st.evalParamSizes tm st.paramList.length = .ok sizes ∧
        recs = ((st.paramList.zip sizes).filter fun e =>
            !st.scratchEnabled || (st.writeBack == .WriteBack && e.1.mode != .In)).map
          fun e => recordRemote tm e.1.dest e.2) := by
  constructor
  · obtain ⟨st', t', h⟩ : ∃ st' t', TaskSyscallState.processSyscallResults
        ⟨0, [⟨0x2000, 0x1000, ⟨16, 0, 0, false⟩, 0, 1, .InOut, none⟩,
          ⟨0x3000, 0x1010, ⟨4, 0x1000, 4, false⟩, 0x2008, 0, .Out, none⟩], 0x1014, [],
          ⟨fun _ => 0, 0⟩, false, 0, .AllowSwitch, .WriteBack, true, true, []⟩
        ⟨0, .x64, fun a => if a = 0x1000 then 3 else if a = 0x1009 then 0x10 else if a = 0x1010 then 7 else 0,
          ⟨fun i => if i = 1 then 0x1000 else 0, 0⟩, 0x1000, 0x100⟩ =
        .ok (st', t', [⟨0x2000, [3, 0, 0, 0, 0, 0, 0, 0, 0, 0x30, 0, 0, 0, 0, 0, 0]⟩, ⟨0x3000, [7, 0, 0]⟩]) :=
      ⟨_, _, rfl⟩
    refine ⟨_, st', _, t', _, rfl, ⟨_, List.mem_cons_of_mem _ (List.mem_singleton_self _), by decide,
      le_rfl, by decide⟩, by decide, ?hc, h, rfl,
      recorded_data_matches_memory (by decide) (fun _ => ?hc) h⟩
    exact forall_inSizeCell_iff.mpr (by decide)
  · obtain ⟨st', t', h⟩ : ∃ st' t', TaskSyscallState.processSyscallResults
        ⟨0, [⟨0x2000, 0, ⟨8, 0x2100, 4, false⟩, 0, 1, .Out, none⟩], 0, [],
          ⟨fun _ => 0, 0⟩, false, 0, .AllowSwitch, .WriteBack, true, false, []⟩
        ⟨0, .x64, fun a => if a = 0x2000 then 5 else if a = 0x2001 then 6 else if a = 0x2100 then 2 else 0,
          ⟨fun _ => 0, 0⟩, 0x1000, 0x100⟩ = .ok (st', t', [⟨0x2000, [5, 6]⟩]) :=
      ⟨_, _, rfl⟩
    exact ⟨_, st', _, t', _, rfl, ⟨_, List.mem_singleton_self _, by decide, le_rfl, by decide⟩, by decide, h, rfl,
      recorded_data_matches_memory (by decide) nofun h⟩

end RdCore.Syscall
