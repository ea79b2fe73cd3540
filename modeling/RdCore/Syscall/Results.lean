import RdCore.Syscall.Prepare

/-!
# RdCore — processing and aborting a syscall's results

When the syscall exits, `process_syscall_results` works out each parameter's
actual size (`eval_param_size`), and with scratch enabled copies the outputs
from a snapshot of the scratch buffer back to their destinations, restores the
argument registers and in-memory pointers, and records the outputs: from the
snapshot when no pointer in memory was restored (`record_local`), otherwise
from the task (`record_remote`). Without scratch it undoes the mutators from
`saved_data` and records every parameter from the task. When the syscall is
cancelled, `abort_syscall_results` undoes what preparation did.

Main results:

* `processScratchResults_records`, `processDirectResults_records` — what each
  branch records, with the sizes `evalParamSizes` computes;
* `writeBackFromScratch_sizes` — the sizes the scratch branch reads while it
  copies the outputs back are those read before, when no output covers a size
  cell.
-/

namespace RdCore.Syscall

/-! ## Sizes -/

namespace ParamSize

/-- The final size read from the word at `mem_ptr` (`read_val_mem` of a `u32`
or `u64`; the conversion to `usize` cannot fail on a 64-bit host). -/
def memSize (ps : ParamSize) (t : Tracee) : Except String Nat :=
  match ps.readSize with
  | 4 => .ok (wordValue (readMem t.mem ps.memPtr 4))
  | 8 => .ok (wordValue (readMem t.mem ps.memPtr 8))
  | _ => .error "Unknown read_size"

/-- The final size read from the syscall result: `max(0, result)` as a
`usize`, cast through `u32` or `u64`. -/
def syscallSize (ps : ParamSize) (t : Tracee) : Except String Nat :=
  let size := (max 0 t.regs.syscallResultSigned).toNat
  match ps.readSize with
  | 4 => .ok (size % 2 ^ 32)
  | 8 => .ok (size % 2 ^ 64)
  | _ => .error "Unknown read_size"

/-- One final-size check of `ParamSize::eval`: when the source is present,
`s` is lowered to what is left of its size once `already_consumed` bytes of
it went to earlier parameters, after `ed_assert!(already_consumed <= size)`.
The memory and the syscall-result checks are this with their own source. -/
def limitBy (present : Bool) (source : Except String Nat) (alreadyConsumed s : Nat) (msg : String) :
    Except String Nat :=
  if present then
    match source with
    | .error e => .error e
    | .ok size => if alreadyConsumed ≤ size then .ok (min s (size - alreadyConsumed)) else .error msg
  else .ok s

/-- `ParamSize::eval`: the incoming size, lowered by the size at `mem_ptr`
and then by the syscall result, when they are sources. -/
def eval (ps : ParamSize) (t : Tracee) (alreadyConsumed : Nat) : Except String Nat := do
  let s ← limitBy (ps.memPtr != 0) (ps.memSize t) alreadyConsumed ps.incomingSize
    "assertion failed: already_consumed <= mem_size"
  limitBy ps.fromSyscall (ps.syscallSize t) alreadyConsumed s
    "assertion failed: already_consumed <= syscall_size"

/-- `ParamSize::is_same_source`. -/
def isSameSource (a b : ParamSize) : Bool :=
  ((a.memPtr != 0 && b.memPtr == a.memPtr) || (a.fromSyscall && b.fromSyscall)) &&
    a.readSize == b.readSize

end ParamSize

namespace TaskSyscallState

/-- `eval_param_size(t, i, actual_sizes)`: the actual size of parameter `i`,
the sizes of the parameters before it being `actual_sizes`; returns the
extended vector and the size. -/
def evalParamSize (st : TaskSyscallState) (t : Tracee) (i : Nat) (actualSizes : List Nat) :
    Except String (List Nat × Nat) :=
  if actualSizes.length ≠ i then .error "assertion `left == right` failed"
  else if st.tuid ≠ t.tuid then .error "assertion failed: self.tuid == t.tuid()"
  else match st.paramList[i]? with
    | none => .error "index out of bounds"
    | some p => do
      let alreadyConsumed := ((st.paramList.take i).zip actualSizes).foldl
        (fun acc e => if e.1.numBytes.isSameSource p.numBytes then acc + e.2 else acc) 0
      let size ← p.numBytes.eval t alreadyConsumed
      pure (actualSizes ++ [size], size)

/-- `eval_param_size` called for the parameters `0, 1, …, n - 1` in turn on
one task, as `process_syscall_results` does: their actual sizes. -/
def evalParamSizes (st : TaskSyscallState) (t : Tracee) : Nat → Except String (List Nat)
  | 0 => .ok []
  | n + 1 => do
    let sizes ← st.evalParamSizes t n
    let (sizes', _) ← st.evalParamSize t n sizes
    pure sizes'

/-! ## `process_syscall_results` -/

/-- The copy of one parameter's output from the snapshot `data` back to
`dest`, for `Out`/`InOut` parameters when writing back. -/
def writeBackParam (st : TaskSyscallState) (data : List UInt8) (p : MemoryParam) (size : Nat)
    (t : Tracee) : Except String Tracee :=
  if st.writeBack = .WriteBack ∧ (p.mode = .InOut ∨ p.mode = .Out) then
    (scratchSlice data t.scratchPtr p size).map (t.writeMem p.dest)
  else .ok t

/-- Step 1 of the scratch branch over the parameters `ps`, the first being
parameter `i`: each one's actual size and the copy of its output. -/
def writeBackFromScratch (st : TaskSyscallState) (data : List UInt8) :
    List MemoryParam → Nat → Tracee → List Nat → Except String (Tracee × List Nat)
  | [], _, t, sizes => .ok (t, sizes)
  | p :: ps, i, t, sizes => do
    let (sizes, size) ← st.evalParamSize t i sizes
    let t ← st.writeBackParam data p size t
    st.writeBackFromScratch data ps (i + 1) t sizes

end TaskSyscallState

/-- The loop that points argument registers and in-memory pointers back at
the parameters' destinations: step 2 of the scratch branch of
`process_syscall_results`, and the scratch branch of `abort_syscall_results`.
The flag records whether a pointer in memory was restored
(`memory_cleaned_up`). -/
def restorePointers : List MemoryParam → Registers → Tracee → Bool → Registers × Tracee × Bool
  | [], r, t, cleaned => (r, t, cleaned)
  | p :: ps, r, t, cleaned =>
    let r := if p.ptrInReg ≠ 0 then r.setArg p.ptrInReg p.dest else r
    let (t, cleaned) := if p.ptrInMemory ≠ 0 then (setRemotePtr t p.ptrInMemory p.dest, true)
      else (t, cleaned)
    restorePointers ps r t cleaned

/-- The record step 3 of the scratch branch makes for one parameter: from the
task if a pointer in memory was restored, otherwise from the snapshot `data`. -/
def recordOutput (data : List UInt8) (scratchPtr : Nat) (cleaned : Bool) (t : Tracee)
    (p : MemoryParam) (size : Nat) : Except String (List MemRecord) :=
  if p.mode = .InOutNoScratch then .ok [recordRemote t p.dest size]
  else if p.mode = .InOut ∨ p.mode = .Out then
    if cleaned then .ok [recordRemote t p.dest size]
    else (scratchSlice data scratchPtr p size).map fun d => [⟨p.dest, d⟩]
  else .ok []

/-- Step 3 of the scratch branch: record each output area. -/
def recordScratchOutputs (data : List UInt8) (scratchPtr : Nat) (cleaned : Bool) (t : Tracee) :
    List (MemoryParam × Nat) → Except String (List MemRecord)
  | [] => .ok []
  | (p, size) :: rest => do
    let out ← recordOutput data scratchPtr cleaned t p size
    let recs ← recordScratchOutputs data scratchPtr cleaned t rest
    pure (out ++ recs)

/-- Step 1 of the scratch-disabled branch, and `abort_syscall_results`
without scratch: write each mutated parameter's saved bytes back, taking
them from the front of `saved_data`. -/
def restoreMutatedMemory : List MemoryParam → Tracee → List UInt8 → Except String (Tracee × List UInt8)
  | [], t, saved => .ok (t, saved)
  | p :: ps, t, saved =>
    if p.maybeMutator.isSome then
      if p.numBytes.incomingSize ≤ saved.length then
        restoreMutatedMemory ps (t.writeMem p.dest (saved.take p.numBytes.incomingSize))
          (saved.drop p.numBytes.incomingSize)
      else .error "assertion failed: self.saved_data.len() >= size"
    else restoreMutatedMemory ps t saved

namespace TaskSyscallState

/-- Step 2 of the scratch-disabled branch: each parameter's actual size and a
record of its area, taken from the task. -/
def recordRemoteOutputs (st : TaskSyscallState) (t : Tracee) :
    List MemoryParam → Nat → List Nat → Except String (List Nat × List MemRecord)
  | [], _, sizes => .ok (sizes, [])
  | p :: ps, i, sizes => do
    let (sizes, size) ← st.evalParamSize t i sizes
    let (sizes, recs) ← st.recordRemoteOutputs t ps (i + 1) sizes
    pure (sizes, recordRemote t p.dest size :: recs)

/-- The scratch branch of `process_syscall_results`: the task once the
outputs are written back and the pointers and registers restored, and the
records. -/
def processScratchResults (st : TaskSyscallState) (t : Tracee) :
    Except String (Tracee × List MemRecord) := do
  let scratchNumBytes ← usizeSub st.scratch t.scratchPtr
  let data := readMem t.mem t.scratchPtr scratchNumBytes
  let (t₁, sizes) ← st.writeBackFromScratch data st.paramList 0 t []
  let (r, t₂, cleaned) := restorePointers st.paramList t.regs t₁ false
  (if st.writeBack = .WriteBack then
      recordScratchOutputs data t.scratchPtr cleaned t₂ (st.paramList.zip sizes)
    else .ok []).map fun recs => (t₂.setRegs r, recs)

/-- The scratch-disabled branch of `process_syscall_results`: `saved_data`
after the mutated memory is restored, the task, and the records. -/
def processDirectResults (st : TaskSyscallState) (t : Tracee) :
    Except String (List UInt8 × Tracee × List MemRecord) := do
  let (t, saved) ← restoreMutatedMemory st.paramList t st.savedData
  if saved ≠ [] then .error "assertion failed: self.saved_data.is_empty()"
  else (st.recordRemoteOutputs t st.paramList 0 []).map fun r => (saved, t, r.2)

/-- The end of `process_syscall_results`: the emulated result, then the
after-syscall actions. -/
def finishResults (st : TaskSyscallState) (t : Tracee) : Tracee :=
  st.afterSyscallActions.foldl (fun t action => action t)
    (if st.shouldEmulateResult then t.setRegs (t.regs.setSyscallResult st.emulatedResult) else t)

/-- `process_syscall_results`: the new state, the task and the memory records
written to the trace. -/
def processSyscallResults (st : TaskSyscallState) (t : Tracee) :
    Except String (TaskSyscallState × Tracee × List MemRecord) :=
  if st.tuid ≠ t.tuid then .error "assertion failed: self.tuid == t.tuid()"
  else if !st.preparationDone then .error "assertion failed: self.preparation_done"
  else if st.scratchEnabled then
    match st.processScratchResults t with
    | .error e => .error e
    | .ok (t, recs) => .ok (st, st.finishResults t, recs)
  else
    match st.processDirectResults t with
    | .error e => .error e
    | .ok (saved, t, recs) => .ok ({ st with savedData := saved }, st.finishResults t, recs)

/-- `abort_syscall_results`. -/
def abortSyscallResults (st : TaskSyscallState) (t : Tracee) :
    Except String (TaskSyscallState × Tracee) :=
  if st.tuid ≠ t.tuid then .error "assertion failed: self.tuid == t.tuid()"
  else if !st.preparationDone then .error "assertion failed: self.preparation_done"
  else if st.scratchEnabled then
    let (r, t, _) := restorePointers st.paramList t.regs t false
    .ok (st, t.setRegs r)
  else
    match restoreMutatedMemory st.paramList t st.savedData with
    | .error e => .error e
    | .ok (t, saved) => .ok ({ st with savedData := saved }, t)

end TaskSyscallState

/-! ## Actual sizes -/

variable {st st' : TaskSyscallState} {t t' : Tracee} {ps : ParamSize} {c n : Nat}

theorem ParamSize.limitBy_le {b : Bool} {src : Except String Nat} {s : Nat} {msg : String}
    (h : ParamSize.limitBy b src c s msg = .ok n) : n ≤ s := by
  unfold ParamSize.limitBy at h
  split at h
  · split at h
    · cases h
    · split at h
      · cases h; exact Nat.min_le_left _ _
      · cases h
  · cases h; exact le_rfl

/-- An actual size never exceeds the incoming size. -/
theorem ParamSize.eval_le (h : ps.eval t c = .ok n) : n ≤ ps.incomingSize := by
  obtain ⟨s, hs, h⟩ := Except.bind_eq_ok.mp h
  exact (ParamSize.limitBy_le h).trans (ParamSize.limitBy_le hs)

/-- `eval` reads the task only at the word at `mem_ptr`, when there is one,
and in the syscall result. -/
theorem ParamSize.eval_congr
    (hm : ps.memPtr ≠ 0 → ∀ x, ps.memPtr ≤ x → x < ps.memPtr + ps.readSize → t'.mem x = t.mem x)
    (hr : t'.regs.syscallResult = t.regs.syscallResult) (c : Nat) : ps.eval t' c = ps.eval t c := by
  have hsys : ps.syscallSize t' = ps.syscallSize t := by
    simp only [ParamSize.syscallSize, Registers.syscallResultSigned, hr]
  by_cases h0 : ps.memPtr = 0
  · simp only [ParamSize.eval, ParamSize.limitBy, h0, bne_self_eq_false, Bool.false_eq_true, if_false, hsys]
  · have hmem : ps.memSize t' = ps.memSize t := by
      unfold ParamSize.memSize
      split <;> (try congr 2) <;> exact readMem_congr fun i hi => hm h0 _ (Nat.le_add_right _ _) (by omega)
    simp only [ParamSize.eval, hmem, hsys]

theorem List.getElem?_of_drop_eq_cons {α : Type} {l qs : List α} {i : Nat} {q : α}
    (h : l.drop i = q :: qs) : l[i]? = some q ∧ l.drop (i + 1) = qs := by
  refine ⟨?_, by rw [← List.tail_drop, h]; rfl⟩
  have h0 := congrArg (·[0]?) h
  simp only [List.getElem?_drop, Nat.add_zero] at h0
  simpa using h0

namespace TaskSyscallState

variable {data : List UInt8} {p : MemoryParam} {i : Nat} {sizes sizes' : List Nat}

theorem evalParamSize_ok (h : st.evalParamSize t i sizes = .ok (sizes', n)) :
    sizes' = sizes ++ [n] ∧ ∃ p, st.paramList[i]? = some p ∧ n ≤ p.numBytes.incomingSize := by
  unfold evalParamSize at h
  split_ifs at h
  split at h
  · cases h
  · next p hp =>
    obtain ⟨size, hs, h⟩ := Except.bind_eq_ok.mp h
    cases h
    exact ⟨rfl, p, hp, ParamSize.eval_le hs⟩

/-- Step 1 copies parameter `p` back to `dest`. -/
def CopiesBack (st : TaskSyscallState) (p : MemoryParam) : Prop :=
  st.writeBack = .WriteBack ∧ (p.mode = .InOut ∨ p.mode = .Out)

theorem writeBackParam_ok (h : st.writeBackParam data p n t = .ok t') :
    (st.CopiesBack p → ∃ d, scratchSlice data t.scratchPtr p n = .ok d ∧ t' = t.writeMem p.dest d) ∧
      (¬ st.CopiesBack p → t' = t) := by
  unfold writeBackParam at h
  split at h
  · next hc =>
    cases hs : scratchSlice data t.scratchPtr p n <;> simp only [hs, Except.map] at h
    · cases h
    · cases h; exact ⟨fun _ => ⟨_, rfl, rfl⟩, fun hn => absurd hc hn⟩
  · next hc => cases h; exact ⟨fun h => absurd h hc, fun _ => rfl⟩

/-- Step 1 over the parameters `qs` from index `i`: one actual size per
parameter, at most its incoming size; the task changes only in the
destinations of the parameters copied back, each of which then holds its
slice of the snapshot. -/
theorem writeBackFromScratch_ok {qs : List MemoryParam} (hdisj : DestsDisjoint qs)
    (hq : st.paramList.drop i = qs) (h : st.writeBackFromScratch data qs i t sizes = .ok (t', sizes')) :
    ∃ news, sizes' = sizes ++ news ∧ t' = { t with mem := t'.mem } ∧
      (∀ x, (∀ q ∈ qs, st.CopiesBack q → ¬ (q.dest ≤ x ∧ x < q.dest + q.numBytes.incomingSize)) →
        t'.mem x = t.mem x) ∧
      List.Forall₂ (fun q n => n ≤ q.numBytes.incomingSize ∧ (st.CopiesBack q →
        ∃ d, scratchSlice data t.scratchPtr q n = .ok d ∧ readMem t'.mem q.dest n = d)) qs news := by
  induction qs generalizing i t sizes with
  | nil => cases h; exact ⟨[], by simp, rfl, fun _ _ => rfl, .nil⟩
  | cons q qs ih =>
    obtain ⟨hqi, hqs⟩ := List.getElem?_of_drop_eq_cons hq
    obtain ⟨⟨sizes₁, n⟩, he, h⟩ := Except.bind_eq_ok.mp h
    obtain ⟨t₁, hw, h⟩ := Except.bind_eq_ok.mp h
    obtain ⟨rfl, q', hq', hn⟩ := evalParamSize_ok he
    rw [hqi, Option.some.injEq] at hq'
    subst hq'
    have hd := List.pairwise_cons.mp hdisj
    obtain ⟨news, rfl, ht', hframe, hall⟩ := ih hd.2 hqs h
    obtain ⟨hcopy, hskip⟩ := writeBackParam_ok hw
    -- the task after this parameter's copy
    have ht₁ : t₁ = { t with mem := t₁.mem } ∧
        ∀ x, (st.CopiesBack q → ¬ (q.dest ≤ x ∧ x < q.dest + q.numBytes.incomingSize)) →
          t₁.mem x = t.mem x := by
      by_cases hc : st.CopiesBack q
      · obtain ⟨d, hs, rfl⟩ := hcopy hc
        refine ⟨rfl, fun x hx => writeMem_of_not_mem ?_⟩
        rw [length_of_scratchSlice hs]
        exact fun hm => hx hc ⟨hm.1, by omega⟩
      · rw [hskip hc]; exact ⟨rfl, fun _ _ => rfl⟩
    refine ⟨n :: news, by simp, by rw [ht', ht₁.1], fun x hx => ?_, .cons ⟨hn, fun hc => ?_⟩ ?_⟩
    · rw [hframe x fun q hq => hx q (List.mem_cons_of_mem _ hq)]
      exact ht₁.2 x (hx q (List.mem_cons_self _ _))
    · obtain ⟨d, hs, rfl⟩ := hcopy hc
      refine ⟨d, hs, ?_⟩
      have hl := length_of_scratchSlice hs
      rw [← readMem_writeMem_self t.mem q.dest d, hl]
      refine readMem_congr fun j hj => hframe _ fun q₂ hq₂ _ hm => ?_
      have := hd.1 q₂ hq₂
      omega
    · rw [ht₁.1] at hall; exact hall

/-- Step 2 of the scratch-disabled branch over `qs` from index `i`: one
actual size per parameter, and a record of each from the task. -/
theorem recordRemoteOutputs_ok {qs : List MemoryParam} {recs : List MemRecord}
    (hq : st.paramList.drop i = qs) (h : st.recordRemoteOutputs t qs i sizes = .ok (sizes', recs)) :
    ∃ news, sizes' = sizes ++ news ∧
      List.Forall₂ (fun q n => n ≤ q.numBytes.incomingSize) qs news ∧
      recs = (qs.zip news).map fun e => recordRemote t e.1.dest e.2 := by
  induction qs generalizing i sizes sizes' recs with
  | nil => cases h; exact ⟨[], by simp, .nil, rfl⟩
  | cons q qs ih =>
    obtain ⟨hqi, hqs⟩ := List.getElem?_of_drop_eq_cons hq
    obtain ⟨⟨sizes₁, n⟩, he, h⟩ := Except.bind_eq_ok.mp h
    obtain ⟨⟨sizes₂, recs₂⟩, hr, h⟩ := Except.bind_eq_ok.mp h
    cases h
    obtain ⟨rfl, q', hq', hn⟩ := evalParamSize_ok he
    rw [hqi, Option.some.injEq] at hq'
    subst hq'
    obtain ⟨news, rfl, hall, rfl⟩ := ih hqs hr
    exact ⟨n :: news, by simp, .cons hn hall, rfl⟩

end TaskSyscallState

/-! ## What the actual sizes read -/

/-- `x` is a byte of a size cell of `ps`: the word of `read_size` bytes at a
non-null `num_bytes.mem_ptr`. -/
def InSizeCell (ps : List MemoryParam) (x : Nat) : Prop :=
  ∃ q ∈ ps, q.numBytes.memPtr ≠ 0 ∧ q.numBytes.memPtr ≤ x ∧ x < q.numBytes.memPtr + q.numBytes.readSize

/-- A property of every size-cell byte is one of each cell's `read_size`
bytes in turn. -/
theorem forall_inSizeCell_iff {ps : List MemoryParam} {P : Nat → Prop} :
    (∀ x, InSizeCell ps x → P x) ↔
      ∀ q ∈ ps, q.numBytes.memPtr ≠ 0 → ∀ i < q.numBytes.readSize, P (q.numBytes.memPtr + i) := by
  refine ⟨fun h q hq h0 i hi => h _ ⟨q, hq, h0, Nat.le_add_right _ _, by omega⟩,
    fun h x ⟨q, hq, h0, hlo, hhi⟩ => ?_⟩
  have := h q hq h0 (x - q.numBytes.memPtr) (by omega)
  rwa [Nat.add_sub_cancel' hlo] at this

/-- `t'` agrees with `t` on all that `eval_param_size` reads for the
parameters `ps`: the task, the syscall result and the size cells. -/
structure SizesAgree (ps : List MemoryParam) (t t' : Tracee) : Prop where
  tuid : t'.tuid = t.tuid
  result : t'.regs.syscallResult = t.regs.syscallResult
  cells : ∀ x, InSizeCell ps x → t'.mem x = t.mem x

theorem SizesAgree.refl (ps : List MemoryParam) (t : Tracee) : SizesAgree ps t t :=
  ⟨rfl, rfl, fun _ _ => rfl⟩

/-- A write outside the size cells keeps the agreement. -/
theorem SizesAgree.writeMem {ps : List MemoryParam} {t₀ : Tracee} {a : Nat} {buf : List UInt8}
    (h : SizesAgree ps t₀ t) (ha : ∀ x, InSizeCell ps x → ¬ (a ≤ x ∧ x < a + buf.length)) :
    SizesAgree ps t₀ (t.writeMem a buf) :=
  ⟨h.tuid, h.result, fun x hx => (writeMem_of_not_mem (ha x hx)).trans (h.cells x hx)⟩

namespace TaskSyscallState

variable {i : Nat} {sizes sizes' : List Nat} {data : List UInt8}

/-- `eval_param_size` gives the same size on tasks that agree on what it reads. -/
theorem evalParamSize_congr (h : SizesAgree st.paramList t t') (i : Nat) (sizes : List Nat) :
    st.evalParamSize t' i sizes = st.evalParamSize t i sizes := by
  unfold evalParamSize
  rw [h.tuid]
  split_ifs
  · rfl
  · rfl
  cases hp : st.paramList[i]? with
  | none => rfl
  | some p =>
    dsimp only
    rw [ParamSize.eval_congr
      (fun h0 x hlo hhi => h.cells x ⟨p, List.getElem?_mem hp, h0, hlo, hhi⟩) h.result]

theorem evalParamSizes_congr (h : SizesAgree st.paramList t t') :
    ∀ n, st.evalParamSizes t' n = st.evalParamSizes t n
  | 0 => rfl
  | n + 1 => by simp only [evalParamSizes, evalParamSizes_congr h n, evalParamSize_congr h]

/-- One more call of `eval_param_size` extends the sizes. -/
theorem evalParamSizes_succ {n : Nat} {t₀ : Tracee} (hs : st.evalParamSizes t₀ i = .ok sizes)
    (he : st.evalParamSize t₀ i sizes = .ok (sizes', n)) : st.evalParamSizes t₀ (i + 1) = .ok sizes' := by
  simp only [evalParamSizes, hs, Except.ok_bind, he]
  rfl

/-- **The sizes of step 1.** Step 1 evaluates each size on the task as the
copies before it left it. When no destination it copies back holds a byte of a
size cell, that task agrees with the one step 1 started from, and the sizes are
those `evalParamSizes` gives on it. -/
theorem writeBackFromScratch_sizes {qs : List MemoryParam} {t₀ : Tracee} (hq : st.paramList.drop i = qs)
    (hsz : ∀ q ∈ qs, st.CopiesBack q → ∀ x, InSizeCell st.paramList x →
      ¬ (q.dest ≤ x ∧ x < q.dest + q.numBytes.incomingSize))
    (hag : SizesAgree st.paramList t₀ t) (hs : st.evalParamSizes t₀ i = .ok sizes)
    (h : st.writeBackFromScratch data qs i t sizes = .ok (t', sizes')) :
    st.evalParamSizes t₀ (i + qs.length) = .ok sizes' := by
  induction qs generalizing i t sizes with
  | nil => cases h; exact hs
  | cons q qs ih =>
    obtain ⟨hqi, hqs⟩ := List.getElem?_of_drop_eq_cons hq
    obtain ⟨⟨sizes₁, n⟩, he, h⟩ := Except.bind_eq_ok.mp h
    obtain ⟨t₁, hw, h⟩ := Except.bind_eq_ok.mp h
    obtain ⟨-, q', hq', hn⟩ := evalParamSize_ok he
    rw [hqi, Option.some.injEq] at hq'
    subst hq'
    rw [evalParamSize_congr hag] at he
    -- the copy of `q` keeps the size cells
    have hag₁ : SizesAgree st.paramList t₀ t₁ := by
      obtain ⟨hcopy, hskip⟩ := writeBackParam_ok hw
      by_cases hc : st.CopiesBack q
      · obtain ⟨d, hd, rfl⟩ := hcopy hc
        have hl := length_of_scratchSlice hd
        exact hag.writeMem fun x hx hm =>
          hsz q (List.mem_cons_self _ _) hc x hx ⟨hm.1, by omega⟩
      · rw [hskip hc]; exact hag
    have := ih hqs (fun q' hq' => hsz q' (List.mem_cons_of_mem _ hq')) hag₁ (evalParamSizes_succ hs he) h
    rwa [List.length_cons, ← Nat.add_assoc, Nat.add_right_comm]

/-- Step 2 of the scratch-disabled branch evaluates every size on one task:
its sizes are those `evalParamSizes` gives on it. -/
theorem recordRemoteOutputs_sizes {qs : List MemoryParam} {recs : List MemRecord}
    (hq : st.paramList.drop i = qs) (hs : st.evalParamSizes t i = .ok sizes)
    (h : st.recordRemoteOutputs t qs i sizes = .ok (sizes', recs)) :
    st.evalParamSizes t (i + qs.length) = .ok sizes' := by
  induction qs generalizing i sizes sizes' recs with
  | nil => cases h; exact hs
  | cons q qs ih =>
    obtain ⟨-, hqs⟩ := List.getElem?_of_drop_eq_cons hq
    obtain ⟨⟨sizes₁, n⟩, he, h⟩ := Except.bind_eq_ok.mp h
    obtain ⟨⟨sizes₂, recs₂⟩, hr, h⟩ := Except.bind_eq_ok.mp h
    cases h
    have := ih hqs (evalParamSizes_succ hs he) hr
    rwa [List.length_cons, ← Nat.add_assoc, Nat.add_right_comm]

end TaskSyscallState

/-! ## Restoring pointers -/

variable {r : Registers} {cleaned : Bool}

theorem restorePointers_cleaned : ∀ (ps : List MemoryParam) (r : Registers) (t : Tracee) (c : Bool),
    (restorePointers ps r t c).2.2 = (c || ps.any fun q => q.ptrInMemory != 0)
  | [], _, _, c => by simp [restorePointers]
  | q :: ps, r, t, c => by
    by_cases hq : q.ptrInMemory = 0 <;>
      simp [restorePointers, hq, restorePointers_cleaned ps]

/-- When no pointer in memory was restored, the task is untouched. -/
theorem restorePointers_task_of_not_cleaned : ∀ {ps : List MemoryParam} {r r' : Registers}
    {t t' : Tracee}, restorePointers ps r t false = (r', t', false) → t' = t
  | [], _, _, _, _, h => by cases h; rfl
  | q :: ps, r, r', t, t', h => by
    by_cases hq : q.ptrInMemory = 0
    · simp only [restorePointers, hq, ne_eq, not_true_eq_false, if_false] at h
      exact restorePointers_task_of_not_cleaned h
    · have := congrArg (fun x => x.2.2) h
      simp [restorePointers, hq, restorePointers_cleaned] at this

/-! ## Records -/

theorem recordOutput_ok {data : List UInt8} {base size : Nat} {p : MemoryParam} {out : List MemRecord}
    (h : recordOutput data base cleaned t p size = .ok out)
    (hlocal : cleaned = true ∨ ((p.mode = .InOut ∨ p.mode = .Out) →
      ∀ d, scratchSlice data base p size = .ok d → d = readMem t.mem p.dest size)) :
    out = if p.mode != .In then [recordRemote t p.dest size] else [] := by
  unfold recordOutput at h
  split at h
  · next hm => cases h; simp [hm]
  · next hm =>
    split at h
    · next hio =>
      have hin : (p.mode != .In) = true := by rcases hio with h' | h' <;> simp [h']
      rw [if_pos hin]
      split at h
      · cases h; rfl
      · next hc =>
        cases hs : scratchSlice data base p size <;> simp only [hs, Except.map] at h
        · cases h
        · cases h
          rw [(hlocal.resolve_left (by simpa using hc)) hio _ hs]; rfl
    · next hio =>
      cases h
      have : p.mode = .In := by
        cases hp : p.mode <;> simp_all
      simp [this]

theorem recordScratchOutputs_ok {data : List UInt8} {base : Nat} {recs : List MemRecord} :
    ∀ {pairs : List (MemoryParam × Nat)}, recordScratchOutputs data base cleaned t pairs = .ok recs →
      (cleaned = true ∨ ∀ e ∈ pairs, (e.1.mode = .InOut ∨ e.1.mode = .Out) →
        ∀ d, scratchSlice data base e.1 e.2 = .ok d → d = readMem t.mem e.1.dest e.2) →
      recs = (pairs.filter fun e => e.1.mode != .In).map fun e => recordRemote t e.1.dest e.2
  | [], h, _ => by cases h; rfl
  | (p, size) :: rest, h, hlocal => by
    obtain ⟨out, ho, h⟩ := Except.bind_eq_ok.mp h
    obtain ⟨recs', hr, h⟩ := Except.bind_eq_ok.mp h
    cases h
    rw [recordOutput_ok ho (hlocal.imp_right fun hl => hl _ (List.mem_cons_self _ _)),
      recordScratchOutputs_ok hr (hlocal.imp_right fun hl e he => hl e (List.mem_cons_of_mem _ he))]
    by_cases hin : p.mode = .In <;> simp [hin, List.filter_cons]

/-! ## What is recorded -/

namespace TaskSyscallState

variable {tm : Tracee} {recs : List MemRecord}

/-- What the scratch branch computes: the snapshot of `[t.scratch_ptr, scratch)`,
step 1 on it, the pointers and registers restored, then the records. -/
theorem processScratchResults_ok (h : st.processScratchResults t = .ok (tm, recs)) :
    ∃ n t₁ sizes, usizeSub st.scratch t.scratchPtr = .ok n ∧
      st.writeBackFromScratch (readMem t.mem t.scratchPtr n) st.paramList 0 t [] = .ok (t₁, sizes) ∧
      tm = (restorePointers st.paramList t.regs t₁ false).2.1.setRegs
        (restorePointers st.paramList t.regs t₁ false).1 ∧
      (if st.writeBack = .WriteBack then
        recordScratchOutputs (readMem t.mem t.scratchPtr n) t.scratchPtr
          (restorePointers st.paramList t.regs t₁ false).2.2
          (restorePointers st.paramList t.regs t₁ false).2.1 (st.paramList.zip sizes)
      else .ok []) = .ok recs := by
  obtain ⟨n, hn, h⟩ := Except.bind_eq_ok.mp h
  obtain ⟨⟨t₁, sizes⟩, hw, h⟩ := Except.bind_eq_ok.mp h
  refine ⟨n, t₁, sizes, hn, hw, ?_⟩
  rcases hrp : restorePointers st.paramList t.regs t₁ false with ⟨r, t₂, cleaned⟩
  simp only [hrp] at h ⊢
  split at h <;>
  · cases hrec : recordScratchOutputs (readMem t.mem t.scratchPtr n) t.scratchPtr cleaned t₂
      (st.paramList.zip sizes) <;> simp_all [Except.map]

/-- The scratch branch records every parameter but the `In` ones from the task
it leaves. When no destination it copies back holds a byte of a size cell, the
sizes are those `evalParamSizes` gives on the task it started from. -/
theorem processScratchResults_records (hdisj : DestsDisjoint st.paramList)
    (hsz : ∀ q ∈ st.paramList, st.CopiesBack q → ∀ x, InSizeCell st.paramList x →
      ¬ (q.dest ≤ x ∧ x < q.dest + q.numBytes.incomingSize))
    (h : st.processScratchResults t = .ok (tm, recs)) :
    ∃ sizes, st.evalParamSizes t st.paramList.length = .ok sizes ∧
      recs = if st.writeBack = .WriteBack then
        ((st.paramList.zip sizes).filter fun e => e.1.mode != .In).map
          fun e => recordRemote tm e.1.dest e.2
      else [] := by
  obtain ⟨n, t₁, sizes, -, hw, rfl, hrec⟩ := processScratchResults_ok h
  have hsizes := writeBackFromScratch_sizes (List.drop_zero _) hsz (SizesAgree.refl _ _) rfl hw
  obtain ⟨news, hs, -, -, hall⟩ := writeBackFromScratch_ok hdisj (List.drop_zero _) hw
  rw [List.nil_append] at hs
  subst sizes
  refine ⟨news, by rwa [Nat.zero_add] at hsizes, ?_⟩
  rcases hrp : restorePointers st.paramList t.regs t₁ false with ⟨r, t₂, cleaned⟩
  simp only [hrp] at hrec ⊢
  split at hrec
  · next hwb =>
    rw [if_pos hwb]
    refine (recordScratchOutputs_ok hrec ?_).trans rfl
    cases hc : cleaned
    · -- no pointer in memory was restored: the snapshot slices are what the task holds
      obtain rfl := restorePointers_task_of_not_cleaned (hc ▸ hrp)
      refine .inr fun e he hio d hd => ?_
      obtain ⟨d', hd', hm⟩ := (List.forall₂_zip hall he).2 ⟨hwb, hio⟩
      rw [hd, Except.ok.injEq] at hd'
      rw [hd', hm]
    · exact .inl rfl
  · next hwb => cases hrec; rw [if_neg hwb]

/-- The scratch-disabled branch empties `saved_data` and records every
parameter from the task it leaves, with the sizes `evalParamSizes` gives on
that task. -/
theorem processDirectResults_records {saved : List UInt8}
    (h : st.processDirectResults t = .ok (saved, tm, recs)) :
    restoreMutatedMemory st.paramList t st.savedData = .ok (tm, []) ∧ saved = [] ∧
      ∃ sizes, st.evalParamSizes tm st.paramList.length = .ok sizes ∧
        recs = (st.paramList.zip sizes).map fun e => recordRemote tm e.1.dest e.2 := by
  obtain ⟨⟨t₁, saved₁⟩, hr, h⟩ := Except.bind_eq_ok.mp h
  by_cases hs : saved₁ = []
  · subst hs
    cases hrec : st.recordRemoteOutputs t₁ st.paramList 0 [] <;>
      simp only [hrec, ne_eq, not_true_eq_false, if_false, Except.map] at h
    · cases h
    · cases h
      have hsizes := recordRemoteOutputs_sizes (List.drop_zero _) rfl hrec
      obtain ⟨news, hn, -, hrecs⟩ := recordRemoteOutputs_ok (List.drop_zero _) hrec
      rw [List.nil_append] at hn
      subst hn
      exact ⟨hr, rfl, _, by rwa [Nat.zero_add] at hsizes, hrecs⟩
  · simp [hs] at h

variable {st'' : TaskSyscallState} {t'' : Tracee}

/-- `abort_syscall_results` without scratch restores the mutated memory. -/
theorem abortSyscallResults_direct {saved : List UInt8} (htu : st.tuid = t.tuid)
    (hpd : st.preparationDone = true) (he : st.scratchEnabled = false)
    (hr : restoreMutatedMemory st.paramList t st.savedData = .ok (t', saved)) :
    st.abortSyscallResults t = .ok ({ st with savedData := saved }, t') := by
  simp [abortSyscallResults, htu, hpd, he, hr]

/-- Without scratch, once the mutated memory is restored with all of
`saved_data` used, the only way `process_syscall_results` can fail is in the
actual sizes. -/
theorem processSyscallResults_direct (htu : st.tuid = t.tuid) (hpd : st.preparationDone = true)
    (he : st.scratchEnabled = false) (hr : restoreMutatedMemory st.paramList t st.savedData = .ok (t', [])) :
    st.processSyscallResults t = (st.recordRemoteOutputs t' st.paramList 0 []).map
      fun r => ({ st with savedData := [] }, st.finishResults t', r.2) := by
  have hd : st.processDirectResults t =
      (st.recordRemoteOutputs t' st.paramList 0 []).map fun r => ([], t', r.2) := by
    simp [processDirectResults, hr, bind, Except.bind]
  simp only [processSyscallResults, htu, hpd, he, hd, ne_eq, not_true_eq_false, if_false,
    Bool.not_true, Bool.false_eq_true]
  cases st.recordRemoteOutputs t' st.paramList 0 [] <;> rfl

theorem processSyscallResults_scratch (he : st.scratchEnabled = true)
    (h : st.processSyscallResults t = .ok (st'', t'', recs)) :
    st'' = st ∧ ∃ tm, st.processScratchResults t = .ok (tm, recs) ∧ t'' = st.finishResults tm := by
  unfold processSyscallResults at h
  split_ifs at h
  split at h
  · cases h
  · next tm recs' hp => cases h; exact ⟨rfl, tm, hp, rfl⟩

theorem processSyscallResults_of_direct (he : st.scratchEnabled = false)
    (h : st.processSyscallResults t = .ok (st'', t'', recs)) :
    ∃ saved tm, st.processDirectResults t = .ok (saved, tm, recs) ∧ t'' = st.finishResults tm := by
  unfold processSyscallResults at h
  simp only [he, Bool.false_eq_true, ite_false] at h
  split_ifs at h
  rcases hp : st.processDirectResults t with _ | ⟨saved, tm, recs'⟩ <;> rw [hp] at h
  · cases h
  · cases h; exact ⟨saved, tm, rfl, rfl⟩

end TaskSyscallState

end RdCore.Syscall
