import RdCore.Syscall.Results

/-!
# RdCore — actual sizes of parameters that share a dynamic size

A memory parameter's size is a `ParamSize`: an incoming size known before the
syscall, and possibly a source of the final size, the word at `mem_ptr` or the
syscall result, read as a `T` of `read_size` bytes. When several parameters
take their size from one source (`is_same_source`), `eval_param_size` hands
the source out in registration order: each parameter gets its incoming size,
lowered to what the parameters before it left of the source. This is how one
byte count returned by the kernel is spread over the buffers of an iovec.

The constructors of `ParamSize` never give a size two sources, so
`is_same_source` is transitive on the sizes they build and two sizes of one
source read one value. `from_mem` and `from_syscall_result` start from
`ParamSize::default()`, whose incoming size is 0, and `eval` takes the minimum
with the incoming size whether or not one was given: such a parameter gets
size 0 whatever its source holds, where the doc comment of `ParamSize` says
that "the minimum of the incoming and final sizes is used, if both are
present".

Main results:

* `ParamSize.Built.memPtr_eq_zero_or` — a constructed size has at most one
  source; `ParamSize.isSameSource_trans` and
  `ParamSize.sourceSize_eq_of_isSameSource` follow;
* `ParamSize.fromMem_eval_ignores_final_size` — a `from_mem` size evaluates to
  0 whatever the word at its pointer holds;
* `TaskSyscallState.evalParamSizes_greedy` — `eval_param_size` called for each
  parameter in turn never fails when every source is 4 or 8 bytes wide; each
  actual size is the incoming size lowered to what is left of the source, and
  the sizes taken from one source add up to at most its value;
* `TaskSyscallState.evalParamSizes_unknown_read_size` — a source of another
  width fails the `Unknown read_size` assertion.
-/

namespace RdCore.Syscall

namespace ParamSize

/-- The final size comes from a source: the word at `mem_ptr`, or the
syscall result. -/
def HasSource (ps : ParamSize) : Prop := ps.memPtr ≠ 0 ∨ ps.fromSyscall = true

instance (ps : ParamSize) : Decidable ps.HasSource := inferInstanceAs (Decidable (_ ∨ _))

/-- The value of the source: the word at `mem_ptr` when there is one, the
syscall result otherwise. -/
def sourceSize (ps : ParamSize) (t : Tracee) : Except String Nat :=
  if ps.memPtr ≠ 0 then ps.memSize t else ps.syscallSize t

/-- `ps` is built by one of the constructors of `ParamSize`, for a `T` of any
size, then capped any number of times by `limit_size`. -/
inductive Built : ParamSize → Prop
  | ofSize (siz : Nat) : Built (ofSize siz)
  | fromInitializedMem {t : Tracee} {p sizeOfT : Nat} {ps : ParamSize} :
      fromInitializedMem t p sizeOfT = .ok ps → Built ps
  | fromMem (p sizeOfT : Nat) : Built (fromMem p sizeOfT)
  | fromSyscallResult (sizeOfT : Nat) : Built (fromSyscallResult sizeOfT)
  | fromSyscallResultWithSize (sizeOfT incomingSize : Nat) :
      Built (fromSyscallResultWithSize sizeOfT incomingSize)
  | limitSize {ps : ParamSize} (h : Built ps) (max : Nat) : Built (ps.limitSize max)

variable {a b c ps : ParamSize} {t : Tracee} {k d : Nat}

theorem fromInitializedMem_fromSyscall {p sizeOfT : Nat} (h : fromInitializedMem t p sizeOfT = .ok ps) :
    ps.fromSyscall = false := by
  unfold fromInitializedMem at h
  obtain ⟨_, -, h⟩ := Except.bind_eq_ok.mp h
  cases h
  rfl

/-- **A constructed size has at most one source.** -/
theorem Built.memPtr_eq_zero_or (h : ps.Built) : ps.memPtr = 0 ∨ ps.fromSyscall = false := by
  induction h with
  | ofSize => exact .inl rfl
  | fromInitializedMem h => exact .inr (fromInitializedMem_fromSyscall h)
  | fromMem => exact .inr rfl
  | fromSyscallResult => exact .inl rfl
  | fromSyscallResultWithSize => exact .inl rfl
  | limitSize _ _ ih => exact ih

theorem isSameSource_iff : a.isSameSource b = true ↔
    ((a.memPtr ≠ 0 ∧ b.memPtr = a.memPtr) ∨ (a.fromSyscall = true ∧ b.fromSyscall = true)) ∧
      a.readSize = b.readSize := by
  simp [isSameSource]

theorem isSameSource_comm (a b : ParamSize) : a.isSameSource b = b.isSameSource a := by
  refine Bool.eq_iff_iff.mpr ?_
  simp only [isSameSource_iff]
  constructor <;> rintro ⟨h | h, hr⟩ <;> refine ⟨?_, hr.symm⟩
  all_goals first | exact .inr ⟨h.2, h.1⟩ | exact .inl ⟨h.2 ▸ h.1, h.2.symm⟩

/-- `is_same_source` is transitive through a constructed size. -/
theorem isSameSource_trans (hb : b.Built) (hab : a.isSameSource b = true) (hbc : b.isSameSource c = true) :
    a.isSameSource c = true := by
  rw [isSameSource_iff] at *
  obtain ⟨hab | hab, hr₁⟩ := hab <;> obtain ⟨hbc | hbc, hr₂⟩ := hbc <;> refine ⟨?_, hr₁.trans hr₂⟩
  · exact .inl ⟨hab.1, hbc.2.trans hab.2⟩
  · rcases hb.memPtr_eq_zero_or with h | h
    · exact absurd (hab.2.symm.trans h) hab.1
    · simp [h] at hbc
  · rcases hb.memPtr_eq_zero_or with h | h
    · exact absurd h hbc.1
    · simp [h] at hab
  · exact .inr ⟨hab.1, hbc.2⟩

theorem HasSource.of_isSameSource (h : a.isSameSource b = true) : a.HasSource := by
  rw [isSameSource_iff] at h
  rcases h.1 with h | h
  · exact .inl h.1
  · exact .inr h.1

/-- Constructed sizes of one source read one value. -/
theorem sourceSize_eq_of_isSameSource (ha : a.Built) (hb : b.Built) (h : a.isSameSource b = true) :
    a.sourceSize t = b.sourceSize t := by
  rw [isSameSource_iff] at h
  obtain ⟨hm | ⟨hfa, hfb⟩, hr⟩ := h
  · unfold sourceSize memSize
    rw [if_pos hm.1, if_pos (hm.2 ▸ hm.1), hm.2, hr]
  · have ha0 := ha.memPtr_eq_zero_or.resolve_right (by simp [hfa])
    have hb0 := hb.memPtr_eq_zero_or.resolve_right (by simp [hfb])
    simp only [sourceSize, ha0, hb0, ne_eq, not_true_eq_false, if_false, syscallSize, hr]

/-- A source 4 or 8 bytes wide can be read. -/
theorem sourceSize_ok (hr : ps.readSize = 4 ∨ ps.readSize = 8) : ∃ d, ps.sourceSize t = .ok d := by
  unfold sourceSize memSize syscallSize
  rcases hr with hr | hr <;> split_ifs <;> simp [hr]

/-! ## `eval` -/

theorem eval_of_not_hasSource (h : ¬ ps.HasSource) (c : Nat) : ps.eval t c = .ok ps.incomingSize := by
  simp only [HasSource, not_or, ne_eq, not_not, Bool.not_eq_true] at h
  simp only [eval, limitBy, h.1, h.2, bne_self_eq_false, Bool.false_eq_true, ite_false, Except.ok_bind]

/-- With a source, `eval` lowers the incoming size to what is left of it. -/
theorem eval_of_sourceSize (hb : ps.Built) (hs : ps.HasSource) (hd : ps.sourceSize t = .ok d) (hc : k ≤ d) :
    ps.eval t k = .ok (min ps.incomingSize (d - k)) := by
  unfold sourceSize at hd
  by_cases hm : ps.memPtr = 0
  · have hf : ps.fromSyscall = true := hs.resolve_left (not_not.mpr hm)
    rw [if_neg (not_not.mpr hm)] at hd
    simp only [eval, limitBy, hm, bne_self_eq_false, Bool.false_eq_true, ite_false, Except.ok_bind, hf,
      ite_true, hd, if_pos hc]
  · have hf := hb.memPtr_eq_zero_or.resolve_left hm
    rw [if_pos hm] at hd
    simp only [eval, limitBy, bne_iff_ne, ne_eq, hm, not_false_eq_true, ite_true, hd, if_pos hc,
      Except.ok_bind, hf, Bool.false_eq_true, ite_false]

/-- **A `from_mem` size evaluates to 0**: its incoming size is that of
`ParamSize::default()`, and the word at its pointer only lowers it. -/
theorem fromMem_eval_ignores_final_size (t : Tracee) (k : Nat) :
    (fromMem 0x1000 4).eval t k =
      if k ≤ wordValue (readMem t.mem 0x1000 4) then .ok 0
      else .error "assertion failed: already_consumed <= mem_size" := by
  by_cases hk : k ≤ wordValue (readMem t.mem 0x1000 4)
  · rw [if_pos hk, eval_of_sourceSize (d := wordValue (readMem t.mem 0x1000 4)) (.fromMem 0x1000 4)
      (.inl (by decide)) (by rfl) hk]
    exact congrArg Except.ok (Nat.zero_min _)
  · rw [if_neg hk]
    simp only [eval, limitBy, fromMem, ParamSize.default, memSize,
      show ((0x1000 : Nat) != 0) = true from rfl, ite_true, if_neg hk]
    rfl

end ParamSize

/-! ## `eval_param_size` over the parameter list -/

namespace TaskSyscallState

/-- What the parameters `ps`, of actual sizes `sizes`, took of the source of
`x`: the sum `eval_param_size` calls `already_consumed`. -/
def alreadyConsumed (ps : List MemoryParam) (sizes : List Nat) (x : ParamSize) : Nat :=
  (ps.zip sizes).foldl (fun acc e => if e.1.numBytes.isSameSource x then acc + e.2 else acc) 0

/-- The actual size `size` of a parameter of size `ps`, when the parameters
before it took `consumed` of its source: with a source, after
`already_consumed <= size` holds, the incoming size lowered to what is left of
the source; without one, the incoming size. -/
def GreedySize (t : Tracee) (ps : ParamSize) (consumed size : Nat) : Prop :=
  if ps.HasSource then ∃ d, ps.sourceSize t = .ok d ∧ consumed ≤ d ∧ size = min ps.incomingSize (d - consumed)
  else size = ps.incomingSize

variable {st : TaskSyscallState} {t : Tracee} {ps : List MemoryParam} {sizes : List Nat}
  {x y : ParamSize} {n : Nat}

theorem alreadyConsumed_snoc (hl : ps.length = sizes.length) (q : MemoryParam) (s : Nat) :
    alreadyConsumed (ps ++ [q]) (sizes ++ [s]) x =
      alreadyConsumed ps sizes x + if q.numBytes.isSameSource x then s else 0 := by
  simp only [alreadyConsumed, List.zip_append hl, List.zip_cons_cons, List.zip_nil_left, List.foldl_append,
    List.foldl_cons, List.foldl_nil]
  split_ifs <;> rfl

/-- The parameters that share the source of `y` are those sharing the source of
`x`, when `x` and `y` share one. -/
theorem alreadyConsumed_eq_of_isSameSource (hps : ∀ q ∈ ps, q.numBytes.Built) (hx : x.Built)
    (hy : y.Built) (h : y.isSameSource x = true) :
    alreadyConsumed ps sizes x = alreadyConsumed ps sizes y := by
  unfold alreadyConsumed
  refine List.foldl_ext _ _ _ fun acc e he => ?_
  have hq := hps e.1 (List.of_mem_zip he).1
  have hxy : e.1.numBytes.isSameSource x = e.1.numBytes.isSameSource y := by
    refine Bool.eq_iff_iff.mpr ⟨fun h' => ?_, fun h' => ParamSize.isSameSource_trans hy h' h⟩
    exact ParamSize.isSameSource_trans hx h' (by rw [ParamSize.isSameSource_comm]; exact h)
  rw [hxy]

theorem evalParamSize_of_eval {p : MemoryParam} {s : Nat} (htuid : st.tuid = t.tuid) (hlen : sizes.length = n)
    (hp : st.paramList[n]? = some p)
    (he : p.numBytes.eval t (alreadyConsumed (st.paramList.take n) sizes p.numBytes) = .ok s) :
    st.evalParamSize t n sizes = .ok (sizes ++ [s], s) := by
  simp only [evalParamSize, hlen, htuid, ne_eq, not_true_eq_false, if_false, hp]
  exact congrArg (· >>= _) he

/-- **One call of `eval_param_size`.** A constructed size whose source, if
any, is 4 or 8 bytes wide and not yet used up by the parameters before it
gets its greedy size. -/
theorem evalParamSize_greedy {p : MemoryParam} (htuid : st.tuid = t.tuid) (hlen : sizes.length = n)
    (hp : st.paramList[n]? = some p) (hb : p.numBytes.Built)
    (hw : p.numBytes.HasSource → p.numBytes.readSize = 4 ∨ p.numBytes.readSize = 8)
    (hc : ∀ d, p.numBytes.sourceSize t = .ok d → alreadyConsumed (st.paramList.take n) sizes p.numBytes ≤ d) :
    ∃ s, st.evalParamSize t n sizes = .ok (sizes ++ [s], s) ∧ s ≤ p.numBytes.incomingSize ∧
      GreedySize t p.numBytes (alreadyConsumed (st.paramList.take n) sizes p.numBytes) s := by
  by_cases hs : p.numBytes.HasSource
  · obtain ⟨d, hd⟩ := ParamSize.sourceSize_ok (t := t) (hw hs)
    have he := ParamSize.eval_of_sourceSize hb hs hd (hc d hd)
    refine ⟨_, evalParamSize_of_eval htuid hlen hp he, ParamSize.eval_le he, ?_⟩
    rw [GreedySize, if_pos hs]
    exact ⟨d, hd, hc d hd, rfl⟩
  · have he := ParamSize.eval_of_not_hasSource (t := t) hs (alreadyConsumed (st.paramList.take n) sizes p.numBytes)
    refine ⟨_, evalParamSize_of_eval htuid hlen hp he, Nat.le_refl _, ?_⟩
    rw [GreedySize, if_neg hs]

/-- A greedy size keeps what the parameters of one source took within its
value. -/
theorem alreadyConsumed_snoc_le {p : MemoryParam} {s d : Nat} (hl : ps.length = sizes.length)
    (hps : ∀ q ∈ ps, q.numBytes.Built) (hp : p.numBytes.Built) (hx : x.Built)
    (hg : GreedySize t p.numBytes (alreadyConsumed ps sizes p.numBytes) s)
    (hd : x.sourceSize t = .ok d) (hle : alreadyConsumed ps sizes x ≤ d) :
    alreadyConsumed (ps ++ [p]) (sizes ++ [s]) x ≤ d := by
  rw [alreadyConsumed_snoc hl]
  split_ifs with hsame
  · have hsrc := ParamSize.HasSource.of_isSameSource hsame
    rw [GreedySize, if_pos hsrc] at hg
    obtain ⟨d', hd', hc, rfl⟩ := hg
    rw [ParamSize.sourceSize_eq_of_isSameSource hp hx hsame, hd] at hd'
    cases hd'
    rw [alreadyConsumed_eq_of_isSameSource hps hx hp hsame]
    omega
  · omega

/-- **Calling `eval_param_size` for the parameters in turn.** When every
parameter size is built by the constructors of `ParamSize` and every source
is a 4- or 8-byte value, the calls for `0, 1, …, n - 1` succeed. Each actual
size is at most the incoming size and is the incoming size lowered to what the
parameters before it left of its source, after `already_consumed <= size`
held; and the parameters sharing one source take at most its value. -/
theorem evalParamSizes_greedy (st : TaskSyscallState) (t : Tracee) (n : Nat) (htuid : st.tuid = t.tuid)
    (hn : n ≤ st.paramList.length) (hbuilt : ∀ p ∈ st.paramList, p.numBytes.Built)
    (hwidth : ∀ p ∈ st.paramList, p.numBytes.HasSource → p.numBytes.readSize = 4 ∨ p.numBytes.readSize = 8) :
    ∃ sizes, st.evalParamSizes t n = .ok sizes ∧ sizes.length = n ∧
      (∀ i p size, st.paramList[i]? = some p → sizes[i]? = some size →
        size ≤ p.numBytes.incomingSize ∧
          GreedySize t p.numBytes (alreadyConsumed (st.paramList.take i) (sizes.take i) p.numBytes) size) ∧
      ∀ p ∈ st.paramList, ∀ d, p.numBytes.sourceSize t = .ok d →
        alreadyConsumed (st.paramList.take n) sizes p.numBytes ≤ d := by
  induction n with
  | zero => exact ⟨[], rfl, rfl, fun i p size _ h => by simp at h, fun _ _ _ _ => by simp [alreadyConsumed]⟩
  | succ n ih =>
    obtain ⟨sizes, hrun, hlen, hsizes, hsum⟩ := ih (by omega)
    have hlt : n < st.paramList.length := by omega
    obtain ⟨p, hp, hpmem⟩ : ∃ p, st.paramList[n]? = some p ∧ p ∈ st.paramList :=
      ⟨_, List.getElem?_eq_getElem hlt, List.getElem_mem hlt⟩
    have htake : st.paramList.take (n + 1) = st.paramList.take n ++ [p] := by
      rw [List.take_succ, hp]; rfl
    have htakelen : (st.paramList.take n).length = sizes.length := by simp [hlen]; omega
    have htakebuilt : ∀ q ∈ st.paramList.take n, q.numBytes.Built :=
      fun q hq => hbuilt q (List.mem_of_mem_take hq)
    obtain ⟨s, hstep, hsle, hg⟩ := evalParamSize_greedy htuid hlen hp (hbuilt p hpmem) (hwidth p hpmem)
      (hsum p hpmem)
    refine ⟨sizes ++ [s], by simp only [evalParamSizes, hrun, Except.ok_bind, hstep]; rfl, by simp [hlen],
      fun i q size hq hsize => ?_, fun q hq d hd => ?_⟩
    · -- the parameters before `n` keep their sizes, and parameter `n` gets `s`
      rcases Nat.lt_or_ge i n with hi | hi
      · rw [List.getElem?_append_left (by omega)] at hsize
        rw [List.take_append_of_le_length (by omega)]
        exact hsizes i q size hq hsize
      · have hin : i = n := by
          have := (List.getElem?_eq_some_iff.mp hsize).1
          simp at this; omega
        subst hin
        rw [List.getElem?_append_right (by omega), hlen, Nat.sub_self] at hsize
        cases hsize
        rw [hp] at hq; cases hq
        rw [List.take_left' hlen]
        exact ⟨hsle, hg⟩
    · rw [htake]
      exact alreadyConsumed_snoc_le htakelen htakebuilt (hbuilt p hpmem) (hbuilt q hq) hg hd (hsum q hq d hd)

/-- Two buffers of 10 bytes that share a syscall result of 15: the first gets
10 bytes, the second the 5 left. -/
example : ({ TaskSyscallState.new 1 with
      paramList := [{ MemoryParam.default with numBytes := .fromSyscallResultWithSize 8 10 },
        { MemoryParam.default with numBytes := .fromSyscallResultWithSize 8 10 }] }).evalParamSizes
    ⟨1, .x64, fun _ => 0, ⟨fun _ => 0, 15⟩, 0, 0⟩ 2 = .ok [10, 5] := rfl

theorem evalParamSizes_greedy_iovec :
    ∃ (st : TaskSyscallState) (t : Tracee) (n : Nat), st.tuid = t.tuid ∧ n ≤ st.paramList.length ∧
      (∀ p ∈ st.paramList, p.numBytes.Built) ∧
      (∀ p ∈ st.paramList, p.numBytes.HasSource → p.numBytes.readSize = 4 ∨ p.numBytes.readSize = 8) ∧
      ∃ sizes, st.evalParamSizes t n = .ok sizes ∧ sizes.length = n ∧
        (∀ i p size, st.paramList[i]? = some p → sizes[i]? = some size →
          size ≤ p.numBytes.incomingSize ∧
            GreedySize t p.numBytes (alreadyConsumed (st.paramList.take i) (sizes.take i) p.numBytes) size) ∧
        ∀ p ∈ st.paramList, ∀ d, p.numBytes.sourceSize t = .ok d →
          alreadyConsumed (st.paramList.take n) sizes p.numBytes ≤ d :=
  let p : MemoryParam := { MemoryParam.default with numBytes := .fromSyscallResultWithSize 8 10 }
  let st : TaskSyscallState := { TaskSyscallState.new 1 with paramList := [p, p] }
  let t : Tracee := ⟨1, .x64, fun _ => 0, ⟨fun _ => 0, 15⟩, 0, 0⟩
  have hp : ∀ q ∈ st.paramList, q = p := by simp [st]
  have hb : ∀ q ∈ st.paramList, q.numBytes.Built := fun q hq => by
    rw [hp q hq]; exact .fromSyscallResultWithSize 8 10
  have hw : ∀ q ∈ st.paramList, q.numBytes.HasSource → q.numBytes.readSize = 4 ∨ q.numBytes.readSize = 8 :=
    fun q hq _ => by rw [hp q hq]; exact .inr rfl
  ⟨st, t, 2, rfl, Nat.le_refl _, hb, hw, evalParamSizes_greedy st t 2 rfl (Nat.le_refl _) hb hw⟩

/-- A parameter whose size comes from a syscall result of a `T` of 2 bytes
fails the `Unknown read_size` assertion of `eval`. -/
theorem evalParamSizes_unknown_read_size :
    ∃ (st : TaskSyscallState) (t : Tracee), (∀ p ∈ st.paramList, p.numBytes.Built) ∧ st.tuid = t.tuid ∧
      st.evalParamSizes t 1 = .error "Unknown read_size" :=
  ⟨{ TaskSyscallState.new 1 with paramList := [{ MemoryParam.default with numBytes := .fromSyscallResult 2 }] },
    ⟨1, .x64, fun _ => 0, ⟨fun _ => 0, 0⟩, 0, 0⟩,
    by simpa using ParamSize.Built.fromSyscallResult 2, rfl, rfl⟩

end TaskSyscallState

end RdCore.Syscall
