import RdCore.Seccomp.Bpf

/-!
# RdCore — the seccomp filter rewriter

`SeccompFilterRewriter` (`seccomp_filter_rewriter.rs`) turns every non-allow
verdict of a tracee's seccomp filter into `SECCOMP_RET_TRACE | data`, where
`data = BASE_CUSTOM_DATA + i` and `index_to_result[i]` is the original 32-bit
verdict, so that the recorder can recover the verdict when the kernel reports
the trace stop (`map_filter_data_to_real_result`). The rewriter is a state
machine: its two tables grow across every filter the tracee installs.

The model keeps the source's structure: `rewriteInstruction` is one iteration
of the rewrite loop of `install_patched_seccomp_filter_arch`, with its
assertions as errors; `rewriteProgram` is the loop. `result_to_index`, a
`HashMap<u32, u16>`, is modelled by its lookup function.

Main results:

* `Wf` — the table invariant: `result_to_index` is the inverse of
  `index_to_result`, `SECCOMP_RET_ALLOW` is never an entry, and
  `BASE_CUSTOM_DATA + len ≤ SECCOMP_RET_DATA`;
* `rewriteProgram_spec` — a successful rewrite keeps `Wf`, only appends to
  `index_to_result`, and its output is the input with every `RET` constant
  replaced through `rewriteK` of *any* later state (entries never move);
* `mapFilterDataToRealResult_traceData` — the 16-bit data of a rewritten
  constant maps back to the original verdict in every later state.
-/

namespace RdCore.Seccomp

/-! ## Machine words -/

theorem Nat.toUInt16_toNat (n : Nat) : n.toUInt16.toNat = n % UInt16.size := by
  simp [Nat.toUInt16, UInt16.ofNat, UInt16.toNat, BitVec.toNat_ofNat, UInt16.size]

@[simp] theorem UInt16.toNat_toUInt32 (a : UInt16) : a.toUInt32.toNat = a.toNat := rfl

theorem UInt32.toNat_toUInt16 (a : UInt32) : a.toUInt16.toNat = a.toNat % UInt16.size :=
  Nat.toUInt16_toNat _

theorem UInt32.toNat_or (a b : UInt32) : (a ||| b).toNat = a.toNat ||| b.toNat :=
  BitVec.toNat_or ..

theorem UInt32.lt_iff_toNat_lt (a b : UInt32) : a < b ↔ a.toNat < b.toNat := Iff.rfl

theorem List.mem_of_getElem?_eq_some {l : List α} {n : Nat} {a : α} (h : l[n]? = some a) :
    a ∈ l := by
  obtain ⟨hn, rfl⟩ := List.getElem?_eq_some_iff.mp h
  exact List.getElem_mem hn

theorem UInt32.toNat_add (a b : UInt32) : (a + b).toNat = (a.toNat + b.toNat) % UInt32.size := by
  simp [UInt32.add_def, UInt32.toNat, BitVec.toNat_add, UInt32.size]

/-! ## Verdict words (`linux/seccomp.h`) -/

/-- `SECCOMP_RET_ALLOW`. -/
def seccompRetAllow : UInt32 := 0x7fff0000

/-- `SECCOMP_RET_TRACE`. -/
def seccompRetTrace : UInt32 := 0x7ff00000

/-- `SECCOMP_RET_DATA`: the low 16 bits of a verdict. -/
def seccompRetData : UInt32 := 0x0000ffff

/-- `SECCOMP_RET_ACTION_FULL`: the high 16 bits of a verdict. -/
def seccompRetActionFull : UInt32 := 0xffff0000

/-- `BASE_CUSTOM_DATA`: the first data value the rewriter hands out. -/
def baseCustomData : UInt32 := 0x100

@[simp] theorem baseCustomData_toNat : baseCustomData.toNat = 0x100 := rfl

@[simp] theorem seccompRetData_toNat : seccompRetData.toNat = 0xffff := rfl

/-- The constant the rewriter writes for index `i`:
`(BASE_CUSTOM_DATA + i as u32) | SECCOMP_RET_TRACE`. -/
def traceData (i : UInt16) : UInt32 := (baseCustomData + i.toUInt32) ||| seccompRetTrace

/-- The trace constant as a number: the action in the high half, the data
`0x100 + i` in the low half (no carry while the data fits in 16 bits). -/
theorem traceData_toNat {i : UInt16} (hi : baseCustomData.toNat + i.toNat < 2 ^ 16) :
    (traceData i).toNat = 2 ^ 20 * 0x7ff + (0x100 + i.toNat) := by
  have hadd : (baseCustomData + i.toUInt32).toNat = 0x100 + i.toNat := by
    rw [UInt32.toNat_add, UInt16.toNat_toUInt32]
    exact Nat.mod_eq_of_lt (by simp [baseCustomData, UInt32.size] at hi ⊢; omega)
  rw [traceData, UInt32.toNat_or, hadd, Nat.mul_add_lt_is_or (by simp [baseCustomData] at hi ⊢; omega)]
  exact Nat.or_comm _ _

/-- A rewritten constant carries the data `BASE_CUSTOM_DATA + i`. -/
theorem traceData_data {i : UInt16} (hi : baseCustomData.toNat + i.toNat < 2 ^ 16) :
    (traceData i &&& seccompRetData).toNat = baseCustomData.toNat + i.toNat := by
  rw [UInt32.and_toNat, traceData_toNat hi,
    show seccompRetData.toNat = 2 ^ 16 - 1 from rfl, Nat.and_pow_two_sub_one_eq_mod]
  simp only [baseCustomData_toNat] at hi ⊢
  omega

/-- A rewritten constant has action `SECCOMP_RET_TRACE`. -/
theorem traceData_action {i : UInt16} (hi : baseCustomData.toNat + i.toNat < 2 ^ 16) :
    traceData i &&& seccompRetActionFull = seccompRetTrace := by
  apply UInt32.toNat.inj
  rw [UInt32.and_toNat, traceData_toNat hi]
  apply Nat.eq_of_testBit_eq
  intro j
  rw [baseCustomData_toNat] at hi
  have hlo : 0x100 + i.toNat < 2 ^ 20 := by omega
  have hmask : seccompRetActionFull.toNat = 2 ^ 16 * (2 ^ 16 - 1) + 0 := rfl
  have htrace : seccompRetTrace.toNat = 2 ^ 20 * 0x7ff + 0 := rfl
  rw [Nat.testBit_and, hmask, htrace, Nat.testBit_mul_pow_two_add _ hlo,
    Nat.testBit_mul_pow_two_add _ (Nat.two_pow_pos 16), Nat.testBit_mul_pow_two_add _ (Nat.two_pow_pos 20),
    Nat.testBit_two_pow_sub_one]
  have two_pos : (2 : Nat) > 0 := by decide
  by_cases h16 : j < 16
  · simp [h16, show j < 20 by omega]
  by_cases h20 : j < 20
  · have : (0x100 + i.toNat).testBit j = false :=
      Nat.testBit_lt_two_pow (lt_of_lt_of_le hi (Nat.pow_le_pow_right two_pos (show 16 ≤ j by omega)))
    simp [h16, h20, this]
  by_cases h32 : j < 32
  · simp [h16, h20, show j - 16 < 16 by omega]
  · have : (0x7ff : Nat).testBit (j - 20) = false :=
      Nat.testBit_lt_two_pow (lt_of_lt_of_le (show 0x7ff < 2 ^ 12 by decide)
        (Nat.pow_le_pow_right two_pos (show 12 ≤ j - 20 by omega)))
    simp [h16, h20, this]

/-! ## The rewriter state -/

/-- `SeccompFilterRewriter`; `#[derive(Default)]` gives the empty tables. -/
structure SeccompFilterRewriter where
  resultToIndex : UInt32 → Option UInt16
  indexToResult : List UInt32

namespace SeccompFilterRewriter

/-- `SeccompFilterRewriter::default()`. -/
def empty : SeccompFilterRewriter := ⟨fun _ => none, []⟩

/-- The `result_to_index.get(&u.k).is_none()` block of the rewrite loop: a
constant seen for the first time is pushed with the next index, after the
"Too many distinct constants" assertion and the `u16` conversion. -/
def addResult (s : SeccompFilterRewriter) (k : UInt32) : Except String SeccompFilterRewriter :=
  match s.resultToIndex k with
  | some _ => .ok s
  | none =>
    if baseCustomData.toNat + s.indexToResult.length < seccompRetData.toNat then
      if s.indexToResult.length < UInt16.size then
        .ok ⟨fun k' => if k' = k then some s.indexToResult.length.toUInt16 else s.resultToIndex k',
          s.indexToResult ++ [k]⟩
      else .error "called Result::unwrap() on an Err value"
    else .error "Too many distinct constants used in seccomp-bpf programs"

/-- `map_filter_data_to_real_result`: `(valid, result)`, where `result` is the
out-parameter (unchanged when the value is below `BASE_CUSTOM_DATA`); the
`ed_assert!` on the upper bound is an error. -/
def mapFilterDataToRealResult (s : SeccompFilterRewriter) (value : UInt16) (result : UInt32) :
    Except String (Bool × UInt32) :=
  if hb : value.toUInt32 < baseCustomData then .ok (false, result)
  else if h : value.toNat < baseCustomData.toNat + s.indexToResult.length then
    .ok (true, s.indexToResult.get ⟨value.toNat - baseCustomData.toNat, by
      have : baseCustomData.toNat ≤ value.toNat := Nat.le_of_not_lt hb
      omega⟩)
  else .error "assertion failed: value < BASE_CUSTOM_DATA + index_to_result.len()"

end SeccompFilterRewriter

open SeccompFilterRewriter

/-- One iteration of the rewrite loop of `install_patched_seccomp_filter_arch`. -/
def rewriteInstruction (s : SeccompFilterRewriter) (u : SockFilter) :
    Except String (SeccompFilterRewriter × SockFilter) :=
  if bpfClass u.code = bpfRet then
    if bpfRval u.code = bpfK then
      if u.k ≠ seccompRetAllow then
        match s.addResult u.k with
        | .error e => .error e
        | .ok s' =>
          match s'.resultToIndex u.k with
          | some i => .ok (s', { u with k := traceData i })
          | none => .error "no entry found for key"
      else .ok (s, u)
    else .error "seccomp-bpf program uses BPF_RET with A/X register, not supported"
  else .ok (s, u)

/-- The rewrite loop `for u in &mut code`. -/
def rewriteProgram : SeccompFilterRewriter → List SockFilter →
    Except String (SeccompFilterRewriter × List SockFilter)
  | s, [] => .ok (s, [])
  | s, u :: us =>
    match rewriteInstruction s u with
    | .error e => .error e
    | .ok (s₁, u') =>
      match rewriteProgram s₁ us with
      | .error e => .error e
      | .ok (s₂, us') => .ok (s₂, u' :: us')

/-- The constant a `RET` with constant `k` carries once the tables are `s`. -/
def rewriteK (s : SeccompFilterRewriter) (k : UInt32) : UInt32 :=
  if k = seccompRetAllow then k
  else
    match s.resultToIndex k with
    | some i => traceData i
    | none => k

/-! ## The table invariant -/

namespace SeccompFilterRewriter

/-- The rewriter's table invariant. -/
structure Wf (s : SeccompFilterRewriter) : Prop where
  /-- `result_to_index` maps exactly each `index_to_result[i]` to `i`. -/
  index_iff : ∀ k i, s.resultToIndex k = some i ↔ s.indexToResult[i.toNat]? = some k
  allow_not_mem : seccompRetAllow ∉ s.indexToResult
  /-- The data `BASE_CUSTOM_DATA + i` of every entry fits in `SECCOMP_RET_DATA`. -/
  bound : baseCustomData.toNat + s.indexToResult.length ≤ seccompRetData.toNat

theorem wf_empty : empty.Wf := ⟨fun _ _ => by simp [empty], by simp [empty], by simp [empty]⟩

variable {s t : SeccompFilterRewriter} {k : UInt32} {i : UInt16}

theorem Wf.index_lt (h : s.Wf) (hk : s.resultToIndex k = some i) :
    i.toNat < s.indexToResult.length :=
  (List.getElem?_eq_some_iff.mp ((h.index_iff k i).mp hk)).1

/-- Every entry's data fits in 16 bits, so the `u16` conversions are exact. -/
theorem Wf.data_lt (h : s.Wf) (hk : s.resultToIndex k = some i) :
    baseCustomData.toNat + i.toNat < 2 ^ 16 := by
  have := h.index_lt hk
  have := h.bound
  simp only [baseCustomData_toNat, seccompRetData_toNat] at *
  omega

/-- Every position of `index_to_result` is found under its entry. -/
theorem Wf.lookup_of_getElem? (h : s.Wf) {n : Nat} (hn : s.indexToResult[n]? = some k) :
    s.resultToIndex k = some n.toUInt16 := by
  have hlt := (List.getElem?_eq_some_iff.mp hn).1
  have hbound := h.bound
  simp only [baseCustomData_toNat, seccompRetData_toNat] at hbound
  refine (h.index_iff k _).mpr ?_
  rwa [Nat.toUInt16_toNat, Nat.mod_eq_of_lt (by simp [UInt16.size]; omega)]

theorem Wf.lookup_eq_none_iff (h : s.Wf) : s.resultToIndex k = none ↔ k ∉ s.indexToResult := by
  constructor
  · intro hk hmem
    obtain ⟨n, hn, hnk⟩ := List.getElem_of_mem hmem
    rw [h.lookup_of_getElem? (List.getElem?_eq_some_iff.mpr ⟨hn, hnk⟩)] at hk
    cases hk
  · intro hk
    cases hl : s.resultToIndex k with
    | none => rfl
    | some i => exact absurd (List.mem_of_getElem?_eq_some ((h.index_iff k i).mp hl)) hk

/-- `index_to_result` has no duplicates. -/
theorem Wf.nodup (h : s.Wf) : s.indexToResult.Nodup := by
  refine List.nodup_iff_getElem?_ne_getElem?.mpr fun a b hab hb heq => ?_
  have hk : s.indexToResult[a]? = some s.indexToResult[a] := List.getElem?_eq_getElem (by omega)
  have ha := h.lookup_of_getElem? hk
  have hb' := h.lookup_of_getElem? (heq ▸ hk)
  rw [ha] at hb'
  have := congrArg UInt16.toNat (Option.some.inj hb')
  have hbound := h.bound
  simp only [baseCustomData_toNat, seccompRetData_toNat] at hbound
  rw [Nat.toUInt16_toNat, Nat.toUInt16_toNat, Nat.mod_eq_of_lt (by simp [UInt16.size]; omega),
    Nat.mod_eq_of_lt (by simp [UInt16.size]; omega)] at this
  omega

/-- Tables only grow: an entry of `s` keeps its index in every `Wf` extension. -/
theorem Wf.lookup_mono (hs : s.Wf) (ht : t.Wf) (hp : s.indexToResult <+: t.indexToResult)
    (hk : s.resultToIndex k = some i) : t.resultToIndex k = some i := by
  obtain ⟨rest, hrest⟩ := hp
  have hget := (hs.index_iff k i).mp hk
  rw [ht.index_iff, ← hrest, List.getElem?_append_left (List.getElem?_eq_some_iff.mp hget).1]
  exact hget

/-- A position of `l ++ [a]` holds `b` when it holds `b` in `l`, or when it is
the new last position and `a = b`. -/
theorem getElem?_append_singleton_eq_some {α : Type} {l : List α} {a b : α} {n : Nat} :
    (l ++ [a])[n]? = some b ↔ l[n]? = some b ∨ (n = l.length ∧ a = b) := by
  rcases Nat.lt_trichotomy n l.length with hlt | rfl | hgt
  · rw [List.getElem?_append_left hlt]
    exact ⟨.inl, fun h => h.elim id fun h' => absurd h'.1 (by omega)⟩
  · simp
  · rw [List.getElem?_eq_none (by simp; omega), List.getElem?_eq_none (by omega)]
    exact ⟨nofun, fun h => h.elim nofun fun h' => absurd h'.1 (by omega)⟩

/-- The first occurrence of a constant is pushed with the next index. -/
theorem Wf.addResult (h : s.Wf) (hk : k ≠ seccompRetAllow) {s' : SeccompFilterRewriter}
    (ha : s.addResult k = .ok s') :
    s'.Wf ∧ s.indexToResult <+: s'.indexToResult ∧ ∃ i, s'.resultToIndex k = some i := by
  unfold SeccompFilterRewriter.addResult at ha
  split at ha
  · cases ha
    exact ⟨h, List.prefix_refl _, _, by assumption⟩
  · rename_i hnone
    split_ifs at ha with hfit hsize
    cases ha
    have hnot : k ∉ s.indexToResult := h.lookup_eq_none_iff.mp hnone
    have hlen : s.indexToResult.length.toUInt16.toNat = s.indexToResult.length := by
      rw [Nat.toUInt16_toNat, Nat.mod_eq_of_lt hsize]
    refine ⟨⟨fun k' i => ?_, ?_, ?_⟩, List.prefix_append _ _, _, if_pos rfl⟩
    · rw [getElem?_append_singleton_eq_some]
      by_cases hk' : k' = k
      · -- the new constant sits only at the new last position
        subst hk'
        have hold : s.indexToResult[i.toNat]? ≠ some k' := fun hi => hnot (List.mem_of_getElem?_eq_some hi)
        simp only [if_true, Option.some.injEq, hold, false_or, and_true]
        exact ⟨fun hi => hi ▸ hlen, fun hi => UInt16.toNat.inj (by rw [hlen, hi])⟩
      · simp only [hk', if_false, h.index_iff, Ne.symm hk', and_false, or_false]
    · simpa using ⟨h.allow_not_mem, fun he => hk he.symm⟩
    · simp only [seccompRetData_toNat, baseCustomData_toNat, List.length_append,
        List.length_singleton] at hfit ⊢
      omega

/-- The data of a rewritten constant maps back to the constant. -/
theorem Wf.mapFilterDataToRealResult_traceData (h : s.Wf) (hk : s.resultToIndex k = some i)
    (result : UInt32) :
    s.mapFilterDataToRealResult (traceData i &&& seccompRetData).toUInt16 result = .ok (true, k) := by
  have hi := h.data_lt hk
  have hval : (traceData i &&& seccompRetData).toUInt16.toNat = 0x100 + i.toNat := by
    rw [UInt32.toNat_toUInt16, traceData_data hi, baseCustomData_toNat]
    exact Nat.mod_eq_of_lt (by simpa [UInt16.size] using hi)
  have hlt := h.index_lt hk
  have hget := (h.index_iff k i).mp hk
  unfold SeccompFilterRewriter.mapFilterDataToRealResult
  rw [dif_neg (by rw [UInt32.lt_iff_toNat_lt, UInt16.toNat_toUInt32, hval, baseCustomData_toNat]; omega),
    dif_pos (by rw [hval, baseCustomData_toNat]; omega)]
  simp only [hval, baseCustomData_toNat, Nat.add_sub_cancel_left, List.get_eq_getElem]
  rw [List.getElem?_eq_some_iff] at hget
  obtain ⟨_, hget⟩ := hget
  rw [hget]

end SeccompFilterRewriter

/-! ## The rewrite loop -/

open SeccompFilterRewriter

variable {s s' t : SeccompFilterRewriter}

/-- One iteration keeps the invariant, only appends, and leaves the
instruction exactly as `retMap (rewriteK t)` does for any later state `t`. -/
theorem rewriteInstruction_spec {u u' : SockFilter} (h : s.Wf)
    (hr : rewriteInstruction s u = .ok (s', u')) :
    s'.Wf ∧ s.indexToResult <+: s'.indexToResult ∧
      ∀ t : SeccompFilterRewriter, t.Wf → s'.indexToResult <+: t.indexToResult →
        u' = retMap (rewriteK t) u := by
  unfold rewriteInstruction at hr
  split_ifs at hr with hc hv hk
  · split at hr
    · cases hr
    · rename_i s₁ ha
      split at hr
      · rename_i i hi
        cases hr
        obtain ⟨hw, hp, -⟩ := h.addResult hk ha
        refine ⟨hw, hp, fun t ht htp => ?_⟩
        simp [retMap, hc, rewriteK, hk, hw.lookup_mono ht htp hi]
      · cases hr
  · cases hr
    refine ⟨h, List.prefix_refl _, fun t _ _ => ?_⟩
    obtain ⟨code, jt, jf, k⟩ := u
    simp only [ne_eq, not_not] at hk
    subst hk
    simp [retMap, hc, rewriteK]
  · cases hr
    exact ⟨h, List.prefix_refl _, fun t _ _ => by simp [retMap, hc]⟩

/-- **The rewrite loop.** A successful rewrite keeps `Wf`, only appends to
`index_to_result`, and replaces every `RET` constant `k` by `rewriteK t k` for
every later state `t`. -/
theorem rewriteProgram_spec : ∀ {s s' : SeccompFilterRewriter} {p p' : List SockFilter},
    s.Wf → rewriteProgram s p = .ok (s', p') →
    s'.Wf ∧ s.indexToResult <+: s'.indexToResult ∧
      ∀ t : SeccompFilterRewriter, t.Wf → s'.indexToResult <+: t.indexToResult →
        p' = p.map (retMap (rewriteK t))
  | s, s', [], p', h, hr => by
    cases hr
    exact ⟨h, List.prefix_refl _, fun _ _ _ => rfl⟩
  | s, s', u :: us, p', h, hr => by
    unfold rewriteProgram at hr
    split at hr
    · cases hr
    · rename_i s₁ u' hu
      split at hr
      · cases hr
      · rename_i s₂ us' hus
        cases hr
        obtain ⟨h₁, hp₁, hmap₁⟩ := rewriteInstruction_spec h hu
        obtain ⟨h₂, hp₂, hmap₂⟩ := rewriteProgram_spec h₁ hus
        refine ⟨h₂, hp₁.trans hp₂, fun t ht htp => ?_⟩
        rw [List.map_cons, hmap₁ t ht (hp₂.trans htp), hmap₂ t ht htp]

/-- After a successful rewrite every `RET` uses `BPF_K`, and every non-allow
`RET` constant of the program has an index. -/
theorem rewriteProgram_lookup : ∀ {s s' : SeccompFilterRewriter} {p p' : List SockFilter},
    s.Wf → rewriteProgram s p = .ok (s', p') → ∀ u ∈ p, bpfClass u.code = bpfRet →
      bpfRval u.code = bpfK ∧ (u.k ≠ seccompRetAllow → ∃ i, s'.resultToIndex u.k = some i)
  | _, _, [], _, _, _, u, hu, _ => by cases hu
  | s, s', v :: vs, p', h, hr, u, hu, hc => by
    unfold rewriteProgram at hr
    split at hr
    · cases hr
    · rename_i s₁ v' hv
      split at hr
      · cases hr
      · rename_i s₂ vs' hvs
        cases hr
        obtain ⟨h₁, -, -⟩ := rewriteInstruction_spec h hv
        obtain ⟨h₂, hp₂, -⟩ := rewriteProgram_spec h₁ hvs
        rcases List.mem_cons.mp hu with rfl | hu
        · unfold rewriteInstruction at hv
          split_ifs at hv with hv' hk
          · refine ⟨hv', fun _ => ?_⟩
            split at hv
            · cases hv
            · split at hv
              · rename_i i hi
                cases hv
                exact ⟨i, h₁.lookup_mono h₂ hp₂ hi⟩
              · cases hv
          · exact ⟨hv', fun hne => absurd (by simpa using hk) hne⟩
        · exact rewriteProgram_lookup h₁ hvs u hu hc

end RdCore.Seccomp
