import RdCore.Seccomp.Install

/-!
# RdCore — stacks of rewritten seccomp filters

A task can install several seccomp filters; the kernel runs all of them on
each syscall and keeps one result (`seccomp_run_filters`, `kernel/seccomp.c`):
starting from `SECCOMP_RET_ALLOW` it visits the filters newest first and takes
a result only when its action is strictly lower, the actions compared as
signed 32-bit numbers. So the lowest action wins, and among equal actions the
most recently installed filter.

The rewriter maps every non-allow constant to the single action
`SECCOMP_RET_TRACE`. Across a stack this erases the order between actions:
`installed_stack_verdict` shows the kernel's pick among rewritten filters is
the trace verdict of the *newest* filter that does not return exactly
`SECCOMP_RET_ALLOW` (or `0` when a filter divides by zero), and
`installed_stack_verdict_differs` shows that this is not the pick among the
original filters, where an older `KILL` beats a newer `ERRNO`.
-/

namespace RdCore.Seccomp

open SeccompFilterRewriter

/-! ## The kernel's filter stack -/

/-- `ACTION_ONLY(ret)`: the action bits of a verdict as a signed 32-bit number. -/
def actionOnly (v : UInt32) : Int :=
  let m := (v &&& seccompRetActionFull).toNat
  if m < 2 ^ 31 then m else m - 2 ^ 32

/-- The fold of `seccomp_run_filters` over the filters' results, newest first. -/
def seccompRunFilters (results : List UInt32) : UInt32 :=
  results.foldl (fun ret cur => if actionOnly cur < actionOnly ret then cur else ret) seccompRetAllow

/-- The result of a stack of filters, listed in installation order, on `d`.
Only programs the kernel accepted are installed; a program without a verdict on
`d` contributes none. -/
def stackVerdict (stack : List (List SockFilter)) (d : SeccompData) : UInt32 :=
  seccompRunFilters (stack.reverse.filterMap (SockFilter.verdict · d))

/-- Successive `install_patched_seccomp_filter` calls on the filters `fs`,
oldest first, with the programs handed to the kernel. -/
def installSeq (page : RdPage) : SeccompFilterRewriter → List (List SockFilter) →
    Except String (SeccompFilterRewriter × List (Option (List SockFilter)))
  | s, [] => .ok (s, [])
  | s, f :: fs =>
    match installPatchedSeccompFilterArch page s (some f) with
    | .error e => .error e
    | .ok (s₁, out) =>
      match installSeq page s₁ fs with
      | .error e => .error e
      | .ok (s₂, outs) => .ok (s₂, out :: outs)

variable {page : RdPage}

/-- Successive installs keep `Wf`, and the whole installed stack is the
original one with every `RET` constant translated through the *final* tables. -/
theorem installSeq_spec : ∀ {s s' : SeccompFilterRewriter} {fs : List (List SockFilter)}
    {outs : List (Option (List SockFilter))}, s.Wf → installSeq page s fs = .ok (s', outs) →
    s'.Wf ∧ s.indexToResult <+: s'.indexToResult ∧
      outs = fs.map (fun f => some (rdPagePrefix page ++ f.map (retMap (rewriteK s')))) ∧
      ∀ f ∈ fs, ∀ u ∈ f, bpfClass u.code = bpfRet →
        bpfRval u.code = bpfK ∧ (u.k ≠ seccompRetAllow → ∃ i, s'.resultToIndex u.k = some i)
  | s, s', [], outs, h, hi => by
    cases hi
    exact ⟨h, List.prefix_refl _, rfl, fun _ hf => by cases hf⟩
  | s, s', f :: fs, outs, h, hi => by
    unfold installSeq at hi
    cases hr : rewriteProgram s f with
    | error e => simp [installPatchedSeccompFilterArch, hr] at hi
    | ok p =>
      obtain ⟨s₁, f'⟩ := p
      simp only [installPatchedSeccompFilterArch, hr] at hi
      split at hi
      · cases hi
      · rename_i outs' hrest
        cases hi
        obtain ⟨h₁, hp₁, hmap⟩ := rewriteProgram_spec h hr
        obtain ⟨h₂, hp₂, houts, hlook⟩ := installSeq_spec h₁ hrest
        refine ⟨h₂, hp₁.trans hp₂, ?_, fun g hg u hu hc => ?_⟩
        · rw [houts, hmap s' h₂ hp₂, List.map_cons]
        · rcases List.mem_cons.mp hg with rfl | hg
          · obtain ⟨hk, hl⟩ := rewriteProgram_lookup h hr u hu hc
            exact ⟨hk, fun hne => (hl hne).elim fun i hi => ⟨i, h₁.lookup_mono h₂ hp₂ hi⟩⟩
          · exact hlook g hg u hu hc

/-! ## The kernel's pick among translated verdicts -/

/-- A verdict a rewritten program can return: allow, `0` from a division by
zero, or a verdict with action `SECCOMP_RET_TRACE`. -/
def Translated (v : UInt32) : Prop :=
  v = seccompRetAllow ∨ v = 0 ∨ v &&& seccompRetActionFull = seccompRetTrace

theorem actionOnly_of_trace {v : UInt32} (h : v &&& seccompRetActionFull = seccompRetTrace) :
    actionOnly v = 0x7ff00000 := by
  simp only [actionOnly, h]
  decide

theorem zero_ne_of_trace {v : UInt32} (h : v &&& seccompRetActionFull = seccompRetTrace) : 0 ≠ v := by
  rintro rfl
  exact absurd h (by decide)

theorem ne_allow_of_trace {v : UInt32} (h : v &&& seccompRetActionFull = seccompRetTrace) :
    v ≠ seccompRetAllow := by
  rintro rfl
  exact absurd h (by decide)

/-- The fold of `seccomp_run_filters` over translated verdicts: a `0` wins
outright; otherwise the first (newest) trace verdict, all of whose actions
tie; otherwise allow. -/
theorem foldl_translated : ∀ (l : List UInt32) (r : UInt32), Translated r →
    (∀ v ∈ l, Translated v) →
    l.foldl (fun ret cur => if actionOnly cur < actionOnly ret then cur else ret) r =
      if 0 ∈ r :: l then 0
      else if r ≠ seccompRetAllow then r else (l.find? (· ≠ seccompRetAllow)).getD seccompRetAllow
  | [], r, hr, _ => by
    rcases hr with rfl | rfl | hr
    · decide
    · decide
    · simp [zero_ne_of_trace hr, ne_allow_of_trace hr]
  | v :: l, r, hr, hl => by
    have hv := hl v (List.mem_cons_self _ _)
    have hl' := fun w hw => hl w (List.mem_cons_of_mem _ hw)
    rw [List.foldl_cons, foldl_translated l _ (by split <;> assumption) hl']
    rcases hr with rfl | rfl | hr <;> rcases hv with rfl | rfl | hv
    all_goals simp +decide [actionOnly_of_trace, zero_ne_of_trace, ne_allow_of_trace, *]

theorem List.find?_congr_mem {p q : α → Bool} :
    ∀ {l : List α}, (∀ a ∈ l, p a = q a) → l.find? p = l.find? q
  | [], _ => rfl
  | a :: l, h => by
    rw [List.find?_cons, List.find?_cons, h a (List.mem_cons_self _ _),
      List.find?_congr_mem fun b hb => h b (List.mem_cons_of_mem _ hb)]

/-! ## Stacks of installed filters -/

/-- How the rewritten program reports an outcome of the original one. -/
def translate (s : SeccompFilterRewriter) (o : Outcome) : UInt32 := (o.mapK (rewriteK s)).verdict

/-- The outcomes of the filters `fs` (oldest first) on `d`, each run from the
state the rd-page prefix leaves, newest first. -/
def prefixedOutcomes (page : RdPage) (fs : List (List SockFilter)) (d : SeccompData) :
    List Outcome :=
  fs.reverse.filterMap fun f => run d f (prefixExit page.privilegedCallsites d BpfState.init)

/-- Each installed program reports the translated outcome of its filter. -/
theorem verdict_installed (s : SeccompFilterRewriter) (f : List SockFilter) (d : SeccompData)
    (hd : ¬ IsCallsite page.privilegedCallsites d) :
    SockFilter.verdict (rdPagePrefix page ++ f.map (retMap (rewriteK s))) d =
      (run d f (prefixExit page.privilegedCallsites d BpfState.init)).map (translate s) := by
  rw [SockFilter.verdict, rdPagePrefix, run_prefix, if_neg hd, run_retMap, Option.map_map]
  rfl

/-- An outcome of a successfully rewritten filter is a constant of one of its
`RET | K` instructions or a division by zero. -/
theorem outcome_of_rewritten {f : List SockFilter} {s' : SeccompFilterRewriter}
    (hlook : ∀ u ∈ f, bpfClass u.code = bpfRet →
      bpfRval u.code = bpfK ∧ (u.k ≠ seccompRetAllow → ∃ i, s'.resultToIndex u.k = some i))
    {d : SeccompData} {st : BpfState} {o : Outcome} (ho : run d f st = some o) :
    o = .divZero ∨ ∃ k, o = .retK k ∧ (k ≠ seccompRetAllow → ∃ i, s'.resultToIndex k = some i) := by
  cases o with
  | divZero => exact .inl rfl
  | retK k =>
    obtain ⟨u, hu, hc, rfl⟩ := run_retK ho
    exact .inr ⟨u.k, rfl, (hlook u hu (by rw [hc]; rfl)).2⟩
  | retA v =>
    obtain ⟨u, hu, hc⟩ := run_retA ho
    exact absurd (hlook u hu (by rw [hc]; rfl)).1 (by rw [hc]; decide)

/-- `SECCOMP_RET_ALLOW`, or a constant of the tables, is rewritten to its traced
verdict. -/
theorem tracedVerdict_rewriteK {s : SeccompFilterRewriter} (hw : s.Wf) {k : UInt32}
    (hl : k ≠ seccompRetAllow → ∃ i, s.resultToIndex k = some i) : TracedVerdict s k (rewriteK s k) := by
  by_cases hallow : k = seccompRetAllow
  · exact .inl ⟨hallow, by rw [hallow, rewriteK_allow]⟩
  · obtain ⟨i, hi⟩ := hl hallow
    rw [rewriteK_of_lookup hallow hi]
    exact hw.tracedVerdict hallow hi

/-- Translating an outcome of a rewritten filter gives a translated verdict,
`0` exactly for a division by zero, and allow exactly for `RET SECCOMP_RET_ALLOW`. -/
theorem translate_outcome {s : SeccompFilterRewriter} (hw : s.Wf) {o : Outcome}
    (ho : o = .divZero ∨ ∃ k, o = .retK k ∧ (k ≠ seccompRetAllow → ∃ i, s.resultToIndex k = some i)) :
    Translated (translate s o) ∧ (translate s o = 0 ↔ o = .divZero) ∧
      (translate s o ≠ seccompRetAllow ↔ o ≠ .retK seccompRetAllow) := by
  obtain rfl | ⟨k, rfl, hl⟩ := ho
  · exact ⟨.inr (.inl rfl), by simp [translate, Outcome.mapK, Outcome.verdict], by
      simp [translate, Outcome.mapK, Outcome.verdict]; decide⟩
  · rcases tracedVerdict_rewriteK hw hl with ⟨rfl, h⟩ | ⟨hk, i, h, -, hact, -⟩
    · simp only [translate, Outcome.mapK, Outcome.verdict, h]
      exact ⟨.inl rfl, by decide, by simp⟩
    · simp only [translate, Outcome.mapK, Outcome.verdict]
      exact ⟨.inr (.inr hact), ⟨fun h0 => absurd h0.symm (zero_ne_of_trace hact), nofun⟩,
        ⟨fun _ => by simpa using hk, fun _ => ne_allow_of_trace hact⟩⟩

/-- **Stacked rewritten filters.** For filters `fs` installed one after
another and an input outside the rd-page callsites, the kernel's pick among
the installed programs is `0` if some filter divides by zero; otherwise the
translation of the newest outcome that is not `RET SECCOMP_RET_ALLOW` — a trace
verdict whose data maps back to that filter's constant — and allow when every
filter returns exactly `SECCOMP_RET_ALLOW`. -/
theorem installed_stack_verdict {s s' : SeccompFilterRewriter} {fs : List (List SockFilter)}
    {outs : List (Option (List SockFilter))} (hs : s.Wf) (hi : installSeq page s fs = .ok (s', outs))
    (d : SeccompData) (hd : ¬ IsCallsite page.privilegedCallsites d) :
    stackVerdict (outs.filterMap id) d =
        (if .divZero ∈ prefixedOutcomes page fs d then 0
         else (((prefixedOutcomes page fs d).find? (· ≠ .retK seccompRetAllow)).map
           (translate s')).getD seccompRetAllow) ∧
      ∀ k, .retK k ∈ prefixedOutcomes page fs d → TracedVerdict s' k (rewriteK s' k) := by
  obtain ⟨hw, -, houts, hlook⟩ := installSeq_spec hs hi
  -- every outcome is a table constant or a division by zero
  have hkind : ∀ o ∈ prefixedOutcomes page fs d, o = .divZero ∨
      ∃ k, o = .retK k ∧ (k ≠ seccompRetAllow → ∃ i, s'.resultToIndex k = some i) := by
    intro o ho
    obtain ⟨f, hf, hrun⟩ := List.mem_filterMap.mp ho
    exact outcome_of_rewritten (hlook f (List.mem_reverse.mp hf)) hrun
  have htraced : ∀ k, .retK k ∈ prefixedOutcomes page fs d → TracedVerdict s' k (rewriteK s' k) := by
    intro k hk
    obtain h0 | ⟨k', hk', hl⟩ := hkind _ hk
    · cases h0
    · cases hk'
      exact tracedVerdict_rewriteK hw hl
  refine ⟨?_, htraced⟩
  -- the installed stack reports the translated outcomes
  have hstack : stackVerdict (outs.filterMap id) d =
      seccompRunFilters ((prefixedOutcomes page fs d).map (translate s')) := by
    rw [stackVerdict, houts, List.filterMap_map, show (id ∘ fun f : List SockFilter =>
      some (rdPagePrefix page ++ f.map (retMap (rewriteK s')))) = some ∘ _ from rfl,
      List.filterMap_eq_map, ← List.map_reverse, prefixedOutcomes, List.map_filterMap,
      List.filterMap_map]
    congr 1
    exact List.filterMap_congr fun f _ => verdict_installed s' f d hd
  have htr := fun o ho => translate_outcome hw (hkind o ho)
  rw [hstack, seccompRunFilters,
    foldl_translated _ _ (.inl rfl) fun v hv => by
      obtain ⟨o, ho, rfl⟩ := List.mem_map.mp hv
      exact (htr o ho).1]
  simp only [ne_eq, not_true_eq_false, if_false, List.find?_map]
  have hzero : (0 ∈ seccompRetAllow :: (prefixedOutcomes page fs d).map (translate s')) ↔
      .divZero ∈ prefixedOutcomes page fs d := by
    simp only [List.mem_cons, List.mem_map]
    constructor
    · rintro (h | ⟨o, ho, h⟩)
      · exact absurd h (by decide)
      · exact (htr o ho).2.1.mp h ▸ ho
    · exact fun h => .inr ⟨_, h, (htr _ h).2.1.mpr rfl⟩
  refine if_congr hzero rfl (congrArg (fun o => (o.map (translate s')).getD seccompRetAllow)
    (List.find?_congr_mem fun o ho => decide_eq_decide.mpr (htr o ho).2.2))

/-- The kill filter and then the `EPERM` filter, installed behind one rd-page
callsite, on a syscall made elsewhere. -/
theorem installed_stack_verdict_kill_eperm :
    SeccompFilterRewriter.empty.Wf ∧
      installSeq ⟨[⟨false, true, true⟩], fun _ _ _ => 0x70000010⟩ .empty
          [[⟨0x06, 0, 0, 0⟩], [⟨0x06, 0, 0, 0x00050001⟩]] =
        .ok (⟨fun k => if k = 0x00050001 then some 1 else if k = 0 then some 0 else none,
            [0, 0x00050001]⟩,
          [some (rdPagePrefix ⟨[⟨false, true, true⟩], fun _ _ _ => 0x70000010⟩ ++
              [⟨0x06, 0, 0, traceData 0⟩]),
            some (rdPagePrefix ⟨[⟨false, true, true⟩], fun _ _ _ => 0x70000010⟩ ++
              [⟨0x06, 0, 0, traceData 1⟩])]) ∧
      ¬ IsCallsite (RdPage.privilegedCallsites ⟨[⟨false, true, true⟩], fun _ _ _ => 0x70000010⟩)
          ⟨39, 0xc000003e, 0x401000, fun _ => 0⟩ ∧
      (stackVerdict ([some (rdPagePrefix ⟨[⟨false, true, true⟩], fun _ _ _ => 0x70000010⟩ ++
              [⟨0x06, 0, 0, traceData 0⟩]),
            some (rdPagePrefix ⟨[⟨false, true, true⟩], fun _ _ _ => 0x70000010⟩ ++
              [⟨0x06, 0, 0, traceData 1⟩])].filterMap id) ⟨39, 0xc000003e, 0x401000, fun _ => 0⟩ =
          (if .divZero ∈ prefixedOutcomes ⟨[⟨false, true, true⟩], fun _ _ _ => 0x70000010⟩
              [[⟨0x06, 0, 0, 0⟩], [⟨0x06, 0, 0, 0x00050001⟩]] ⟨39, 0xc000003e, 0x401000, fun _ => 0⟩
            then 0
           else (((prefixedOutcomes ⟨[⟨false, true, true⟩], fun _ _ _ => 0x70000010⟩
              [[⟨0x06, 0, 0, 0⟩], [⟨0x06, 0, 0, 0x00050001⟩]]
              ⟨39, 0xc000003e, 0x401000, fun _ => 0⟩).find? (· ≠ .retK seccompRetAllow)).map
             (translate ⟨fun k => if k = 0x00050001 then some 1 else if k = 0 then some 0 else none,
               [0, 0x00050001]⟩)).getD seccompRetAllow) ∧
        ∀ k, .retK k ∈ prefixedOutcomes ⟨[⟨false, true, true⟩], fun _ _ _ => 0x70000010⟩
            [[⟨0x06, 0, 0, 0⟩], [⟨0x06, 0, 0, 0x00050001⟩]] ⟨39, 0xc000003e, 0x401000, fun _ => 0⟩ →
          TracedVerdict ⟨fun k => if k = 0x00050001 then some 1 else if k = 0 then some 0 else none,
              [0, 0x00050001]⟩ k
            (rewriteK ⟨fun k => if k = 0x00050001 then some 1 else if k = 0 then some 0 else none,
              [0, 0x00050001]⟩ k)) :=
  ⟨wf_empty, rfl, by decide, installed_stack_verdict wf_empty (by rfl) _ (by decide)⟩

/-- An older filter that kills and a newer one that fails with `EPERM`: the
original stack kills, while the rewritten stack picks the newer trace verdict
(equal actions keep the newest), whose data maps back to the `EPERM` constant. -/
theorem installed_stack_verdict_differs :
    stackVerdict [[⟨0x06, 0, 0, 0⟩], [⟨0x06, 0, 0, 0x00050001⟩]]
        ⟨39, 0xc000003e, 0x401000, fun _ => 0⟩ = 0 ∧
      ((installSeq ⟨[], fun _ _ _ => 0⟩ .empty
          [[⟨0x06, 0, 0, 0⟩], [⟨0x06, 0, 0, 0x00050001⟩]]).toOption.map fun r =>
        (fun v => (v, (mapFilterDataToRealResult r.1 (v &&& seccompRetData).toUInt16 v).toOption))
          (stackVerdict (r.2.filterMap id) ⟨39, 0xc000003e, 0x401000, fun _ => 0⟩)) =
        some (traceData 1, some (true, 0x00050001)) := by
  decide

end RdCore.Seccomp
