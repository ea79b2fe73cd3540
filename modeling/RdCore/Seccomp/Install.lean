import RdCore.Seccomp.Rewriter

/-!
# RdCore — installing a patched seccomp filter

`install_patched_seccomp_filter_arch` reads the tracee's filter, runs the
rewrite loop over it, prepends one rule per privileged rd-page syscall
("allow syscalls made from this callsite") and installs the concatenation.
If the filter cannot be read, the original syscall is passed through and the
rewriter is untouched.

Two results:

* `rewriter_invariant_all_runs` — over every sequence of successful installs
  from the empty rewriter, the tables satisfy `Wf`, only grow, and every
  non-allow `RET` constant ever rewritten carries action `SECCOMP_RET_TRACE`
  and data `BASE_CUSTOM_DATA + i`, which `map_filter_data_to_real_result`
  maps back to the original constant in every later state;
* `installed_filter_verdict` — the installed program runs as the tracee's
  filter started from the state the rd-page prefix leaves, with every `RET`
  constant translated. The prefix has to load the instruction pointer into
  `A` to compare it, so the filter no longer starts with `A = 0`
  (`installed_filter_verdict_differs` exhibits the difference).
-/

namespace RdCore.Seccomp

open SeccompFilterRewriter

/-! ## The rd-page prefix -/

/-- An entry of `AddressSpace::rd_page_syscalls()`; only its flags are read. -/
structure RdPageSyscall where
  traced : Bool
  privileged : Bool
  enabled : Bool

/-- The rd page as the installer sees it. The syscall table and
`AddressSpace::rd_page_syscall_exit_point` live in `address_space.rs`, which is
not in the source; both are parameters. -/
structure RdPage where
  syscalls : List RdPageSyscall
  exitPoint : Bool → Bool → Bool → UInt64

/-- The exit points of the privileged rd-page syscalls, in table order. -/
def RdPage.privilegedCallsites (page : RdPage) : List UInt64 :=
  (page.syscalls.filter (·.privileged)).map fun e => page.exitPoint e.traced e.privileged e.enabled

/-- Modelled from the spec: `SeccompFilter::allow_syscalls_from_callsite`
(`seccomp_bpf.rs`) is not in the source. The spec's rule "unconditionally allow
syscalls issued from the rd page, identified by callsite IPs" as classic BPF:
load the instruction-pointer word of `seccomp_data` into `A`, compare it with
the callsite, and return `SECCOMP_RET_ALLOW` on a match. -/
def allowSyscallsFromCallsite (ip : UInt64) : List SockFilter :=
  [⟨0x20, 0, 0, instructionPointerOffset⟩, ⟨0x15, 0, 1, ip.toUInt32⟩, ⟨0x06, 0, 0, seccompRetAllow⟩]

/-- The rules the `for e in AddressSpace::rd_page_syscalls()` loop adds to `f`. -/
def rdPagePrefix (page : RdPage) : List SockFilter :=
  page.privilegedCallsites.flatMap allowSyscallsFromCallsite

/-- The filter state once the prefix has fallen through: every rule loaded
the instruction-pointer word into `A`. -/
def prefixExit (callsites : List UInt64) (d : SeccompData) (s : BpfState) : BpfState :=
  if callsites = [] then s else { s with a := d.instructionPointer.toUInt32 }

/-- `seccomp_data` comes from one of the callsites, as the prefix tests it. -/
def IsCallsite (callsites : List UInt64) (d : SeccompData) : Prop :=
  ∃ ip ∈ callsites, d.instructionPointer.toUInt32 = ip.toUInt32

instance (callsites : List UInt64) (d : SeccompData) : Decidable (IsCallsite callsites d) :=
  inferInstanceAs (Decidable (∃ ip ∈ callsites, _))

theorem run_allowSyscallsFromCallsite (d : SeccompData) (ip : UInt64) (rest : List SockFilter)
    (s : BpfState) :
    run d (allowSyscallsFromCallsite ip ++ rest) s =
      if d.instructionPointer.toUInt32 = ip.toUInt32 then some (.retK seccompRetAllow)
      else run d rest { s with a := d.instructionPointer.toUInt32 } := by
  simp only [allowSyscallsFromCallsite, List.cons_append, List.nil_append, run_cons]
  by_cases h : d.instructionPointer.toUInt32 = ip.toUInt32
  · simp [step, bpfClass, ldStep, jmpStep, retStep, h, run_cons, UInt16.size]
  · simp [step, bpfClass, ldStep, jmpStep, h, run_cons, UInt16.size]

/-- The prefix either allows the call or falls through with `A` loaded. -/
theorem run_prefix (d : SeccompData) :
    ∀ (callsites : List UInt64) (code : List SockFilter) (s : BpfState),
      run d (callsites.flatMap allowSyscallsFromCallsite ++ code) s =
        if IsCallsite callsites d then some (.retK seccompRetAllow)
        else run d code (prefixExit callsites d s)
  | [], code, s => by simp [IsCallsite, prefixExit]
  | ip :: rest, code, s => by
    rw [List.flatMap_cons, List.append_assoc, run_allowSyscallsFromCallsite, run_prefix d rest]
    by_cases h : d.instructionPointer.toUInt32 = ip.toUInt32
    · simp [IsCallsite, h]
    · by_cases hr : IsCallsite rest d
      · simp [IsCallsite, h] at hr ⊢
        simp [hr]
      · simp only [IsCallsite, List.mem_cons, exists_eq_or_imp, h, false_or] at hr ⊢
        simp [hr, prefixExit]

/-! ## Installing -/

/-- `install_patched_seccomp_filter_arch`. The argument is the filter read from
the tracee, `none` when it cannot be read (`pass_through_seccomp_filter`); the
result is the new rewriter and the program handed to the kernel. -/
def installPatchedSeccompFilterArch (page : RdPage) (s : SeccompFilterRewriter) :
    Option (List SockFilter) → Except String (SeccompFilterRewriter × Option (List SockFilter))
  | none => .ok (s, none)
  | some code =>
    match rewriteProgram s code with
    | .error e => .error e
    | .ok (s', code') => .ok (s', some (rdPagePrefix page ++ code'))

/-- A sequence of successful `install_patched_seccomp_filter` calls. -/
inductive Installs (page : RdPage) : SeccompFilterRewriter → SeccompFilterRewriter → Prop
  | refl (s : SeccompFilterRewriter) : Installs page s s
  | step {s s₁ s₂ : SeccompFilterRewriter} {prog : Option (List SockFilter)}
      {out : Option (List SockFilter)} :
      installPatchedSeccompFilterArch page s prog = .ok (s₁, out) → Installs page s₁ s₂ →
      Installs page s s₂

variable {page : RdPage} {s s₁ s₂ : SeccompFilterRewriter}

theorem install_spec (h : s.Wf) {prog : Option (List SockFilter)} {out : Option (List SockFilter)}
    (hi : installPatchedSeccompFilterArch page s prog = .ok (s₁, out)) :
    s₁.Wf ∧ s.indexToResult <+: s₁.indexToResult := by
  cases prog with
  | none => cases hi; exact ⟨h, List.prefix_refl _⟩
  | some code =>
    cases hr : rewriteProgram s code with
    | error e => simp [installPatchedSeccompFilterArch, hr] at hi
    | ok p =>
      simp only [installPatchedSeccompFilterArch, hr, Except.ok.injEq, Prod.mk.injEq] at hi
      obtain ⟨rfl, -⟩ := hi
      obtain ⟨hw, hp, -⟩ := rewriteProgram_spec h hr
      exact ⟨hw, hp⟩

/-- Every state reached by installs keeps `Wf` and extends the tables. -/
theorem Installs.wf_prefix (hr : Installs page s s₂) (h : s.Wf) :
    s₂.Wf ∧ s.indexToResult <+: s₂.indexToResult := by
  induction hr with
  | refl => exact ⟨h, List.prefix_refl _⟩
  | step hi _ ih =>
    obtain ⟨h₁, hp₁⟩ := install_spec h hi
    obtain ⟨h₂, hp₂⟩ := ih h₁
    exact ⟨h₂, hp₁.trans hp₂⟩

/-! ## Verdicts of the installed program -/

/-- How the rewritten program reports an original constant `k` as `k'`:
allow stays allow; any other constant becomes
`SECCOMP_RET_TRACE | (BASE_CUSTOM_DATA + i)` with `index_to_result[i] = k`,
and `map_filter_data_to_real_result` maps its data back to `k`. -/
def TracedVerdict (s : SeccompFilterRewriter) (k k' : UInt32) : Prop :=
  (k = seccompRetAllow ∧ k' = seccompRetAllow) ∨
    (k ≠ seccompRetAllow ∧ ∃ i : UInt16, k' = traceData i ∧ s.indexToResult[i.toNat]? = some k ∧
      k' &&& seccompRetActionFull = seccompRetTrace ∧
      (k' &&& seccompRetData).toNat = baseCustomData.toNat + i.toNat ∧
      ∀ r, s.mapFilterDataToRealResult (k' &&& seccompRetData).toUInt16 r = .ok (true, k))

theorem rewriteK_allow (s : SeccompFilterRewriter) : rewriteK s seccompRetAllow = seccompRetAllow :=
  if_pos rfl

theorem rewriteK_of_lookup {k : UInt32} {i : UInt16} (hk : k ≠ seccompRetAllow)
    (hl : s.resultToIndex k = some i) : rewriteK s k = traceData i := by
  simp [rewriteK, hk, hl]

theorem SeccompFilterRewriter.Wf.tracedVerdict {k : UInt32} {i : UInt16} (h : s.Wf) (hk : k ≠ seccompRetAllow)
    (hl : s.resultToIndex k = some i) : TracedVerdict s k (traceData i) :=
  .inr ⟨hk, i, rfl, (h.index_iff k i).mp hl, traceData_action (h.data_lt hl),
    traceData_data (h.data_lt hl), h.mapFilterDataToRealResult_traceData hl⟩

/-- **The installed program.** On every input that does not come from an
rd-page callsite, the program `install_patched_seccomp_filter_arch` installs
runs as the tracee's filter started from the state the rd-page prefix leaves
(`A` holds the instruction-pointer word when the prefix is non-empty), with
each `RET` constant translated by the final tables: allow stays allow, any
other constant `k` becomes a trace verdict whose data maps back to `k`. A
division by a zero `X` returns `0` in both programs, and a program the kernel
rejects is rejected in both. -/
theorem installed_filter_verdict {s s' : SeccompFilterRewriter} {code out : List SockFilter}
    (hs : s.Wf) (hi : installPatchedSeccompFilterArch page s (some code) = .ok (s', some out))
    (d : SeccompData) (hd : ¬ IsCallsite page.privilegedCallsites d) :
    run d out BpfState.init =
        (run d code (prefixExit page.privilegedCallsites d BpfState.init)).map
          (Outcome.mapK (rewriteK s')) ∧
      ∀ k, run d code (prefixExit page.privilegedCallsites d BpfState.init) = some (.retK k) →
        TracedVerdict s' k (rewriteK s' k) := by
  cases hr : rewriteProgram s code with
  | error e => simp [installPatchedSeccompFilterArch, hr] at hi
  | ok p =>
    obtain ⟨s₁, code'⟩ := p
    simp only [installPatchedSeccompFilterArch, hr, Except.ok.injEq, Prod.mk.injEq,
      Option.some.injEq] at hi
    obtain ⟨rfl, rfl⟩ := hi
    obtain ⟨hw, -, hmap⟩ := rewriteProgram_spec hs hr
    refine ⟨?_, fun k hk => ?_⟩
    · rw [rdPagePrefix, run_prefix, if_neg hd, hmap s₁ hw (List.prefix_refl _), run_retMap]
    · obtain ⟨u, hu, hcode, rfl⟩ := run_retK hk
      have hc : bpfClass u.code = bpfRet := by rw [hcode]; rfl
      by_cases hallow : u.k = seccompRetAllow
      · exact .inl ⟨hallow, by rw [hallow, rewriteK_allow]⟩
      · obtain ⟨i, hl⟩ := (rewriteProgram_lookup hs hr u hu hc).2 hallow
        rw [rewriteK_of_lookup hallow hl]
        exact hw.tracedVerdict hallow hl

/-- The kill-everything filter installed behind one rd-page callsite, on a
syscall made elsewhere. -/
theorem installed_filter_verdict_kill :
    SeccompFilterRewriter.empty.Wf ∧
      installPatchedSeccompFilterArch ⟨[⟨false, true, true⟩], fun _ _ _ => 0x70000010⟩ .empty
          (some [⟨0x06, 0, 0, 0⟩]) =
        .ok (⟨fun k => if k = 0 then some 0 else none, [0]⟩,
          some (rdPagePrefix ⟨[⟨false, true, true⟩], fun _ _ _ => 0x70000010⟩ ++
            [⟨0x06, 0, 0, traceData 0⟩])) ∧
      ¬ IsCallsite (RdPage.privilegedCallsites ⟨[⟨false, true, true⟩], fun _ _ _ => 0x70000010⟩)
          ⟨39, 0xc000003e, 0x401000, fun _ => 0⟩ ∧
      (run ⟨39, 0xc000003e, 0x401000, fun _ => 0⟩
          (rdPagePrefix ⟨[⟨false, true, true⟩], fun _ _ _ => 0x70000010⟩ ++
            [⟨0x06, 0, 0, traceData 0⟩]) BpfState.init =
          (run ⟨39, 0xc000003e, 0x401000, fun _ => 0⟩ [⟨0x06, 0, 0, 0⟩]
            (prefixExit (RdPage.privilegedCallsites ⟨[⟨false, true, true⟩], fun _ _ _ => 0x70000010⟩)
              ⟨39, 0xc000003e, 0x401000, fun _ => 0⟩ BpfState.init)).map
            (Outcome.mapK (rewriteK ⟨fun k => if k = 0 then some 0 else none, [0]⟩)) ∧
        ∀ k, run ⟨39, 0xc000003e, 0x401000, fun _ => 0⟩ [⟨0x06, 0, 0, 0⟩]
            (prefixExit (RdPage.privilegedCallsites ⟨[⟨false, true, true⟩], fun _ _ _ => 0x70000010⟩)
              ⟨39, 0xc000003e, 0x401000, fun _ => 0⟩ BpfState.init) = some (.retK k) →
          TracedVerdict ⟨fun k => if k = 0 then some 0 else none, [0]⟩ k
            (rewriteK ⟨fun k => if k = 0 then some 0 else none, [0]⟩ k)) :=
  ⟨wf_empty, rfl, by decide, installed_filter_verdict wf_empty (by rfl) _ (by decide)⟩

/-- Two filters on a `read` made outside the rd page. One tests `A` before
loading it: `A` is `0` at the start of the tracee's program, so it allows the
call; once installed, the prefix has left the low instruction-pointer word in
`A`, so the rewritten program traces it. The other divides by the zero `X`:
both programs return `0`, which is not a trace verdict. -/
theorem installed_filter_verdict_differs :
    ¬ IsCallsite (RdPage.privilegedCallsites ⟨[⟨false, true, true⟩], fun _ _ _ => 0x70000010⟩)
        ⟨39, 0xc000003e, 0x401000, fun _ => 0⟩ ∧
      SockFilter.verdict [⟨0x15, 1, 0, 0⟩, ⟨0x06, 0, 0, 0⟩, ⟨0x06, 0, 0, seccompRetAllow⟩]
        ⟨39, 0xc000003e, 0x401000, fun _ => 0⟩ = some seccompRetAllow ∧
      ((installPatchedSeccompFilterArch ⟨[⟨false, true, true⟩], fun _ _ _ => 0x70000010⟩ .empty
          (some [⟨0x15, 1, 0, 0⟩, ⟨0x06, 0, 0, 0⟩, ⟨0x06, 0, 0, seccompRetAllow⟩])).toOption.bind
          Prod.snd).map (SockFilter.verdict · ⟨39, 0xc000003e, 0x401000, fun _ => 0⟩) =
        some (some (traceData 0)) ∧
      traceData 0 ≠ seccompRetAllow ∧
      SockFilter.verdict [⟨0x3c, 0, 0, 0⟩, ⟨0x06, 0, 0, 0x00050001⟩]
        ⟨39, 0xc000003e, 0x401000, fun _ => 0⟩ = some 0 ∧
      ((installPatchedSeccompFilterArch ⟨[⟨false, true, true⟩], fun _ _ _ => 0x70000010⟩ .empty
          (some [⟨0x3c, 0, 0, 0⟩, ⟨0x06, 0, 0, 0x00050001⟩])).toOption.bind Prod.snd).map
          (SockFilter.verdict · ⟨39, 0xc000003e, 0x401000, fun _ => 0⟩) = some (some 0) ∧
      (0 : UInt32) &&& seccompRetActionFull ≠ seccompRetTrace := by
  decide

/-! ## The rewriter over whole runs -/

/-- **Rewriter invariant.** Over every sequence of successful installs from the
empty rewriter: the tables satisfy `Wf` (`result_to_index` inverts
`index_to_result`, no `SECCOMP_RET_ALLOW` entry, `BASE_CUSTOM_DATA + len ≤
SECCOMP_RET_DATA`), have no duplicate entry, and only grow; and every later
install rewrites each non-allow `RET | K` constant `k` to a trace verdict whose
data maps back to `k` in every state that follows. -/
theorem rewriter_invariant_all_runs {s : SeccompFilterRewriter} (hs : Installs page .empty s) :
    s.Wf ∧ s.indexToResult.Nodup ∧
      (∀ s₂, Installs page s s₂ → s.indexToResult <+: s₂.indexToResult) ∧
      ∀ code s₁ out, installPatchedSeccompFilterArch page s (some code) = .ok (s₁, some out) →
        ∃ code', out = rdPagePrefix page ++ code' ∧ code' = code.map (retMap (rewriteK s₁)) ∧
          ∀ u ∈ code, bpfClass u.code = bpfRet → bpfRval u.code = bpfK ∧
            (u.k ≠ seccompRetAllow →
              ∀ s₂, Installs page s₁ s₂ → TracedVerdict s₂ u.k (rewriteK s₁ u.k)) := by
  have hw := (hs.wf_prefix wf_empty).1
  refine ⟨hw, hw.nodup, fun s₂ h₂ => (h₂.wf_prefix hw).2, fun code s₁ out hi => ?_⟩
  cases hr : rewriteProgram s code with
  | error e => simp [installPatchedSeccompFilterArch, hr] at hi
  | ok p =>
    obtain ⟨s₁', code'⟩ := p
    simp only [installPatchedSeccompFilterArch, hr, Except.ok.injEq, Prod.mk.injEq,
      Option.some.injEq] at hi
    obtain ⟨rfl, rfl⟩ := hi
    obtain ⟨hw₁, -, hmap⟩ := rewriteProgram_spec hw hr
    refine ⟨code', rfl, hmap _ hw₁ (List.prefix_refl _), fun u hu hc => ?_⟩
    obtain ⟨hk, hlook⟩ := rewriteProgram_lookup hw hr u hu hc
    refine ⟨hk, fun hallow s₂ h₂ => ?_⟩
    obtain ⟨i, hl⟩ := hlook hallow
    obtain ⟨hw₂, hp₂⟩ := h₂.wf_prefix hw₁
    rw [rewriteK_of_lookup hallow hl]
    exact hw₂.tracedVerdict hallow (hw₁.lookup_mono hw₂ hp₂ hl)

/-- One install of the kill-everything filter from the empty rewriter. -/
theorem rewriter_invariant_all_runs_after_kill :
    Installs ⟨[⟨false, true, true⟩], fun _ _ _ => 0x70000010⟩ .empty
        ⟨fun k => if k = 0 then some 0 else none, [0]⟩ ∧
      (SeccompFilterRewriter.Wf ⟨fun k => if k = 0 then some 0 else none, [0]⟩ ∧
        List.Nodup [(0 : UInt32)] ∧
        (∀ s₂, Installs ⟨[⟨false, true, true⟩], fun _ _ _ => 0x70000010⟩
          ⟨fun k => if k = 0 then some 0 else none, [0]⟩ s₂ → [(0 : UInt32)] <+: s₂.indexToResult) ∧
        ∀ code s₁ out, installPatchedSeccompFilterArch
            ⟨[⟨false, true, true⟩], fun _ _ _ => 0x70000010⟩
            ⟨fun k => if k = 0 then some 0 else none, [0]⟩ (some code) = .ok (s₁, some out) →
          ∃ code', out = rdPagePrefix ⟨[⟨false, true, true⟩], fun _ _ _ => 0x70000010⟩ ++ code' ∧
            code' = code.map (retMap (rewriteK s₁)) ∧
            ∀ u ∈ code, bpfClass u.code = bpfRet → bpfRval u.code = bpfK ∧
              (u.k ≠ seccompRetAllow → ∀ s₂, Installs ⟨[⟨false, true, true⟩], fun _ _ _ => 0x70000010⟩
                s₁ s₂ → TracedVerdict s₂ u.k (rewriteK s₁ u.k))) :=
  have hi : Installs ⟨[⟨false, true, true⟩], fun _ _ _ => 0x70000010⟩ .empty
      ⟨fun k => if k = 0 then some 0 else none, [0]⟩ :=
    @Installs.step _ _ _ _ (some [⟨0x06, 0, 0, 0⟩]) _ rfl (.refl _)
  ⟨hi, rewriter_invariant_all_runs hi⟩

end RdCore.Seccomp
