import RdCore.Syscall.Prctl
import RdCore.Seccomp.Install

/-!
# RdCore — a thread group being recorded

While it records, rd prepares every syscall a task enters (`rec_prepare_syscall`)
and, when the syscall installs a seccomp filter, rewrites the filter and runs
the install in the task (`install_patched_seccomp_filter`). Both act on state
beyond the task: the session's `SeccompFilterRewriter`, the thread group's
dumpable flag, and, with `SECCOMP_FILTER_FLAG_TSYNC`, the seccomp status of
every task of the thread group. `RecordSession.Step` is one of these actions
at any task of the group; runs are any sequence of them, in any order.

`registers.rs` is not in the source: `Registers::syscall_failed` is taken to
be rr's, the result being an errno in `[-4095, -1]`.

Main results:

* `RecordSession.Step.evolves` — every step is one install step of the
  rewriter, and changes a task's TSC mode only to one of the two modes and its
  seccomp status only to 2;
* `RecordSession.inv_of_run` — every run keeps `RecordSession.Inv`: a `Wf`
  rewriter, and TSC modes and seccomp statuses rd can emulate;
* `RecordSession.installs_of_run` — the rewriters along a run are a sequence
  of `Installs`, so the rewriter's invariant holds of the session's;
* `RecordSession.seccompStatus_two_of_run` — a run keeps the tasks, and a
  seccomp status of 2 stays 2;
* `RecordSession.Step.dumpable_changed` — only `PR_SET_DUMPABLE` changes the
  thread group's dumpable flag;
* `RecordSession.installPatchedSeccompFilter_status` — what a filter install
  does to the statuses: 2 for the caller when the kernel accepts the filter,
  and for every task of the group when it was `seccomp(2)` with `TSYNC`;
* `RecordSession.getSeccomp_after_tsync` — after such a `TSYNC` install,
  `PR_GET_SECCOMP` in any task, at any later point, reports the filter.
-/

namespace RdCore.Syscall

open RdCore.Seccomp

/-! ## Installing the filter in the task -/

/-- `SECCOMP_FILTER_FLAG_TSYNC`. -/
def seccompFilterFlagTsync : Nat := 1

/-- `is_seccomp_syscall(syscallno, arch)`. -/
def isSeccompSyscall (syscallno : Int) : SupportedArch → Bool
  | .x86 => syscallno == 354
  | .x64 => syscallno == 317

/-- `Registers::syscall_failed()`: the result is an errno. -/
def Registers.syscallFailed (r : Registers) : Bool :=
  decide (-4096 < r.syscallResultSigned) && decide (r.syscallResultSigned < 0)

/-- `set_syscall_result(t, ret)`: `set_syscall_result_signed(ret)` on the
task's registers. -/
def RecordTask.setSyscallResult (t : RecordTask) (ret : Int) : RecordTask :=
  { t with tracee := t.tracee.setRegs (t.tracee.regs.setSyscallResult (ret % 2 ^ 64).toNat) }

/-- `t.regs_ref().original_syscallno().try_into().unwrap()`, into an `i32`. -/
def RecordTask.originalSyscallnoI32 (t : RecordTask) : Except String Int :=
  if -2 ^ 31 ≤ t.originalSyscallno ∧ t.originalSyscallno < 2 ^ 31 then .ok t.originalSyscallno
  else .error "called `Result::unwrap()` on an `Err` value: TryFromIntError(())"

/-- `pass_through_seccomp_filter(t)`: the original syscall runs in the task
as it is, and `ret`, the kernel's result, has to be an error. -/
def passThroughSeccompFilter (t : RecordTask) (ret : Int) : Except String RecordTask := do
  let _ ← t.originalSyscallnoI32
  let t := t.setSyscallResult ret
  if t.tracee.regs.syscallFailed then pure t
  else .error "assertion failed: t.regs_ref().syscall_failed()"

/-! ## The session -/

/-- A recording session with one thread group: the session's seccomp filter
rewriter, the thread group's `dumpable` flag and its tasks, `task_set()`. -/
structure RecordSession where
  seccompFilterRewriter : SeccompFilterRewriter
  dumpable : Bool
  taskSet : List RecordTask

namespace RecordSession

/-- `install_patched_seccomp_filter(t)` for the group's task `i`. `prog` is
the filter read from the task, none when it cannot be read, and `ret` is the
kernel's result of the syscall run in the task. After a successful install the
task's seccomp status is 2, and, for `seccomp(2)` with `TSYNC`, that of every
other task of the group (`task_set().iter_except(t)`). -/
def installPatchedSeccompFilter (s : RecordSession) (page : RdPage) (i : Fin s.taskSet.length)
    (prog : Option (List SockFilter)) (ret : Int) : Except String RecordSession :=
  let t := s.taskSet.get i
  match installPatchedSeccompFilterArch page s.seccompFilterRewriter prog with
  | .error e => .error e
  | .ok (_, none) => (fun t => { s with taskSet := s.taskSet.set i t }) <$> passThroughSeccompFilter t ret
  | .ok (rewriter, some _) => do
    let origSyscallno ← t.originalSyscallnoI32
    let arg2 := t.tracee.regs.arg 2
    let t := t.setSyscallResult ret
    if t.tracee.regs.syscallFailed then
      pure { s with seccompFilterRewriter := rewriter, taskSet := s.taskSet.set i t }
    else
      let tsync := isSeccompSyscall origSyscallno t.tracee.arch && arg2 &&& seccompFilterFlagTsync != 0
      pure { s with
        seccompFilterRewriter := rewriter
        taskSet := (s.taskSet.set i { t with prctlSeccompStatus := 2 }).mapIdx fun j u =>
          if tsync ∧ j ≠ i.val then { u with prctlSeccompStatus := 2 } else u }

/-- One action of the recorder at a task of the group: it prepares the
syscall the task entered, or it installs the seccomp filter of the task's
syscall. `doneInitialExec` is the session's. -/
inductive Step (page : RdPage) (doneInitialExec : Bool) : RecordSession → RecordSession → Prop
  | prepare {s : RecordSession} (i : Fin s.taskSet.length) {t' : RecordTask} {dumpable' : Bool}
      {sw : Switchable}
      (h : recPrepareSyscall (s.taskSet.get i) s.dumpable doneInitialExec = .ok (t', dumpable', sw)) :
      Step page doneInitialExec s { s with dumpable := dumpable', taskSet := s.taskSet.set i t' }
  | install {s s' : RecordSession} (i : Fin s.taskSet.length) (prog : Option (List SockFilter))
      (ret : Int) (h : s.installPatchedSeccompFilter page i prog ret = .ok s') :
      Step page doneInitialExec s s'

end RecordSession

/-! ## The install, lemma by lemma -/

theorem Registers.syscallResultSigned_setSyscallResult (r : Registers) {ret : Int}
    (h : -2 ^ 63 ≤ ret ∧ ret < 2 ^ 63) :
    (r.setSyscallResult (ret % 2 ^ 64).toNat).syscallResultSigned = ret := by
  have hlt : (ret % 2 ^ 64).toNat < UInt64.size := by simp only [UInt64.size]; omega
  simp only [Registers.syscallResultSigned, Registers.setSyscallResult, Nat.toUInt64,
    UInt64.toNat_ofNat_of_lt hlt]
  split_ifs <;> omega

/-- After `set_syscall_result(t, ret)` with an `isize` result, `syscall_failed()`
holds exactly when `ret` is an errno. -/
theorem RecordTask.syscallFailed_setSyscallResult (t : RecordTask) {ret : Int}
    (h : -2 ^ 63 ≤ ret ∧ ret < 2 ^ 63) :
    (t.setSyscallResult ret).tracee.regs.syscallFailed = decide (-4096 < ret ∧ ret < 0) := by
  simp only [Registers.syscallFailed, RecordTask.setSyscallResult, Tracee.setRegs_regs,
    Registers.syscallResultSigned_setSyscallResult _ h, Bool.decide_and]

theorem installPatchedSeccompFilterArch_none {page : RdPage} {s rw : SeccompFilterRewriter}
    {prog : Option (List SockFilter)} (h : installPatchedSeccompFilterArch page s prog = .ok (rw, none)) :
    prog = none ∧ rw = s := by
  cases prog with
  | none => cases h; exact ⟨rfl, rfl⟩
  | some code =>
    simp only [installPatchedSeccompFilterArch] at h
    split at h <;> simp at h

theorem installPatchedSeccompFilterArch_some {page : RdPage} {s rw : SeccompFilterRewriter}
    {prog : Option (List SockFilter)} {out : List SockFilter}
    (h : installPatchedSeccompFilterArch page s prog = .ok (rw, some out)) : prog.isSome := by
  cases prog with
  | none => cases h
  | some => rfl

theorem RecordTask.originalSyscallnoI32_eq_ok {t : RecordTask} {o : Int} (h : t.originalSyscallnoI32 = .ok o) :
    o = t.originalSyscallno := by
  unfold RecordTask.originalSyscallnoI32 at h
  split_ifs at h
  exact (Except.ok.inj h).symm

theorem passThroughSeccompFilter_eq_ok {t t' : RecordTask} {ret : Int}
    (h : passThroughSeccompFilter t ret = .ok t') :
    t' = t.setSyscallResult ret ∧ (t.setSyscallResult ret).tracee.regs.syscallFailed = true := by
  unfold passThroughSeccompFilter at h
  cases ho : t.originalSyscallnoI32 with
  | error e => rw [ho] at h; cases h
  | ok o =>
    rw [ho, Except.ok_bind] at h
    dsimp only at h
    split at h
    · exact ⟨(Except.ok.inj h).symm, ‹_›⟩
    · cases h

/-- The install asks the kernel for `TSYNC`: the task entered `seccomp(2)`
with `SECCOMP_FILTER_FLAG_TSYNC` in its flags. -/
def RecordTask.tsync (t : RecordTask) : Bool :=
  isSeccompSyscall t.originalSyscallno t.tracee.arch && t.tracee.regs.arg 2 &&& seccompFilterFlagTsync != 0

/-! ## What a step does to a task -/

/-- What rd may do to a task while it records: set its TSC mode to one of
the two modes, and its seccomp status to 2. -/
def RecordTask.Evolves (u u' : RecordTask) : Prop :=
  (u'.tscMode = u.tscMode ∨ u'.tscMode = prTscEnable ∨ u'.tscMode = prTscSigsegv) ∧
    (u'.prctlSeccompStatus = u.prctlSeccompStatus ∨ u'.prctlSeccompStatus = 2)

/-- A TSC mode rd can emulate and a seccomp status `PR_GET_SECCOMP` can report. -/
structure RecordTask.Wf (t : RecordTask) : Prop where
  tscMode : t.tscMode = prTscEnable ∨ t.tscMode = prTscSigsegv
  status : t.prctlSeccompStatus = 0 ∨ t.prctlSeccompStatus = 2

namespace RecordTask

variable {u u' u'' : RecordTask}

theorem Evolves.refl (u : RecordTask) : u.Evolves u := ⟨.inl rfl, .inl rfl⟩

theorem Evolves.trans (h₁ : u.Evolves u') (h₂ : u'.Evolves u'') : u.Evolves u'' :=
  ⟨h₂.1.elim (fun h => h ▸ h₁.1) .inr, h₂.2.elim (fun h => h ▸ h₁.2) .inr⟩

theorem Evolves.wf (h : u.Evolves u') (hu : u.Wf) : u'.Wf :=
  ⟨h.1.elim (fun h => h ▸ hu.tscMode) id, h.2.elim (fun h => h ▸ hu.status) .inr⟩

/-- A seccomp status of 2 stays 2. -/
theorem Evolves.status_two (h : u.Evolves u') (h2 : u.prctlSeccompStatus = 2) : u'.prctlSeccompStatus = 2 :=
  h.2.elim (·.trans h2) id

end RecordTask

theorem forall₂_set {α : Type} {R : α → α → Prop} (hR : ∀ a, R a a) {l : List α} {i : Nat} {b : α}
    (hi : i < l.length) (h : R l[i] b) : List.Forall₂ R l (l.set i b) := by
  rw [List.forall₂_iff_get]
  refine ⟨(List.length_set ..).symm, fun j _ _ => ?_⟩
  simp only [List.get_eq_getElem, List.getElem_set]
  split_ifs with hj
  · exact hj ▸ h
  · exact hR _

theorem forall₂_trans {α : Type} {R : α → α → Prop} (htr : ∀ {a b c}, R a b → R b c → R a c)
    {l₁ l₂ l₃ : List α} (h₁ : List.Forall₂ R l₁ l₂) (h₂ : List.Forall₂ R l₂ l₃) :
    List.Forall₂ R l₁ l₃ := by
  induction h₁ generalizing l₃ with
  | nil => cases h₂; exact .nil
  | cons hab _ ih =>
    cases h₂ with
    | cons hbc t => exact .cons (htr hab hbc) (ih t)

theorem forall₂_exists_of_mem {α β : Type} {R : α → β → Prop} {l : List α} {l' : List β}
    (h : List.Forall₂ R l l') {b : β} (hb : b ∈ l') : ∃ a ∈ l, R a b := by
  induction h with
  | nil => cases hb
  | cons hab _ ih =>
    rcases List.mem_cons.mp hb with rfl | hb
    · exact ⟨_, List.mem_cons_self _ _, hab⟩
    · obtain ⟨a, ha, h⟩ := ih hb
      exact ⟨a, List.mem_cons_of_mem _ ha, h⟩

namespace RecordSession

/-! ## Runs of the recorder -/

/-- What every step keeps: a well-formed rewriter, and tasks whose TSC mode
and seccomp status rd can emulate. -/
structure Inv (s : RecordSession) : Prop where
  rewriter : s.seccompFilterRewriter.Wf
  tasks : ∀ t ∈ s.taskSet, t.Wf

variable {s s' : RecordSession} {page : RdPage} {d : Bool}

/-- Everything a successful `install_patched_seccomp_filter` can do: the
rewriter takes one install step, the dumpable flag stays, a filter rd cannot
read is run as it is and must fail, and the tasks are as follows. -/
theorem installPatchedSeccompFilter_eq_ok {i : Fin s.taskSet.length} {prog : Option (List SockFilter)}
    {ret : Int} (h : s.installPatchedSeccompFilter page i prog ret = .ok s') :
    (∃ out, installPatchedSeccompFilterArch page s.seccompFilterRewriter prog =
        .ok (s'.seccompFilterRewriter, out)) ∧
      s'.dumpable = s.dumpable ∧
      (prog = none → ((s.taskSet.get i).setSyscallResult ret).tracee.regs.syscallFailed = true) ∧
      s'.taskSet =
        if prog.isSome ∧ ((s.taskSet.get i).setSyscallResult ret).tracee.regs.syscallFailed = false then
        (s.taskSet.set i { (s.taskSet.get i).setSyscallResult ret with prctlSeccompStatus := 2 }).mapIdx
          fun j u => if (s.taskSet.get i).tsync ∧ j ≠ i.val then { u with prctlSeccompStatus := 2 } else u
      else s.taskSet.set i ((s.taskSet.get i).setSyscallResult ret) := by
  unfold installPatchedSeccompFilter at h
  dsimp only at h
  split at h
  · cases h
  · next rw hi =>
    obtain ⟨rfl, rfl⟩ := installPatchedSeccompFilterArch_none hi
    obtain ⟨t', ht', rfl⟩ := Except.map_eq_ok h
    obtain ⟨rfl, hf⟩ := passThroughSeccompFilter_eq_ok ht'
    exact ⟨⟨_, hi⟩, rfl, fun _ => hf, by simp⟩
  · next rw code hi =>
    have hp := installPatchedSeccompFilterArch_some hi
    cases ho : (s.taskSet.get i).originalSyscallnoI32 with
    | error e => rw [ho] at h; cases h
    | ok o =>
      rw [ho, Except.ok_bind] at h
      obtain rfl := RecordTask.originalSyscallnoI32_eq_ok ho
      have hn : prog ≠ none := by rintro rfl; cases hp
      split at h <;> obtain rfl := Except.ok.inj h <;> refine ⟨⟨_, hi⟩, rfl, fun h => absurd h hn, ?_⟩
      · next hfail => rw [if_neg fun hc => absurd (hc.2.symm.trans hfail) Bool.false_ne_true]
      · next hfail => rw [if_pos ⟨hp, by simpa using hfail⟩]; rfl

/-- A successful install only evolves the tasks. -/
theorem installPatchedSeccompFilter_evolves {i : Fin s.taskSet.length} {prog : Option (List SockFilter)}
    {ret : Int} (h : s.installPatchedSeccompFilter page i prog ret = .ok s') :
    List.Forall₂ RecordTask.Evolves s.taskSet s'.taskSet := by
  rw [(installPatchedSeccompFilter_eq_ok h).2.2.2]
  split_ifs
  · refine List.forall₂_iff_get.mpr ⟨by simp, fun j _ _ => ?_⟩
    simp only [List.get_eq_getElem, List.getElem_mapIdx, List.getElem_set]
    split_ifs with h₁ h₂ h₂
    · exact absurd h₂.symm h₁.2
    · exact ⟨.inl rfl, .inr rfl⟩
    · subst h₂; exact ⟨.inl rfl, .inr rfl⟩
    · exact .refl _
  · exact forall₂_set RecordTask.Evolves.refl i.2 ⟨.inl rfl, .inl rfl⟩

/-- **Every step of the recorder.** The rewriter takes one install step (an
unreadable filter for a preparation) and each task of the group only
evolves. -/
theorem Step.evolves (h : Step page d s s') :
    (∃ prog out, installPatchedSeccompFilterArch page s.seccompFilterRewriter prog =
        .ok (s'.seccompFilterRewriter, out)) ∧
      List.Forall₂ RecordTask.Evolves s.taskSet s'.taskSet := by
  cases h with
  | prepare i h =>
    obtain ⟨hs, ht, -⟩ := recPrepareSyscall_task h
    exact ⟨⟨none, none, rfl⟩, forall₂_set RecordTask.Evolves.refl i.2 ⟨ht, .inl hs⟩⟩
  | install i prog ret h =>
    obtain ⟨⟨out, hi⟩, -⟩ := installPatchedSeccompFilter_eq_ok h
    exact ⟨⟨prog, out, hi⟩, installPatchedSeccompFilter_evolves h⟩

theorem Step.inv (hi : Inv s) (h : Step page d s s') : Inv s' :=
  let ⟨⟨_, _, hw⟩, hf⟩ := h.evolves
  ⟨(install_spec hi.rewriter hw).1, fun _ ht =>
    let ⟨u, hu, he⟩ := forall₂_exists_of_mem hf ht
    he.wf (hi.tasks u hu)⟩

/-- Along a run each task of the group only evolves. -/
theorem evolves_of_run (hr : Relation.ReflTransGen (Step page d) s s') :
    List.Forall₂ RecordTask.Evolves s.taskSet s'.taskSet := by
  induction hr with
  | refl => exact List.forall₂_same.2 fun u _ => .refl u
  | tail _ h ih => exact forall₂_trans (R := RecordTask.Evolves) RecordTask.Evolves.trans ih h.evolves.2

/-- An rd page with no privileged syscall. -/
def noPage : RdPage := ⟨[], fun _ _ _ => 0⟩

/-- A dumpable thread group of two x64 tasks recorded with the empty
rewriter: task 0 has entered `seccomp(SECCOMP_SET_MODE_FILTER,
SECCOMP_FILTER_FLAG_TSYNC, prog)` and task 1 `prctl(PR_GET_SECCOMP)`. -/
def tsyncPair : RecordSession :=
  ⟨.empty, true,
    [⟨⟨1, .x64, fun _ => 0, ⟨fun i => if i = 1 ∨ i = 2 then 1 else 0, 0⟩, 0x7000, 4096⟩,
      ⟨317, .x64⟩, 317, 0, none, 1, 0⟩,
     RecordTask.enteringPrctl 21 0 1]⟩

/-- **Every run keeps the invariant**, whatever the tasks do and in whatever
order rd serves them. -/
theorem inv_of_run (hi : Inv s) (hr : Relation.ReflTransGen (Step page d) s s') : Inv s' := by
  induction hr with
  | refl => exact hi
  | tail _ h ih => exact h.inv ih

/-- The invariant holds of `tsyncPair` and after its `TSYNC` install. -/
theorem inv_of_run_tsyncPair :
    ∃ s', Inv tsyncPair ∧ Relation.ReflTransGen (Step noPage true) tsyncPair s' ∧ Inv s' :=
  have hi : Inv tsyncPair := ⟨SeccompFilterRewriter.wf_empty, by
    simp only [tsyncPair, List.mem_cons, List.mem_singleton, List.not_mem_nil, or_false]
    rintro t (rfl | rfl) <;> exact ⟨.inl rfl, .inl rfl⟩⟩
  have hr : Relation.ReflTransGen (Step noPage true) tsyncPair _ :=
    .single (.install (s := tsyncPair) ⟨0, by decide⟩ (some []) 0 rfl)
  ⟨_, hi, hr, inv_of_run hi hr⟩

/-- **The session refines the rewriter.** The rewriters along a run of the
recorder are a sequence of installs, so every fact about `Installs` holds of
the session's rewriter. -/
theorem installs_of_run (hr : Relation.ReflTransGen (Step page d) s s') :
    Installs page s.seccompFilterRewriter s'.seccompFilterRewriter := by
  induction hr using Relation.ReflTransGen.head_induction_on with
  | refl => exact .refl _
  | head h _ ih =>
    obtain ⟨⟨_, _, hi⟩, -⟩ := h.evolves
    exact .step hi ih

/-- The `TSYNC` install of `tsyncPair` is an install of its rewriter. -/
theorem installs_of_run_tsyncPair :
    ∃ s', Relation.ReflTransGen (Step noPage true) tsyncPair s' ∧
      Installs noPage tsyncPair.seccompFilterRewriter s'.seccompFilterRewriter :=
  have hr : Relation.ReflTransGen (Step noPage true) tsyncPair _ :=
    .single (.install (s := tsyncPair) ⟨0, by decide⟩ (some []) 0 rfl)
  ⟨_, hr, installs_of_run hr⟩

/-- **A seccomp filter is never uninstalled.** Every run keeps the tasks,
and a task whose seccomp status is 2 keeps it through every later step. -/
theorem seccompStatus_two_of_run (hr : Relation.ReflTransGen (Step page d) s s') {j : Nat}
    (hj : j < s.taskSet.length) (h2 : s.taskSet[j].prctlSeccompStatus = 2) :
    s'.taskSet.length = s.taskSet.length ∧
      ∃ hj' : j < s'.taskSet.length, s'.taskSet[j].prctlSeccompStatus = 2 := by
  have hf := evolves_of_run hr
  have hj' : j < s'.taskSet.length := hf.length_eq ▸ hj
  exact ⟨hf.length_eq.symm, hj', (hf.get hj hj').status_two h2⟩

/-- Task 1 of `tsyncPair` keeps the status the `TSYNC` install gave it
while it prepares its `PR_GET_SECCOMP`. -/
theorem seccompStatus_two_of_run_tsyncPair :
    ∃ s₁ s₂, tsyncPair.installPatchedSeccompFilter noPage ⟨0, by decide⟩ (some []) 0 = .ok s₁ ∧
      Relation.ReflTransGen (Step noPage true) s₁ s₂ ∧
      ∃ hj : 1 < s₁.taskSet.length, s₁.taskSet[1].prctlSeccompStatus = 2 ∧
        s₂.taskSet.length = s₁.taskSet.length ∧
        ∃ hj' : 1 < s₂.taskSet.length, s₂.taskSet[1].prctlSeccompStatus = 2 :=
  have hinst : tsyncPair.installPatchedSeccompFilter noPage ⟨0, by decide⟩ (some []) 0 = .ok _ := rfl
  have hr : Relation.ReflTransGen (Step noPage true) _ _ := .single (.prepare ⟨1, by decide⟩ (by rfl))
  ⟨_, _, hinst, hr, by decide, rfl, seccompStatus_two_of_run hr (by decide) rfl⟩

/-! ## The dumpable flag and the seccomp statuses -/

/-- The seccomp statuses after a successful install, task by task. -/
theorem installPatchedSeccompFilter_statuses {i : Fin s.taskSet.length} {prog : Option (List SockFilter)}
    {ret : Int} (hret : -2 ^ 63 ≤ ret ∧ ret < 2 ^ 63)
    (h : s.installPatchedSeccompFilter page i prog ret = .ok s')
    (j : Nat) :
    s'.taskSet[j]?.map RecordTask.prctlSeccompStatus = s.taskSet[j]?.map fun u =>
      if prog.isSome ∧ ¬(-4096 < ret ∧ ret < 0) ∧ (j = i.val ∨ (s.taskSet.get i).tsync) then 2
      else u.prctlSeccompStatus := by
  have hts := (installPatchedSeccompFilter_eq_ok h).2.2.2
  rw [RecordTask.syscallFailed_setSyscallResult _ hret] at hts
  rw [hts]
  by_cases hc : prog.isSome ∧ ¬(-4096 < ret ∧ ret < 0)
  · rw [if_pos (by simpa using hc)]
    simp only [List.getElem?_mapIdx, Option.map_map]
    by_cases hji : i.val = j
    · subst hji
      simp [List.getElem?_eq_getElem i.2, hc]
    · simp only [List.getElem?_set_ne hji, Ne.symm hji, ne_eq, false_or, hc, not_false_eq_true, true_and,
        and_true, List.get_eq_getElem]
      congr 1; funext u; split_ifs <;> rfl
  · have hf : ∀ u : RecordTask, (if prog.isSome ∧ ¬(-4096 < ret ∧ ret < 0) ∧
        (j = i.val ∨ (s.taskSet.get i).tsync) then 2 else u.prctlSeccompStatus) = u.prctlSeccompStatus :=
      fun _ => if_neg fun h => hc ⟨h.1, h.2.1⟩
    rw [if_neg (by simpa using hc), funext hf]
    by_cases hji : i.val = j
    · subst hji
      rw [List.getElem?_set_self i.2, List.getElem?_eq_getElem i.2]; rfl
    · rw [List.getElem?_set_ne hji]

/-- **Only `PR_SET_DUMPABLE` changes the dumpable flag.** A step that changes
the thread group's dumpable flag prepares a task's prctl `PR_SET_DUMPABLE`
with argument 0 or 1, and the flag becomes whether the argument is 1. -/
theorem Step.dumpable_changed (h : Step page d s s') (hne : s'.dumpable ≠ s.dumpable) :
    ∃ t ∈ s.taskSet, t.ev.number = t.ev.arch.prctl ∧ t.prctlArm = .setDumpable ∧
      (t.tracee.regs.arg 2 = 0 ∨ t.tracee.regs.arg 2 = 1) ∧
      s'.dumpable = decide (t.tracee.regs.arg 2 = 1) := by
  cases h with
  | install i prog ret h => exact absurd (installPatchedSeccompFilter_eq_ok h).2.1 hne
  | prepare i h =>
    obtain ⟨-, -, hd | ⟨hno, hd⟩⟩ := recPrepareSyscall_task h
    · exact absurd hd hne
    refine ⟨_, List.get_mem _ _ _, hno, ?_⟩
    unfold PrctlArm.dumpableAfter at hd
    split_ifs at hd with h₀ h₁
    · exact ⟨h₀.1, .inl h₀.2, by rw [hd, h₀.2]; rfl⟩
    · exact ⟨h₁.1, .inr h₁.2, by rw [hd, h₁.2]; rfl⟩
    · exact absurd hd hne

/-- `prctl(PR_SET_DUMPABLE, 1)` makes a thread group dumpable. -/
theorem dumpable_changed_setDumpable :
    ∃ s', Step noPage true ⟨.empty, false, [RecordTask.enteringPrctl 4 1 1]⟩ s' ∧
      s'.dumpable ≠ false ∧
      ∃ t ∈ [RecordTask.enteringPrctl 4 1 1], t.ev.number = t.ev.arch.prctl ∧
        t.prctlArm = .setDumpable ∧
        (t.tracee.regs.arg 2 = 0 ∨ t.tracee.regs.arg 2 = 1) ∧
        s'.dumpable = decide (t.tracee.regs.arg 2 = 1) :=
  have h : Step noPage true ⟨.empty, false, [RecordTask.enteringPrctl 4 1 1]⟩ _ :=
    .prepare ⟨0, by decide⟩ rfl
  ⟨_, h, by decide, Step.dumpable_changed h (by decide)⟩

/-- **A filter install sets the seccomp statuses as the kernel installed
the filter.** A filter rd cannot read is run as it is, and the install
succeeds only if the kernel refused it. When rd has read and rewritten the
filter and the kernel accepted it, the status of the task becomes 2, and for
`seccomp(2)` with `TSYNC` that of every task of the group; every other status
is unchanged, and no task is added or removed. -/
theorem installPatchedSeccompFilter_status {i : Fin s.taskSet.length} {prog : Option (List SockFilter)}
    {ret : Int} (hret : -2 ^ 63 ≤ ret ∧ ret < 2 ^ 63)
    (h : s.installPatchedSeccompFilter page i prog ret = .ok s') :
    (prog = none → -4096 < ret ∧ ret < 0) ∧
      ∀ j, s'.taskSet[j]?.map RecordTask.prctlSeccompStatus = s.taskSet[j]?.map fun u =>
        if prog.isSome ∧ ¬(-4096 < ret ∧ ret < 0) ∧ (j = i.val ∨ (s.taskSet.get i).tsync) then 2
        else u.prctlSeccompStatus := by
  refine ⟨fun hn => ?_, installPatchedSeccompFilter_statuses hret h⟩
  simpa [RecordTask.syscallFailed_setSyscallResult _ hret] using (installPatchedSeccompFilter_eq_ok h).2.2.1 hn

/-- The `TSYNC` install of `tsyncPair`, accepted by the kernel, gives both
tasks status 2. -/
theorem installPatchedSeccompFilter_status_tsyncPair :
    ∃ s', (-2 ^ 63 ≤ (0 : Int) ∧ (0 : Int) < 2 ^ 63) ∧
      tsyncPair.installPatchedSeccompFilter noPage ⟨0, by decide⟩ (some []) 0 = .ok s' ∧
      ((some [] : Option (List SockFilter)) = none → -4096 < (0 : Int) ∧ (0 : Int) < 0) ∧
      ∀ j, s'.taskSet[j]?.map RecordTask.prctlSeccompStatus = tsyncPair.taskSet[j]?.map fun u =>
        if (some [] : Option (List SockFilter)).isSome ∧ ¬(-4096 < (0 : Int) ∧ (0 : Int) < 0) ∧
          (j = 0 ∨ (tsyncPair.taskSet.get ⟨0, by decide⟩).tsync) then 2 else u.prctlSeccompStatus :=
  have hinst : tsyncPair.installPatchedSeccompFilter noPage ⟨0, by decide⟩ (some []) 0 = .ok _ := rfl
  ⟨_, by decide, hinst, installPatchedSeccompFilter_status (by decide) hinst⟩

/-- **After a `TSYNC` install every task of the group reports the filter.**
Once a task's `seccomp(2)` with `SECCOMP_FILTER_FLAG_TSYNC` has installed a
filter the kernel accepted, `PR_GET_SECCOMP` entered by any task of the group,
at any later point of any run, is emulated with `SECCOMP_MODE_FILTER`. -/
theorem getSeccomp_after_tsync {s₁ s₂ : RecordSession} {i : Fin s.taskSet.length} {code : List SockFilter}
    {ret : Int} (hret : -2 ^ 63 ≤ ret ∧ ret < 2 ^ 63) (hok : ¬(-4096 < ret ∧ ret < 0))
    (htsync : (s.taskSet.get i).tsync = true)
    (hinst : s.installPatchedSeccompFilter page i (some code) ret = .ok s₁)
    (hrun : Relation.ReflTransGen (Step page d) s₁ s₂) {j : Nat} {t : RecordTask}
    (ht : s₂.taskSet[j]? = some t)
    (hs : t.syscallState = none) (hno : t.ev.number = t.ev.arch.prctl)
    (hveto : t.originalSyscallno ≠ seccompMagicSkipOriginalSyscallno) (hdesched : t.deschedRec = 0)
    (harm : t.prctlArm = .getSeccomp) :
    ∃ t' dumpable' ss, recPrepareSyscall t s₂.dumpable d = .ok (t', dumpable', .PreventSwitch) ∧
      t'.syscallState = some ss ∧ ss.st.shouldEmulateResult = true ∧
      ss.st.emulatedResult = seccompModeFilter := by
  have hf := evolves_of_run hrun
  obtain ⟨hj₂, rfl⟩ := List.getElem?_eq_some_iff.mp ht
  have hj₁ : j < s₁.taskSet.length := hf.length_eq ▸ hj₂
  have h₁ := installPatchedSeccompFilter_statuses hret hinst j
  rw [List.getElem?_eq_getElem hj₁, Option.map_some', eq_comm, Option.map_eq_some'] at h₁
  obtain ⟨u, -, hu⟩ := h₁
  rw [if_pos ⟨rfl, hok, .inr htsync⟩] at hu
  have hst : s₂.taskSet[j].prctlSeccompStatus = 2 := (hf.get hj₁ hj₂).status_two hu.symm
  obtain ⟨p', hspec, hprep⟩ := recPrepareSyscall_prctl_spec hs hno hveto hdesched s₂.dumpable d
  have hem : (s₂.taskSet[j].entryState s₂.dumpable).arm.emulated
      (s₂.taskSet[j].entryState s₂.dumpable).arg2 s₂.dumpable s₂.taskSet[j].prctlSeccompStatus =
        some seccompModeFilter := by
    simp only [Preparing.arm, RecordTask.entryState, harm, PrctlArm.emulated, hst]; rfl
  refine ⟨_, _, _, hprep, rfl, ?_, hspec.emulatedResult _ hem⟩
  rw [hspec.shouldEmulateResult ⟨rfl, rfl⟩]
  exact congrArg Option.isSome hem

/-- After the `TSYNC` install of task 0 of `tsyncPair`, and a second
install by task 0 that the kernel rejects with `EINVAL`, task 1's
`PR_GET_SECCOMP` reports `SECCOMP_MODE_FILTER`. -/
theorem getSeccomp_after_tsync_pair :
    ∃ s₁ s₂ t, (-2 ^ 63 ≤ (0 : Int) ∧ (0 : Int) < 2 ^ 63) ∧ ¬(-4096 < (0 : Int) ∧ (0 : Int) < 0) ∧
      (tsyncPair.taskSet.get ⟨0, by decide⟩).tsync = true ∧
      tsyncPair.installPatchedSeccompFilter noPage ⟨0, by decide⟩ (some []) 0 = .ok s₁ ∧
      Step noPage true s₁ s₂ ∧ s₂.taskSet[1]? = some t ∧
      t.syscallState = none ∧ t.ev.number = t.ev.arch.prctl ∧
      t.originalSyscallno ≠ seccompMagicSkipOriginalSyscallno ∧ t.deschedRec = 0 ∧
      t.prctlArm = .getSeccomp ∧
      ∃ t' dumpable' ss, recPrepareSyscall t s₂.dumpable true = .ok (t', dumpable', .PreventSwitch) ∧
        t'.syscallState = some ss ∧ ss.st.shouldEmulateResult = true ∧
        ss.st.emulatedResult = seccompModeFilter :=
  have hinst : tsyncPair.installPatchedSeccompFilter noPage ⟨0, by decide⟩ (some []) 0 = .ok _ := rfl
  ⟨_, _, _, by decide, by decide, rfl, hinst, .install ⟨0, Nat.zero_lt_succ _⟩ (some []) (-22) (by rfl), by rfl, by rfl,
    by rfl, by decide, by rfl, by decide,
    getSeccomp_after_tsync (j := 1) (by decide) (by decide) (by rfl) hinst
      (.single (.install ⟨0, Nat.zero_lt_succ _⟩ (some []) (-22) (by rfl))) (by rfl) (by rfl) (by rfl) (by decide) (by rfl)
      (by decide)⟩

end RecordSession

end RdCore.Syscall
