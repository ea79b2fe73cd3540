import RdCore.Gdb.Server

/-!
# RdCore — restarting a debugging session

What `restart_session` and `activate_debugger` do to the explicit pins of the
timeline, what a restart from an unknown checkpoint leaves behind, and when the
replay loop of a restart from an event ends in its assertion.

**Pins.** Every checkpoint the server holds should keep its mark pinned, and
dropping one should release its pin: the explicit count of each mark should be
the number of explicit records at it (`PinsMatch`). Restoring a checkpoint
keeps this, since it releases the pin of the restart checkpoint it replaces
(`restartSession_pinsMatch`, and over whole runs `runOps_pinsMatch_of_restores`).
`activate_debugger` replaces the restart checkpoint without releasing its pin,
so each activation over an explicit restart checkpoint leaves exactly that pin
behind (`activateDebugger_explicitCheckpoints`). A connection accepted by
`serve_replay` and a restart from an event, which ends in `activate_debugger`,
both activate.

**Unknown checkpoint.** Before it looks the id up, `restart_session` has
already removed the breakpoints and watchpoints and left the end state.

**Replay loop.** `final_event` is `u64::MAX` in every state a server reaches
(`runOps_new_finalEvent`), so the clamp `min(final_event - 1, n)` keeps `n`.
The loop ends in its `debug_assert_ne!` exactly when no frame from the seek
position on is a stop point (`replayToTarget_exited_iff`): the target process
has exited before the event, or the event lies beyond the trace.

Main results:

* `GdbServer.activateDebugger_explicitCheckpoints` and
  `GdbServer.activateDebugger_not_pinsMatch` — activation leaks the pin of an
  explicit restart checkpoint;
* `GdbServer.restoreCheckpoint_pinsMatch`, `GdbServer.restartSession_pinsMatch`
  and `GdbServer.runOps_pinsMatch_of_restores` — restores keep the pins;
* `GdbServer.replayToTarget_exited_iff` — when the replay loop asserts.
-/

namespace RdCore.Gdb

/-- Whether a checkpoint record holds an explicit pin at mark `m`. -/
def Checkpoint.pinsAt (c : Checkpoint) (m : Nat) : Bool :=
  c.isExplicit == .Explicit && m == c.mark

@[simp]
theorem Checkpoint.countP_pinsAt_singleton (c : Checkpoint) (m : Nat) :
    [c].countP (fun c => c.pinsAt m) = if c.isExplicit = .Explicit ∧ m = c.mark then 1 else 0 := by
  simp [List.countP_cons, pinsAt]

namespace GdbServer

/-! ## Pins and checkpoint records -/

/-- The checkpoint records the server holds: `debugger_restart_checkpoint` and
the values of `checkpoints`. -/
def checkpointRecords (s : GdbServer) : List Checkpoint :=
  s.debuggerRestartCheckpoint.toList ++ s.checkpoints.values

/-- The number of explicit records at mark `m`. -/
def explicitRecordsAt (s : GdbServer) (m : Nat) : Nat :=
  s.checkpointRecords.countP fun c => c.pinsAt m

/-- The pin count of every mark is the number of explicit records at it. -/
def PinsMatch (s : GdbServer) : Prop :=
  ∀ m, s.timeline.explicitCheckpoints m = s.explicitRecordsAt m

/-- Every record is explicit exactly when a checkpoint can be added at its
mark, as `activate_debugger` makes its restart checkpoints. -/
def RecordsAddable (s : GdbServer) : Prop :=
  ∀ c ∈ s.checkpointRecords, (c.isExplicit = .Explicit ↔ canAddAt s.timeline.trace c.mark = true)

variable {s s' : GdbServer}

theorem explicitRecordsAt_eq (m : Nat) :
    s.explicitRecordsAt m =
      s.debuggerRestartCheckpoint.toList.countP (fun c => c.pinsAt m) +
        s.checkpoints.values.countP fun c => c.pinsAt m :=
  List.countP_append _ _ _

/-- **Activating the debugger leaks the replaced pin**: from a state whose pins
match its records, each mark's count afterwards exceeds its explicit records by
the pin the replaced restart checkpoint held there. -/
theorem activateDebugger_explicitCheckpoints (hm : s.PinsMatch) (h : s.activateDebugger = .ok s')
    (m : Nat) :
    s'.timeline.explicitCheckpoints m =
      s'.explicitRecordsAt m + s.debuggerRestartCheckpoint.toList.countP fun c => c.pinsAt m := by
  obtain ⟨f, -, rfl⟩ := activateDebugger_ok h
  simp only [ReplayTimeline.addExplicitCheckpoint_explicitCheckpoints, hm m, explicitRecordsAt_eq,
    Option.toList_some, Checkpoint.countP_pinsAt_singleton]
  cases s.timeline.canAddCheckpoint <;> simp only [ite_true, ite_false, reduceCtorEq, false_and, true_and] <;>
    omega

/-- Activating over no restart checkpoint keeps the pins. -/
theorem activateDebugger_pinsMatch_of_none (hm : s.PinsMatch) (hn : s.debuggerRestartCheckpoint = none)
    (h : s.activateDebugger = .ok s') : s'.PinsMatch := fun m => by
  rw [activateDebugger_explicitCheckpoints hm h m, hn]
  rfl

/-- **Activating over an explicit restart checkpoint breaks the pins.** -/
theorem activateDebugger_not_pinsMatch {c : Checkpoint} (hm : s.PinsMatch)
    (hc : s.debuggerRestartCheckpoint = some c) (he : c.isExplicit = .Explicit)
    (h : s.activateDebugger = .ok s') : ¬ s'.PinsMatch := fun hm' => by
  have := activateDebugger_explicitCheckpoints hm h c.mark
  rw [← hm' c.mark, hc] at this
  simp [he] at this

/-- A trace of one task of process 10 whose two frames both allow a checkpoint. -/
def twoFrameTrace : List TraceFrame :=
  [⟨1, ⟨1, 10, true, 1⟩, true, false, true, false⟩, ⟨2, ⟨1, 10, true, 1⟩, true, false, true, false⟩]

/-- A second activation after a connection to a new server, whose restart
checkpoint is explicit. -/
theorem activateDebugger_not_pinsMatch_reconnect :
    ∃ s c s', (GdbServer.new twoFrameTrace 0 ⟨none, false, 0⟩).acceptConnection = .ok s ∧ s.PinsMatch ∧
      s.debuggerRestartCheckpoint = some c ∧ c.isExplicit = .Explicit ∧ s.activateDebugger = .ok s' ∧
      ¬ s'.PinsMatch := by
  refine ⟨_, _, _, rfl, ?hm, rfl, rfl, rfl, activateDebugger_not_pinsMatch ?hm rfl rfl rfl⟩
  exact activateDebugger_pinsMatch_of_none (fun _ => rfl) rfl
    (rfl : (GdbServer.new twoFrameTrace 0 ⟨none, false, 0⟩).acceptConnection = _)

theorem activateDebugger_recordsAddable (ha : s.RecordsAddable) (h : s.activateDebugger = .ok s') :
    s'.RecordsAddable := by
  obtain ⟨f, -, rfl⟩ := activateDebugger_ok h
  intro c hc
  rcases List.mem_append.mp hc with hc | hc
  · simp only [Option.toList, List.mem_singleton] at hc
    subst hc
    cases hca : s.timeline.canAddCheckpoint <;>
      simp_all [ReplayTimeline.canAddCheckpoint]
  · simpa using ha c (List.mem_append_right _ hc)

/-- **Restoring keeps the pins**: restoring a checkpoint the server holds
releases the replaced restart checkpoint's pin and pins the restored mark
exactly when the restored record is explicit. -/
theorem restoreCheckpoint_pinsMatch {c : Checkpoint} (hm : s.PinsMatch) (ha : s.RecordsAddable)
    (hc : c ∈ s.checkpointRecords) (h : s.restoreCheckpoint c = .ok s') :
    s'.PinsMatch ∧ s'.RecordsAddable := by
  obtain ⟨old, tl, hold, rfl, htr, -, hpins⟩ := restoreCheckpoint_ok h
  have hca := ha c hc
  refine ⟨fun m => ?_, fun c' hc' => ?_⟩
  · have hs := hm m
    rw [explicitRecordsAt_eq, hold] at hs
    rw [hpins, hs, explicitRecordsAt_eq]
    simp only [Option.toList_some, Checkpoint.countP_pinsAt_singleton, ← hca]
    omega
  · rw [htr]
    rcases List.mem_append.mp hc' with hc' | hc'
    · simp only [Option.toList, List.mem_singleton] at hc'
      exact hc' ▸ hca
    · exact ha c' (List.mem_append_right _ hc')

/-- A restart that fails its lookup keeps the pins and the records. -/
theorem restartSession_pinsMatch {req : GdbRestartRequest} (hk : req.type ≠ .RestartFromEvent)
    (hm : s.PinsMatch) (ha : s.RecordsAddable) (h : s.restartSession req = .ok s') :
    s'.PinsMatch ∧ s'.RecordsAddable := by
  obtain ⟨dbg, -, ⟨-, -, rfl⟩ | ⟨c, hc, hr⟩ | ⟨hev, -⟩⟩ := restartSession_ok h
  · exact ⟨hm, ha⟩
  · refine restoreCheckpoint_pinsMatch (by exact hm) (by exact ha) ?_ hr
    rcases hc with hc | hc
    · exact List.mem_append_right _ (CheckpointTable.mem_values_of_get hc)
    · simp [checkpointRecords, hc]
  · exact absurd hev hk

theorem restartSession_recordsAddable {req : GdbRestartRequest} (ha : s.RecordsAddable)
    (h : s.restartSession req = .ok s') : s'.RecordsAddable := by
  obtain ⟨dbg, -, ⟨-, -, rfl⟩ | ⟨c, hc, hr⟩ | ⟨-, hr⟩⟩ := restartSession_ok h
  · exact ha
  · obtain ⟨old, tl, -, rfl, htr, -⟩ := restoreCheckpoint_ok hr
    intro c' hc'
    rw [htr]
    rcases List.mem_append.mp hc' with hc' | hc'
    · simp only [Option.toList, List.mem_singleton] at hc'
      subst hc'
      rcases hc with hc | hc
      · exact ha _ (List.mem_append_right _ (CheckpointTable.mem_values_of_get hc))
      · exact ha _ (by simp [checkpointRecords, hc])
    · exact ha c' (List.mem_append_right _ hc')
  · obtain ⟨s₁, -, hl, ha₁⟩ := restartFromEvent_ok hr
    obtain ⟨m, b, rfl⟩ := replayToTarget_ok hl
    exact activateDebugger_recordsAddable (by exact ha) ha₁

/-- **Every operation keeps the records addable.** -/
theorem apply_recordsAddable {op : GdbOp} (ha : s.RecordsAddable) (h : s.apply op = .ok s') :
    s'.RecordsAddable := by
  cases op with
  | acceptConnection => exact activateDebugger_recordsAddable (by exact ha) h
  | restartSession req => exact restartSession_recordsAddable ha h

/-- A restart from event 1 after a connection to a new server. -/
theorem apply_recordsAddable_restart :
    ∃ s s', (GdbServer.new twoFrameTrace 0 ⟨none, false, 0⟩).acceptConnection = .ok s ∧ s.RecordsAddable ∧
      s.apply (.restartSession ⟨.RestartFromEvent, 1⟩) = .ok s' ∧ s'.RecordsAddable := by
  refine ⟨_, _, rfl, ?ha, rfl,
    apply_recordsAddable ?ha (rfl : GdbServer.apply _ (.restartSession ⟨.RestartFromEvent, 1⟩) = _)⟩
  exact activateDebugger_recordsAddable (by exact fun c hc => absurd hc (List.not_mem_nil c))
    (rfl : (GdbServer.new twoFrameTrace 0 ⟨none, false, 0⟩).acceptConnection = _)

/-- **Restores keep the pins over whole runs**: from a state whose pins match
its records, every run of restarts from checkpoints and from the previous
restart checkpoint reaches only such states. -/
theorem runOps_pinsMatch_of_restores {ops : List GdbOp}
    (hops : ∀ op ∈ ops, ∃ req, op = .restartSession req ∧ req.type ≠ .RestartFromEvent)
    (hm : s.PinsMatch) (ha : s.RecordsAddable) (h : s.runOps ops = .ok s') :
    s'.PinsMatch ∧ s'.RecordsAddable :=
  runOps_invariant (fun s => s.PinsMatch ∧ s.RecordsAddable)
    (fun op => ∃ req, op = .restartSession req ∧ req.type ≠ .RestartFromEvent)
    (fun ⟨_, hop, hk⟩ hs hst => by subst hop; exact restartSession_pinsMatch hk hs.1 hs.2 hst)
    hops ⟨hm, ha⟩ h

/-- A connection to a new server, then two restarts from the previous restart
checkpoint and one from an unknown checkpoint. -/
theorem runOps_pinsMatch_of_restores_after_connect :
    ∃ s s', (GdbServer.new twoFrameTrace 0 ⟨none, false, 0⟩).acceptConnection = .ok s ∧
      s.PinsMatch ∧ s.RecordsAddable ∧
      s.runOps [.restartSession ⟨.RestartFromPrevious, 0⟩, .restartSession ⟨.RestartFromPrevious, 0⟩,
        .restartSession ⟨.RestartFromCheckpoint, 42⟩] = .ok s' ∧
      s'.PinsMatch ∧ s'.RecordsAddable := by
  refine ⟨_, _, rfl, ?hm, ?ha, rfl, runOps_pinsMatch_of_restores (by simp) ?hm ?ha
    (rfl : GdbServer.runOps _ [.restartSession ⟨.RestartFromPrevious, 0⟩,
      .restartSession ⟨.RestartFromPrevious, 0⟩, .restartSession ⟨.RestartFromCheckpoint, 42⟩] = _)⟩
  · exact activateDebugger_pinsMatch_of_none (fun _ => rfl) rfl
      (rfl : (GdbServer.new twoFrameTrace 0 ⟨none, false, 0⟩).acceptConnection = _)
  · exact activateDebugger_recordsAddable (by exact fun c hc => absurd hc (List.not_mem_nil c))
      (rfl : (GdbServer.new twoFrameTrace 0 ⟨none, false, 0⟩).acceptConnection = _)

/-- A run from a new server: the only connection of the trace below is made at
the start of its first frame, where a checkpoint can be added. -/
theorem restart_from_event_leaks_pin :
    ∃ s, (GdbServer.new
        [⟨1, ⟨1, 10, true, 1⟩, true, false, true, false⟩,
          ⟨2, ⟨1, 10, true, 1⟩, true, false, true, false⟩] 0 ⟨none, false, 0⟩).runOps
        [.acceptConnection, .restartSession ⟨.RestartFromEvent, 1⟩] = .ok s ∧
      s.timeline.explicitCheckpoints 0 = 1 ∧ s.explicitRecordsAt 0 = 0 :=
  ⟨_, rfl, rfl, rfl⟩

/-! ## A restart from an unknown checkpoint -/

/-- **An unknown checkpoint id** makes `restart_session` notify the failure;
besides, the breakpoints and watchpoints are gone and the end state is left,
since both happen before the lookup. Everything else is unchanged. -/
theorem restartSession_unknown_checkpoint {dbg : GdbConnection} {id : Nat}
    (hdbg : s.dbg = some dbg) (hid : s.checkpoints.get id = none) :
    s.restartSession ⟨.RestartFromCheckpoint, id⟩ =
      .ok { s with
        dbg := some dbg.notifyRestartFailed
        inDebuggeeEndState := false
        timeline := s.timeline.removeBreakpointsAndWatchpoints } := by
  simp [restartSession, hdbg, hid]

/-- A connected server with a breakpoint and a watchpoint, in the debuggee's
end state, and no checkpoint 42. -/
theorem restartSession_unknown_checkpoint_fresh :
    ∃ (s : GdbServer) (dbg : GdbConnection), s.dbg = some dbg ∧ s.checkpoints.get 42 = none ∧
      s.timeline.breakpoints = [0x401000] ∧ s.timeline.watchpoints = [(0x7000, 8)] ∧
      s.inDebuggeeEndState = true ∧
      s.restartSession ⟨.RestartFromCheckpoint, 42⟩ =
        .ok { s with
          dbg := some dbg.notifyRestartFailed
          inDebuggeeEndState := false
          timeline := s.timeline.removeBreakpointsAndWatchpoints } :=
  ⟨{ GdbServer.new [] 0 ⟨none, false, 0⟩ with
      dbg := some ⟨[]⟩
      inDebuggeeEndState := true
      timeline := { ReplayTimeline.new [] 0 with breakpoints := [0x401000], watchpoints := [(0x7000, 8)] } },
    ⟨[]⟩, rfl, rfl, rfl, rfl, rfl, restartSession_unknown_checkpoint rfl rfl⟩

theorem restartSession_unknown_checkpoint_clears_breakpoints :
    ¬ ∀ (s : GdbServer) (dbg : GdbConnection) (id : Nat), s.dbg = some dbg →
      s.checkpoints.get id = none →
      ∃ s', s.restartSession ⟨.RestartFromCheckpoint, id⟩ = .ok s' ∧
        s'.dbg = some dbg.notifyRestartFailed ∧
        s'.timeline.current = s.timeline.current ∧
        s'.timeline.breakpoints = s.timeline.breakpoints ∧
        s'.timeline.watchpoints = s.timeline.watchpoints ∧
        s'.timeline.explicitCheckpoints = s.timeline.explicitCheckpoints ∧
        s'.checkpoints = s.checkpoints ∧
        s'.debuggerRestartCheckpoint = s.debuggerRestartCheckpoint ∧
        s'.interruptPending = s.interruptPending ∧
        s'.inDebuggeeEndState = s.inDebuggeeEndState ∧
        s'.target = s.target ∧
        s'.lastContinueTuid = s.lastContinueTuid ∧
        s'.lastQueryTuid = s.lastQueryTuid := by
  intro h
  obtain ⟨s', hs, -, -, hbp, -⟩ := h
    { GdbServer.new [] 0 ⟨none, false, 0⟩ with
      dbg := some ⟨[]⟩
      timeline := { ReplayTimeline.new [] 0 with breakpoints := [0x401000] } } ⟨[]⟩ 42 rfl rfl
  obtain rfl := Except.ok.inj (hs.symm.trans rfl)
  exact absurd hbp (by decide)

/-! ## The replay loop of a restart from an event -/

/-- The replay loop stops after replaying the frame at mark `i`: the frame ends
with the last-thread exit of process `pid`, or `at_target()` holds at the next
mark. -/
def StopsAfter (s : GdbServer) (pid : Nat) (i : Nat) : Prop :=
  ∃ f, s.timeline.trace[i]? = some f ∧
    ((f.taskExit && f.task.threadCount == 1 && f.task.tgid == pid) = true ∨
      { s with timeline := s.timeline.seekToMark (i + 1) }.atTarget = true)

/-- **When the replay loop asserts**: with enough passes, the loop of a restart
from an event ends in its `debug_assert_ne!` on `ReplayExited` exactly when no
frame from the current mark on is a stop point. -/
theorem replayToTarget_exited_iff {pid fuel : Nat} (hp : s.target.pid = some pid)
    (hfuel : s.timeline.trace.length - s.timeline.current < fuel) :
    s.replayToTarget fuel = .error "assertion `left != right` failed" ↔
      ∀ i, s.timeline.current ≤ i → ¬ s.StopsAfter pid i := by
  induction fuel generalizing s with
  | zero => omega
  | succ fuel ih =>
    cases hf : s.timeline.currentFrame with
    | none =>
      have hend : s.timeline.trace.length ≤ s.timeline.current := List.getElem?_eq_none_iff.mp hf
      simp only [replayToTarget_end hf, true_iff]
      rintro i hi ⟨f, hfi, -⟩
      rw [List.getElem?_eq_none (show s.timeline.trace.length ≤ i by omega)] at hfi
      cases hfi
    | some f =>
      have hstop : s.StopsAfter pid s.timeline.current ↔
          (f.taskExit && f.task.threadCount == 1 && f.task.tgid == pid) = true ∨
            { s with timeline := s.timeline.seekToMark (s.timeline.current + 1) }.atTarget = true := by
        have hf' : s.timeline.trace[s.timeline.current]? = some f := hf
        simp only [StopsAfter, hf', Option.some.injEq, exists_eq_left']
      have hall : (∀ i, s.timeline.current ≤ i → ¬ s.StopsAfter pid i) ↔
          ¬ s.StopsAfter pid s.timeline.current ∧
            ∀ i, s.timeline.current + 1 ≤ i → ¬ s.StopsAfter pid i :=
        ⟨fun h => ⟨h _ (Nat.le_refl _), fun i hi => h i (by omega)⟩, fun ⟨h₀, h₁⟩ i hi =>
          (Nat.eq_or_lt_of_le hi).elim (fun he => he ▸ h₀) (h₁ i)⟩
      have hlt : s.timeline.current < s.timeline.trace.length :=
        (List.getElem?_eq_some_iff.mp hf).1
      rw [replayToTarget_step hf hp, hall, hstop]
      split_ifs with hx ht
      · simp [hx]
      · simp [ht]
      · simp only [hx, ht, or_self, not_false_eq_true, true_and, Bool.false_eq_true]
        exact ih hp (by simp only [ReplayTimeline.seekToMark_current, ReplayTimeline.seekToMark_trace]; omega)

/-- A server waiting for process 10 before a trace of process 20 only: no
frame is a stop point, and the loop ends in its assertion. -/
theorem replayToTarget_exited_iff_other_process :
    ∃ s : GdbServer, s.target.pid = some 10 ∧ s.timeline.trace.length - s.timeline.current < 3 ∧
      s.replayToTarget 3 = .error "assertion `left != right` failed" ∧
      (s.replayToTarget 3 = .error "assertion `left != right` failed" ↔
        ∀ i, s.timeline.current ≤ i → ¬ s.StopsAfter 10 i) :=
  ⟨GdbServer.new [⟨1, ⟨2, 20, true, 1⟩, true, false, true, false⟩, ⟨2, ⟨2, 20, true, 1⟩, true, false, true, false⟩]
      0 ⟨some 10, false, 0⟩,
    rfl, by decide, rfl, replayToTarget_exited_iff rfl (by decide)⟩

/-- A run from a new server: the debugger attaches to process 10 at its first
frame; process 10 exits at event 2 and process 20 runs to the end of the trace.
A restart from event 3 replays past the end. -/
theorem restart_after_target_exit_asserts :
    (GdbServer.new
        [⟨1, ⟨1, 10, true, 1⟩, true, false, true, false⟩,
          ⟨2, ⟨1, 10, true, 1⟩, true, false, true, true⟩,
          ⟨3, ⟨2, 20, true, 1⟩, true, false, true, false⟩,
          ⟨4, ⟨2, 20, true, 1⟩, true, false, true, false⟩] 0 ⟨none, false, 0⟩).runOps
        [.acceptConnection, .restartSession ⟨.RestartFromEvent, 3⟩] =
      .error "assertion `left != right` failed" :=
  rfl

end GdbServer

end RdCore.Gdb
