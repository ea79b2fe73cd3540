import RdCore.Gdb.Timeline

/-!
# RdCore — the GDB server's restart logic

`GdbServer` (`gdb_server.rs`) owns the replay timeline, the target the
debugger attaches at, the restart checkpoint taken when a debugger attaches
(`debugger_restart_checkpoint`) and the table of GDB checkpoints. This module
translates what attaching and restarting do to those: `at_target`,
`activate_debugger`, `Checkpoint::new` and `restart_session` with its three
kinds of restart, the replay loop of `RestartFromEvent` included. Panics and
failed debug assertions are errors. The operations a debugging session is made
of are `acceptConnection` (a connection accepted by `serve_replay`, which then
runs `activate_debugger`) and `restartSession`; `runOps` runs a sequence of
them.

Main results:

* `GdbServer.activateDebugger_ok`, `GdbServer.restoreCheckpoint_ok`,
  `GdbServer.restartFromEvent_ok` and `GdbServer.restartSession_ok` — what
  each step can do, stated once;
* `GdbServer.replayToTarget_step` — one pass of the replay loop;
* `GdbServer.Unchanged` — no operation changes the trace, `final_event` or the
  checkpoint table (`GdbServer.runOps_unchanged`);
* `GdbServer.runOps_invariant` — a property every operation keeps holds after
  every run.
-/

namespace RdCore.Gdb

/-! ## Targets and checkpoints -/

/-- `Target`: the process to debug (`None` for the first one), whether to wait
for it to exec, and the event that must have elapsed before attaching. -/
structure Target where
  pid : Option Nat
  requireExec : Bool
  event : Nat
  deriving DecidableEq, Repr

/-- `ExplicitCheckpoint`. -/
inductive ExplicitCheckpoint where
  | Explicit
  | NotExplicit
  deriving DecidableEq, Repr

/-- `Checkpoint`, without the `where_` text shown to the user. -/
structure Checkpoint where
  mark : Nat
  lastContinueTuid : Nat
  isExplicit : ExplicitCheckpoint
  deriving DecidableEq, Repr

/-- `Checkpoint::new`: an explicit checkpoint pins the current mark. -/
def Checkpoint.new (timeline : ReplayTimeline) (lastContinueTuid : Nat) (e : ExplicitCheckpoint) :
    ReplayTimeline × Checkpoint :=
  let marked := if e = .Explicit then timeline.addExplicitCheckpoint else (timeline, timeline.mark)
  (marked.1, ⟨marked.2, lastContinueTuid, e⟩)

/-- `checkpoints: HashMap<u64, Checkpoint>`, as its entries, whose keys are
unique. -/
structure CheckpointTable where
  entries : List (Nat × Checkpoint)
  keys_nodup : (entries.map Prod.fst).Nodup

namespace CheckpointTable

/-- `HashMap::default()`. -/
def empty : CheckpointTable := ⟨[], List.nodup_nil⟩

/-- `HashMap::get`. -/
def get (table : CheckpointTable) (id : Nat) : Option Checkpoint := List.lookup id table.entries

/-- `HashMap::values`. -/
def values (table : CheckpointTable) : List Checkpoint := table.entries.map Prod.snd

theorem mem_values_of_get {table : CheckpointTable} {id : Nat} {c : Checkpoint}
    (h : table.get id = some c) : c ∈ table.values := by
  unfold get at h
  unfold values
  generalize table.entries = es at h ⊢
  induction es with
  | nil => cases h
  | cons e es ih =>
    simp only [List.lookup] at h
    split at h
    · cases h
      exact List.mem_cons_self _ _
    · exact List.mem_cons_of_mem _ (ih h)

end CheckpointTable

/-! ## The connection and restart requests -/

/-- Modelled from the spec: the replies of the GDB remote protocol the
restart logic sends. -/
inductive GdbReply where
  | restartFailed
  deriving DecidableEq, Repr

/-- Modelled from the spec: a `GdbConnection`, as the replies sent on it. -/
structure GdbConnection where
  replies : List GdbReply
  deriving DecidableEq, Repr

/-- Modelled from the spec: `notify_restart_failed()`. -/
def GdbConnection.notifyRestartFailed (c : GdbConnection) : GdbConnection :=
  ⟨c.replies ++ [.restartFailed]⟩

/-- Modelled from the spec: `GdbRestartType`. -/
inductive GdbRestartType where
  | RestartFromPrevious
  | RestartFromCheckpoint
  | RestartFromEvent
  deriving DecidableEq, Repr

/-- Modelled from the spec: the payload `req.restart()` of a `DREQ_RESTART`
request, its kind and its numeric parameter. -/
structure GdbRestartRequest where
  type : GdbRestartType
  param : Nat
  deriving DecidableEq, Repr

/-! ## The server -/

/-- `GdbServer`, with the fields attaching and restarting read or write. -/
structure GdbServer where
  target : Target
  dbg : Option GdbConnection
  lastContinueTuid : Nat
  lastQueryTuid : Nat
  finalEvent : Nat
  inDebuggeeEndState : Bool
  stopReplayingToTarget : Bool
  interruptPending : Bool
  timeline : ReplayTimeline
  debuggerRestartCheckpoint : Option Checkpoint
  checkpoints : CheckpointTable

/-- `u64::MAX`. -/
def u64Max : Nat := 2 ^ 64 - 1

/-- `a - b` on `u64`, which panics when it would underflow. -/
def u64Sub (a b : Nat) : Except String Nat :=
  if b ≤ a then .ok (a - b) else .error "attempt to subtract with overflow"

/-- The panic of `Option::unwrap` on `None`. -/
def unwrapNone : String := "called `Option::unwrap()` on a `None` value"

/-- `is_last_thread_exit(break_status)`. -/
def isLastThreadExit (bs : BreakStatus) : Except String Bool :=
  if bs.taskExit then
    match bs.task with
    | some t => .ok (t.threadCount == 1)
    | none => .error unwrapNone
  else .ok false

/-- The first stop condition of `restart_session`'s replay loop,
`is_last_thread_exit(&break_status) && task.tgid == target.pid.unwrap()`. -/
def debuggeeExits (bs : BreakStatus) (pid : Option Nat) : Except String Bool :=
  match isLastThreadExit bs with
  | .error e => .error e
  | .ok false => .ok false
  | .ok true =>
    match bs.task, pid with
    | some t, some p => .ok (t.tgid == p)
    | _, _ => .error unwrapNone

namespace GdbServer

/-- `GdbServer::new(session, target)`, for a session standing at mark
`current` of `trace`. -/
def new (trace : List TraceFrame) (current : Nat) (target : Target) : GdbServer where
  target := target
  dbg := none
  lastContinueTuid := 0
  lastQueryTuid := 0
  finalEvent := u64Max
  inDebuggeeEndState := false
  stopReplayingToTarget := false
  interruptPending := false
  timeline := ReplayTimeline.new trace current
  debuggerRestartCheckpoint := none
  checkpoints := CheckpointTable.empty

/-- `at_target()`: whether the frame about to be replayed is where the
debugger should attach. -/
def atTarget (s : GdbServer) : Bool :=
  match s.timeline.currentFrame with
  | none => false
  | some f =>
    if !f.doneInitialExec then false
    else if !s.timeline.canAddCheckpoint then false
    else if s.stopReplayingToTarget then true
    else
      decide (s.target.event < f.time) &&
        (match s.target.pid with
         | none => true
         | some pid => f.task.tgid == pid) &&
        (!s.target.requireExec || f.task.execed) && !f.inExecution

/-- `activate_debugger()`: the current task and event become the target, and a
new restart checkpoint, explicit when a checkpoint can be added here, replaces
`debugger_restart_checkpoint`. -/
def activateDebugger (s : GdbServer) : Except String GdbServer :=
  match s.timeline.currentFrame with
  | none => .error unwrapNone
  | some f =>
    let s := { s with
      target := { pid := some f.task.tgid, requireExec := false, event := f.time }
      lastQueryTuid := f.task.tuid
      lastContinueTuid := f.task.tuid }
    let checkpoint :=
      if s.timeline.canAddCheckpoint then Checkpoint.new s.timeline s.lastContinueTuid .Explicit
      else Checkpoint.new s.timeline s.lastContinueTuid .NotExplicit
    .ok { s with timeline := checkpoint.1, debuggerRestartCheckpoint := some checkpoint.2 }

/-- The end of `restart_session` when there is a checkpoint to restore: seek
to it, release the pin of the restart checkpoint it replaces, and pin the
restored mark when a checkpoint can be added there. -/
def restoreCheckpoint (s : GdbServer) (checkpoint : Checkpoint) : Except String GdbServer :=
  let s := { s with
    timeline := s.timeline.seekToMark checkpoint.mark
    lastQueryTuid := checkpoint.lastContinueTuid
    lastContinueTuid := checkpoint.lastContinueTuid }
  match s.debuggerRestartCheckpoint with
  | none => .error unwrapNone
  | some old =>
    let timeline :=
      if old.isExplicit = .Explicit then s.timeline.removeExplicitCheckpoint old.mark else s.timeline
    .ok { s with
      timeline := if timeline.canAddCheckpoint then timeline.addExplicitCheckpoint.1 else timeline
      debuggerRestartCheckpoint := some checkpoint }

/-- The replay loop of `restart_session` for `RestartFromEvent`, bounded by
`fuel` passes: replay a step, then stop at the last-thread exit of the target
process, entering `in_debuggee_end_state`, or where `at_target()` holds. The
`debug_assert_ne!` on `ReplayExited` is an error. -/
def replayToTarget : Nat → GdbServer → Except String GdbServer
  | 0, _ => .error "replay loop out of fuel"
  | fuel + 1, s =>
    let result := s.timeline.replayStepForward
    let s := { s with timeline := result.1 }
    if result.2.status = .ReplayExited then .error "assertion `left != right` failed"
    else
      match debuggeeExits result.2.breakStatus s.target.pid with
      | .error e => .error e
      | .ok true => .ok { s with inDebuggeeEndState := true }
      | .ok false => if s.atTarget then .ok s else replayToTarget fuel s

/-- The end of `restart_session` for `RestartFromEvent(event)`: clamp the
event below `final_event`, seek before it, replay to the target and activate
the debugger there. Each pass of the loop replays one frame, so the trace's
length plus one passes are enough. -/
def restartFromEvent (s : GdbServer) (event : Nat) : Except String GdbServer :=
  match u64Sub s.finalEvent 1 with
  | .error e => .error e
  | .ok last =>
    let s := { s with
      target := { s.target with event := min last event }
      timeline := s.timeline.seekToBeforeEvent (min last event) }
    match s.replayToTarget (s.timeline.trace.length + 1) with
    | .error e => .error e
    | .ok s => s.activateDebugger

/-- `restart_session(req)` for a `DREQ_RESTART` request with payload `req`. -/
def restartSession (s : GdbServer) (req : GdbRestartRequest) : Except String GdbServer :=
  match s.dbg with
  | none => .error "assertion failed: self.dbg.is_some()"
  | some dbg =>
    let s := { s with
      inDebuggeeEndState := false
      timeline := s.timeline.removeBreakpointsAndWatchpoints }
    if req.type = .RestartFromCheckpoint ∧ s.checkpoints.get req.param = none then
      .ok { s with dbg := some dbg.notifyRestartFailed }
    else
      let maybeCheckpointToRestore :=
        match req.type with
        | .RestartFromCheckpoint => s.checkpoints.get req.param
        | .RestartFromPrevious => s.debuggerRestartCheckpoint
        | .RestartFromEvent => none
      let s := { s with interruptPending := true }
      match maybeCheckpointToRestore with
      | some checkpoint => s.restoreCheckpoint checkpoint
      | none =>
        let s := { s with stopReplayingToTarget := false }
        if req.type ≠ .RestartFromEvent then .error "assertion `left == right` failed"
        else s.restartFromEvent req.param

/-- A connection accepted by `serve_replay`'s loop: it becomes `dbg`, then
`activate_debugger()` runs. The replay loop `serve_replay` runs before it
listens, which replays at least one frame and stops where `at_target()` holds,
is left out: the connection is accepted where the server stands. -/
def acceptConnection (s : GdbServer) : Except String GdbServer :=
  { s with dbg := some ⟨[]⟩ }.activateDebugger

end GdbServer

/-- The operations of a debugging session that touch the restart state. -/
inductive GdbOp where
  | acceptConnection
  | restartSession (req : GdbRestartRequest)
  deriving DecidableEq, Repr

namespace GdbServer

/-- One operation. -/
def apply (s : GdbServer) : GdbOp → Except String GdbServer
  | .acceptConnection => s.acceptConnection
  | .restartSession req => s.restartSession req

/-- A sequence of operations, stopping at the first error. -/
def runOps (s : GdbServer) : List GdbOp → Except String GdbServer
  | [] => .ok s
  | op :: ops =>
    match s.apply op with
    | .ok s' => s'.runOps ops
    | .error e => .error e

/-! ## What each step does -/

variable {s s' : GdbServer}

/-- **Activating the debugger** retargets at the current frame and replaces the
restart checkpoint by one at the current mark, pinned exactly when a
checkpoint can be added there. -/
theorem activateDebugger_ok (h : s.activateDebugger = .ok s') :
    ∃ f, s.timeline.currentFrame = some f ∧
      s' = { s with
        target := ⟨some f.task.tgid, false, f.time⟩
        lastQueryTuid := f.task.tuid
        lastContinueTuid := f.task.tuid
        timeline := s.timeline.addExplicitCheckpoint.1
        debuggerRestartCheckpoint := some ⟨s.timeline.current, f.task.tuid,
          if s.timeline.canAddCheckpoint then .Explicit else .NotExplicit⟩ } := by
  unfold activateDebugger at h
  split at h
  · cases h
  · rename_i f hf
    refine ⟨f, hf, ?_⟩
    cases hc : s.timeline.canAddCheckpoint <;>
      simp only [hc, Checkpoint.new, ite_true, ite_false, reduceCtorEq] at h <;> cases h
    · simp [ReplayTimeline.addExplicitCheckpoint, hc, ReplayTimeline.mark]
    · rfl

/-- **Restoring a checkpoint** seeks to its mark, releases the replaced
restart checkpoint's pin if it was explicit, and pins the mark when a
checkpoint can be added there. -/
theorem restoreCheckpoint_ok {c : Checkpoint} (h : s.restoreCheckpoint c = .ok s') :
    ∃ old tl, s.debuggerRestartCheckpoint = some old ∧
      s' = { s with
        timeline := tl
        lastQueryTuid := c.lastContinueTuid
        lastContinueTuid := c.lastContinueTuid
        debuggerRestartCheckpoint := some c } ∧
      tl.trace = s.timeline.trace ∧ tl.current = c.mark ∧
      ∀ m, tl.explicitCheckpoints m =
        s.timeline.explicitCheckpoints m - (if old.isExplicit = .Explicit ∧ m = old.mark then 1 else 0) +
          if canAddAt s.timeline.trace c.mark = true ∧ m = c.mark then 1 else 0 := by
  unfold restoreCheckpoint at h
  dsimp only at h
  split at h
  · cases h
  · rename_i old hold
    cases h
    refine ⟨old, _, hold, rfl, ?_, ?_, fun m => ?_⟩ <;> split_ifs <;>
      simp_all [ReplayTimeline.addExplicitCheckpoint_explicitCheckpoints,
        ReplayTimeline.removeExplicitCheckpoint_explicitCheckpoints, ReplayTimeline.canAddCheckpoint]

/-- One pass of the replay loop, at a frame: replay it, then stop at the
target's last-thread exit or at the target, or go on. -/
theorem replayToTarget_step {fuel : Nat} {f : TraceFrame} {pid : Nat}
    (hf : s.timeline.currentFrame = some f) (hp : s.target.pid = some pid) :
    s.replayToTarget (fuel + 1) =
      if (f.taskExit && f.task.threadCount == 1 && f.task.tgid == pid) = true then
        .ok { s with timeline := s.timeline.seekToMark (s.timeline.current + 1), inDebuggeeEndState := true }
      else if { s with timeline := s.timeline.seekToMark (s.timeline.current + 1) }.atTarget then
        .ok { s with timeline := s.timeline.seekToMark (s.timeline.current + 1) }
      else { s with timeline := s.timeline.seekToMark (s.timeline.current + 1) }.replayToTarget fuel := by
  simp only [replayToTarget, ReplayTimeline.replayStepForward_of_currentFrame hf, reduceCtorEq,
    ite_false, debuggeeExits, isLastThreadExit, hp]
  cases f.taskExit <;> cases f.task.threadCount == 1 <;> cases f.task.tgid == pid <;> rfl

/-- At the end of the trace the replay loop fails its assertion. -/
theorem replayToTarget_end {fuel : Nat} (hf : s.timeline.currentFrame = none) :
    s.replayToTarget (fuel + 1) = .error "assertion `left != right` failed" := by
  simp only [replayToTarget, ReplayTimeline.replayStepForward_of_end hf, ite_true]

/-- The replay loop moves the timeline to another mark of the same trace and
may enter the end state; nothing else changes. -/
theorem replayToTarget_ok {fuel : Nat} (h : s.replayToTarget fuel = .ok s') :
    ∃ m b, s' = { s with timeline := s.timeline.seekToMark m, inDebuggeeEndState := b } := by
  induction fuel generalizing s with
  | zero => cases h
  | succ fuel ih =>
    obtain ⟨m₀, hm₀⟩ := s.timeline.replayStepForward_fst
    simp only [replayToTarget, hm₀] at h
    split at h
    · cases h
    · split at h
      · cases h
      · cases h
        exact ⟨m₀, true, rfl⟩
      · split at h
        · cases h
          exact ⟨m₀, s.inDebuggeeEndState, rfl⟩
        · obtain ⟨m, b, rfl⟩ := ih h
          exact ⟨m, b, rfl⟩

/-- **Restart from an event** clamps the event below `final_event`, seeks
before it, runs the replay loop and activates the debugger where it stops. -/
theorem restartFromEvent_ok {n : Nat} (h : s.restartFromEvent n = .ok s') :
    ∃ s₁, 1 ≤ s.finalEvent ∧
      (({ s with
          target := { s.target with event := min (s.finalEvent - 1) n }
          timeline := s.timeline.seekToBeforeEvent (min (s.finalEvent - 1) n) }).replayToTarget
        (s.timeline.trace.length + 1) = .ok s₁) ∧
      s₁.activateDebugger = .ok s' := by
  unfold restartFromEvent u64Sub at h
  by_cases h1 : 1 ≤ s.finalEvent
  · simp only [h1, ite_true] at h
    split at h
    · cases h
    · exact ⟨_, h1, ‹_›, h⟩
  · simp only [h1, ite_false] at h
    cases h

/-- **Restarting** either reports an unknown checkpoint, restores a checkpoint
the server holds (from the table, or the restart checkpoint), or restarts
from an event; in each case after clearing the breakpoints, the watchpoints
and the end state. -/
theorem restartSession_ok {req : GdbRestartRequest} (h : s.restartSession req = .ok s') :
    ∃ dbg, s.dbg = some dbg ∧
      ((req.type = .RestartFromCheckpoint ∧ s.checkpoints.get req.param = none ∧
          s' = { s with
            inDebuggeeEndState := false
            timeline := s.timeline.removeBreakpointsAndWatchpoints
            dbg := some dbg.notifyRestartFailed }) ∨
        (∃ c, (s.checkpoints.get req.param = some c ∨ s.debuggerRestartCheckpoint = some c) ∧
          { s with
            inDebuggeeEndState := false
            timeline := s.timeline.removeBreakpointsAndWatchpoints
            interruptPending := true }.restoreCheckpoint c = .ok s') ∨
        (req.type = .RestartFromEvent ∧
          { s with
            inDebuggeeEndState := false
            timeline := s.timeline.removeBreakpointsAndWatchpoints
            interruptPending := true
            stopReplayingToTarget := false }.restartFromEvent req.param = .ok s')) := by
  unfold restartSession at h
  split at h
  · cases h
  · rename_i dbg hdbg
    refine ⟨dbg, hdbg, ?_⟩
    obtain ⟨type, param⟩ := req
    cases type with
    | RestartFromPrevious =>
      cases hc : s.debuggerRestartCheckpoint with
      | none => simp [hc] at h
      | some c => simp only [hc] at h; exact .inr (.inl ⟨c, .inr rfl, h⟩)
    | RestartFromCheckpoint =>
      cases hc : s.checkpoints.get param with
      | none => simp only [hc] at h; cases h; exact .inl ⟨rfl, rfl, rfl⟩
      | some c => simp only [hc] at h; exact .inr (.inl ⟨c, .inl rfl, h⟩)
    | RestartFromEvent => simp only at h; exact .inr (.inr ⟨rfl, h⟩)

/-! ## What no operation changes -/

/-- What no operation changes: the trace, `final_event` and the checkpoint
table. -/
structure Unchanged (s s' : GdbServer) : Prop where
  trace : s'.timeline.trace = s.timeline.trace
  finalEvent : s'.finalEvent = s.finalEvent
  checkpoints : s'.checkpoints = s.checkpoints

theorem Unchanged.refl (s : GdbServer) : Unchanged s s := ⟨rfl, rfl, rfl⟩

theorem Unchanged.trans {s₁ s₂ s₃ : GdbServer} (h₁ : Unchanged s₁ s₂)
    (h₂ : Unchanged s₂ s₃) : Unchanged s₁ s₃ :=
  ⟨h₂.trace.trans h₁.trace, h₂.finalEvent.trans h₁.finalEvent,
    h₂.checkpoints.trans h₁.checkpoints⟩

theorem activateDebugger_unchanged (h : s.activateDebugger = .ok s') : Unchanged s s' := by
  obtain ⟨f, -, rfl⟩ := activateDebugger_ok h
  exact ⟨by simp, rfl, rfl⟩

theorem restoreCheckpoint_unchanged {c : Checkpoint} (h : s.restoreCheckpoint c = .ok s') :
    Unchanged s s' := by
  obtain ⟨old, tl, -, rfl, htr, -⟩ := restoreCheckpoint_ok h
  exact ⟨htr, rfl, rfl⟩

theorem replayToTarget_unchanged {fuel : Nat} (h : s.replayToTarget fuel = .ok s') :
    Unchanged s s' := by
  obtain ⟨m, b, rfl⟩ := replayToTarget_ok h
  exact ⟨rfl, rfl, rfl⟩

theorem restartFromEvent_unchanged {n : Nat} (h : s.restartFromEvent n = .ok s') :
    Unchanged s s' := by
  obtain ⟨s₁, -, hr, ha⟩ := restartFromEvent_ok h
  exact Unchanged.trans (by exact ⟨rfl, rfl, rfl⟩)
    ((replayToTarget_unchanged hr).trans (activateDebugger_unchanged ha))

theorem restartSession_unchanged {req : GdbRestartRequest} (h : s.restartSession req = .ok s') :
    Unchanged s s' := by
  obtain ⟨dbg, -, ⟨-, -, rfl⟩ | ⟨c, -, hr⟩ | ⟨-, hr⟩⟩ := restartSession_ok h
  · exact ⟨rfl, rfl, rfl⟩
  · exact Unchanged.trans (by exact ⟨rfl, rfl, rfl⟩) (restoreCheckpoint_unchanged hr)
  · exact Unchanged.trans (by exact ⟨rfl, rfl, rfl⟩) (restartFromEvent_unchanged hr)

theorem apply_unchanged {op : GdbOp} (h : s.apply op = .ok s') : Unchanged s s' := by
  cases op with
  | acceptConnection => exact Unchanged.trans (by exact ⟨rfl, rfl, rfl⟩) (activateDebugger_unchanged h)
  | restartSession req => exact restartSession_unchanged h

/-! ## Runs -/

/-- A property that every allowed operation keeps holds after every run of
allowed operations. -/
theorem runOps_invariant (I : GdbServer → Prop) (P : GdbOp → Prop)
    (step : ∀ {s s' : GdbServer} {op : GdbOp}, P op → I s → s.apply op = .ok s' → I s') :
    ∀ {s s' : GdbServer} {ops : List GdbOp}, (∀ op ∈ ops, P op) → I s →
      s.runOps ops = .ok s' → I s'
  | s, s', [], _, hs, h => by cases h; exact hs
  | s, s', op :: ops, hP, hs, h => by
    simp only [runOps] at h
    split at h
    · exact runOps_invariant I P step (fun o ho => hP o (List.mem_cons_of_mem _ ho))
        (step (hP op (List.mem_cons_self _ _)) hs ‹_›) h
    · cases h

theorem runOps_unchanged {ops : List GdbOp} (h : s.runOps ops = .ok s') : Unchanged s s' :=
  runOps_invariant (Unchanged s) (fun _ => True) (fun _ hs ha => hs.trans (apply_unchanged ha))
    (fun _ _ => trivial) (Unchanged.refl s) h

end GdbServer

end RdCore.Gdb
