import Mathlib

/-!
# RdCore — the replay timeline seen by the GDB server

`gdb_server.rs` drives a `ReplayTimeline`, and the timeline is not part of the
source. Every definition of this module is therefore modelled from the spec
(§4.1, "Failure semantics" and §2): the timeline replays a recorded trace of
frames, its current mark is the index of the next frame to replay, so that
marks form a total order along the trace, and whatever the server reads of
the session (`can_add_checkpoint()`, the current task, the current frame's
event time) is read off the frame at the current mark. One replay step
replays one frame; stepping off the end of the trace returns `ReplayExited`.
Explicit checkpoints are reference-counted pins, one count per mark.

Main results:

* `ReplayTimeline.replayStepForward_of_currentFrame` and
  `ReplayTimeline.replayStepForward_of_end` — what one replay step does;
* `ReplayTimeline.addExplicitCheckpoint_explicitCheckpoints` and
  `ReplayTimeline.removeExplicitCheckpoint_explicitCheckpoints` — pin counts
  after pinning and releasing a mark;
* `ReplayTimeline.seekToBeforeEvent_current_le` — seeking before an event
  leaves no earlier frame at or after it.
-/

namespace RdCore.Gdb

/-! ## Trace frames and replay results -/

/-- Modelled from the spec: what the server reads of a task: its `tuid()`,
its thread group's `tgid`, whether it has `execed()`, and how many tasks its
thread group's `task_set()` holds. -/
structure TaskView where
  tuid : Nat
  tgid : Nat
  execed : Bool
  threadCount : Nat
  deriving DecidableEq, Repr

/-- Modelled from the spec: the session when the timeline stands before one
trace frame: the frame's event time, the task that runs it (the current task),
`done_initial_exec()`, `current_step_key().in_execution()`,
`can_add_checkpoint()` there, and whether replaying the frame ends with the
exit of its task (`BreakStatus::task_exit`). -/
structure TraceFrame where
  time : Nat
  task : TaskView
  doneInitialExec : Bool
  inExecution : Bool
  canAddCheckpoint : Bool
  taskExit : Bool
  deriving DecidableEq, Repr

/-- Modelled from the spec: `ReplayStatus`. -/
inductive ReplayStatus where
  | ReplayContinue
  | ReplayExited
  deriving DecidableEq, Repr

/-- Modelled from the spec: the fields of `BreakStatus` the server reads, the
task the stop happened on and the task-exit flag. -/
structure BreakStatus where
  task : Option TaskView
  taskExit : Bool
  deriving DecidableEq, Repr

/-- Modelled from the spec: `ReplayResult`. -/
structure ReplayResult where
  status : ReplayStatus
  breakStatus : BreakStatus
  deriving DecidableEq, Repr

/-! ## The timeline -/

/-- Modelled from the spec: whether a checkpoint can be added at mark `m` of a
trace; false past its end. -/
def canAddAt (frames : List TraceFrame) (m : Nat) : Bool :=
  match frames[m]? with
  | some f => f.canAddCheckpoint
  | none => false

/-- Modelled from the spec: a `ReplayTimeline` over a trace, with its current
mark, the explicit-checkpoint count of each mark, and the registered
breakpoint addresses and watched `(address, length)` ranges. A mark, the
`Mark` of the spec, is the index of the next trace frame to replay. -/
structure ReplayTimeline where
  trace : List TraceFrame
  current : Nat
  explicitCheckpoints : Nat → Nat
  breakpoints : List Nat
  watchpoints : List (Nat × Nat)

namespace ReplayTimeline

variable (tl : ReplayTimeline)

/-- Modelled from the spec: `ReplayTimeline::new(session)`, over a session
standing at mark `current` of `trace`, with no pins and no breakpoints. -/
def new (trace : List TraceFrame) (current : Nat) : ReplayTimeline :=
  ⟨trace, current, fun _ => 0, [], []⟩

/-- Modelled from the spec: the frame the session is about to replay, which
also gives `current_task()`; none at the end of the trace. -/
def currentFrame : Option TraceFrame := tl.trace[tl.current]?

/-- Modelled from the spec: `mark()`. -/
def mark : Nat := tl.current

/-- Modelled from the spec: `can_add_checkpoint()`, a function of the current
mark. -/
def canAddCheckpoint : Bool := canAddAt tl.trace tl.current

/-- Modelled from the spec: `add_explicit_checkpoint()` pins the current mark
and returns it; when `can_add_checkpoint()` is false the mark is returned but
not pinned. -/
def addExplicitCheckpoint : ReplayTimeline × Nat :=
  (if tl.canAddCheckpoint then
    { tl with explicitCheckpoints :=
        Function.update tl.explicitCheckpoints tl.current (tl.explicitCheckpoints tl.current + 1) }
  else tl, tl.current)

/-- Modelled from the spec: `remove_explicit_checkpoint(mark)` releases one pin. -/
def removeExplicitCheckpoint (m : Nat) : ReplayTimeline :=
  { tl with explicitCheckpoints := Function.update tl.explicitCheckpoints m (tl.explicitCheckpoints m - 1) }

/-- Modelled from the spec: `seek_to_mark(mark)` makes `mark` the current mark. -/
@[simps]
def seekToMark (m : Nat) : ReplayTimeline := { tl with current := m }

/-- Modelled from the spec: `seek_to_before_event(event)` stands before the
first frame whose event time is at least `event`, or at the end of the trace. -/
@[simps]
def seekToBeforeEvent (event : Nat) : ReplayTimeline :=
  { tl with current := tl.trace.findIdx fun f => event ≤ f.time }

/-- Modelled from the spec: `remove_breakpoints_and_watchpoints()`. -/
@[simps]
def removeBreakpointsAndWatchpoints : ReplayTimeline := { tl with breakpoints := [], watchpoints := [] }

/-- Modelled from the spec: `replay_step_forward(RunContinue, _)` replays the
current frame and reports its task; past the end it returns `ReplayExited`. -/
def replayStepForward : ReplayTimeline × ReplayResult :=
  match tl.currentFrame with
  | some f => (tl.seekToMark (tl.current + 1), ⟨.ReplayContinue, ⟨some f.task, f.taskExit⟩⟩)
  | none => (tl, ⟨.ReplayExited, ⟨none, false⟩⟩)

/-! ## What each operation does -/

variable {tl}

@[simp]
theorem new_explicitCheckpoints (trace : List TraceFrame) (m x : Nat) :
    (new trace m).explicitCheckpoints x = 0 := rfl

@[simp]
theorem currentFrame_seekToMark (m : Nat) : (tl.seekToMark m).currentFrame = tl.trace[m]? := rfl

@[simp]
theorem canAddCheckpoint_seekToMark (m : Nat) :
    (tl.seekToMark m).canAddCheckpoint = canAddAt tl.trace m := rfl

theorem addExplicitCheckpoint_mark : tl.addExplicitCheckpoint.2 = tl.current := rfl

@[simp]
theorem addExplicitCheckpoint_trace : tl.addExplicitCheckpoint.1.trace = tl.trace := by
  unfold addExplicitCheckpoint; split <;> rfl

@[simp]
theorem addExplicitCheckpoint_current : tl.addExplicitCheckpoint.1.current = tl.current := by
  unfold addExplicitCheckpoint; split <;> rfl

/-- Pinning adds one to the current mark's count, when a checkpoint can be
added there. -/
theorem addExplicitCheckpoint_explicitCheckpoints (m : Nat) :
    tl.addExplicitCheckpoint.1.explicitCheckpoints m =
      tl.explicitCheckpoints m + if tl.canAddCheckpoint = true ∧ m = tl.current then 1 else 0 := by
  unfold addExplicitCheckpoint
  by_cases hc : tl.canAddCheckpoint = true <;> by_cases hm : m = tl.current <;>
    simp [hc, hm, Function.update_noteq]

@[simp]
theorem removeExplicitCheckpoint_trace (a : Nat) : (tl.removeExplicitCheckpoint a).trace = tl.trace := rfl

@[simp]
theorem removeExplicitCheckpoint_current (a : Nat) :
    (tl.removeExplicitCheckpoint a).current = tl.current := rfl

/-- Releasing a mark takes one from its count. -/
theorem removeExplicitCheckpoint_explicitCheckpoints (a m : Nat) :
    (tl.removeExplicitCheckpoint a).explicitCheckpoints m =
      tl.explicitCheckpoints m - if m = a then 1 else 0 := by
  by_cases hm : m = a <;> simp [removeExplicitCheckpoint, hm, Function.update_noteq]

theorem replayStepForward_of_currentFrame {f : TraceFrame} (h : tl.currentFrame = some f) :
    tl.replayStepForward =
      (tl.seekToMark (tl.current + 1), ⟨.ReplayContinue, ⟨some f.task, f.taskExit⟩⟩) := by
  simp only [replayStepForward, h]

/-- A replay step only moves the timeline to another mark. -/
theorem replayStepForward_fst (tl : ReplayTimeline) : ∃ m, tl.replayStepForward.1 = tl.seekToMark m := by
  unfold replayStepForward
  split
  · exact ⟨_, rfl⟩
  · exact ⟨tl.current, rfl⟩

theorem replayStepForward_of_end (h : tl.currentFrame = none) :
    tl.replayStepForward = (tl, ⟨.ReplayExited, ⟨none, false⟩⟩) := by
  simp only [replayStepForward, h]

/-- Seeking before `event` stands at a frame at or after it, or at the end of
the trace, with every frame before it earlier than `event`. -/
theorem seekToBeforeEvent_current_le (event : Nat) {i : Nat} (hi : i < (tl.seekToBeforeEvent event).current)
    (f : TraceFrame) (hf : tl.trace[i]? = some f) : f.time < event := by
  have hlt : i < tl.trace.length := (List.getElem?_eq_some_iff.mp hf).1
  obtain ⟨_, rfl⟩ := List.getElem?_eq_some_iff.mp hf
  simpa using List.not_of_lt_findIdx hi

end ReplayTimeline

end RdCore.Gdb
