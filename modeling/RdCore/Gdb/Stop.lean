import RdCore.Gdb.Server
import RdCore.Syscall.Tracee

/-!
# RdCore — reporting a stop to gdb

After every resume request it replays, the server decides from the step's
`BreakStatus` whether the debugger sees a stop, at which task, with which
signal and which watchpoint address (`maybe_notify_stop`). The source writes
this as a sequence of tests, each of which may overwrite `stop_siginfo`: a
watchpoint, a breakpoint or a completed singlestep stop with `SIGTRAP`, a
signal with its `siginfo_t`, the exit of the debuggee's last thread (when gdb
can reverse-execute) with a synthetic `SIGKILL` or a silent stop, and an exec
with a silent stop at the exec-ed task. The stop is reported only for a task
of the debuggee's thread group, but `stop_siginfo` is written in any case.

Whether a breakpoint with conditions stops at all is
`GdbBreakpointCondition::evaluate`, built by `breakpoint_condition` from the
condition bytecodes of the request.

`BreakStatus`, `GdbConnection` with its features and `notify_stop`, `Sig`,
the timeline `is_in_exec` reads and `GdbExpression::evaluate` are not in the
source. Their parts these functions read are fields or parameters here; a
`Sig` is a signal number in `1 ..= 64`.

Main results:

* `StopLocals.reported` — the code's sequence of overwrites selects the stop
  by priority, as `reportedStop` lists the causes: exec, last-thread exit,
  signal, then `SIGTRAP`;
* `maybeNotifyStop_eq` — what `maybe_notify_stop` does, for every break
  status: when it panics, the `stop_siginfo` it leaves, and the one
  notification it sends, exactly when the stop is at a task of the debuggee;
* `breakpointCondition_evaluate` — a condition stops as soon as one of its
  expressions fails or is nonzero.
-/

namespace RdCore.Gdb

open RdCore.Syscall (Except.ok_bind Except.bind_eq_ok)

/-! ## Signals, tasks and break statuses -/

/-- `siginfo_t`: its `si_signo`, and the rest of its bytes as one number. -/
structure Siginfo where
  siSigno : Int
  rest : Nat
  deriving DecidableEq, Repr

/-- `siginfo_t::default()`: all zero. -/
def Siginfo.default : Siginfo := ⟨0, 0⟩

/-- `SIGTRAP`. -/
def sigtrap : Int := 5

/-- `SIGKILL`. -/
def sigkill : Int := 9

/-- `Sig::try_from(signo).ok()`. -/
def sigTryFrom (signo : Int) : Option Nat :=
  if 1 ≤ signo ∧ signo ≤ 64 then some signo.toNat else none

/-- `RunDirection`. -/
inductive RunDirection where
  | RunForward
  | RunBackward
  deriving DecidableEq, Repr

/-- What `maybe_notify_stop` reads of a task: what the server reads of every
task, its `rec_tid()`, and its thread group's `tguid()`. -/
structure StopTask extends TaskView where
  recTid : Nat
  tguid : Nat
  deriving DecidableEq, Repr

/-- `GdbThreadId`. -/
structure GdbThreadId where
  pid : Int
  tid : Int
  deriving DecidableEq, Repr

/-- `get_threadid(t)`. -/
def getThreadid (t : StopTask) : GdbThreadId := ⟨t.tgid, t.recTid⟩

/-- `BreakStatus`: the task the stop happened on, the addresses of the
watchpoints hit, the breakpoint-hit and singlestep-complete flags, the signal,
and the task-exit flag. -/
structure StopBreakStatus where
  task : Option StopTask
  watchpointsHit : List Nat
  breakpointHit : Bool
  singlestepComplete : Bool
  signal : Option Siginfo
  taskExit : Bool
  deriving DecidableEq, Repr

/-- The fields `is_last_thread_exit` reads. -/
def StopBreakStatus.toBreakStatus (bs : StopBreakStatus) : BreakStatus :=
  ⟨bs.task.map StopTask.toTaskView, bs.taskExit⟩

/-- A `notify_stop(threadid, sig, watch_addr)` sent to gdb. -/
structure StopNotification where
  threadid : GdbThreadId
  sig : Option Nat
  watchAddr : Nat
  deriving DecidableEq, Repr

/-- The server with what `maybe_notify_stop` reads and writes beyond the
fields of `GdbServer`: `debuggee_tguid`, `stop_siginfo`, the connection's
`features().reverse_execution`, and the stops notified on the connection. -/
structure StopServer extends GdbServer where
  debuggeeTguid : Nat
  stopSiginfo : Siginfo
  reverseExecution : Bool
  stops : List StopNotification

/-! ## `maybe_notify_stop` -/

/-- The locals `maybe_notify_stop` carries from one test to the next:
`do_stop`, `watch_addr`, and `self.stop_siginfo` as the tests write it. -/
structure StopLocals where
  doStop : Bool
  stopSiginfo : Siginfo
  watchAddr : Nat
  deriving DecidableEq, Repr

/-- `do_stop = true; self.stop_siginfo = sig`. -/
def StopLocals.stop (l : StopLocals) (sig : Siginfo) : StopLocals :=
  { l with doStop := true, stopSiginfo := sig }

/-- The first three tests of `maybe_notify_stop`, in the source's order:
a watchpoint hit, a breakpoint hit or completed singlestep, a signal. -/
def StopLocals.ofBreakStatus (bs : StopBreakStatus) (l : StopLocals) : StopLocals :=
  let l := match bs.watchpointsHit with
    | [] => l
    | addr :: _ => { l.stop { Siginfo.default with siSigno := sigtrap } with watchAddr := addr }
  let l := if bs.breakpointHit || bs.singlestepComplete then
    l.stop { Siginfo.default with siSigno := sigtrap } else l
  match bs.signal with
  | some sig => l.stop sig
  | none => l

/-- The stop at the last thread's exit: a synthetic `SIGKILL` when running
forward, a silent stop when running backward. -/
def StopLocals.stopAtExit (l : StopLocals) (req : RunDirection) : StopLocals :=
  l.stop { Siginfo.default with siSigno := if req = .RunForward then sigkill else 0 }

/-- The test of the last thread's exit, `is_last_thread_exit(break_status) &&
self.dbg_unwrap().features().reverse_execution`. -/
def StopLocals.lastThreadExit (s : StopServer) (req : RunDirection) (bs : StopBreakStatus)
    (l : StopLocals) : Except String StopLocals := do
  if ← isLastThreadExit bs.toBreakStatus then
    match s.dbg with
    | none => .error unwrapNone
    | some _ => pure (if s.reverseExecution then l.stopAtExit req else l)
  else pure l

/-- The test of an exec, `is_in_exec(&self.timeline_unwrap())`: a silent
stop at the exec-ed task. -/
def StopLocals.inExec (l : StopLocals) (t : StopTask) : Option StopTask → StopLocals × StopTask
  | some inExecTask => (l.stop Siginfo.default, inExecTask)
  | none => (l, t)

/-- `GdbServer::maybe_notify_stop(req, break_status)`; `req` is the run
direction of the resume request, `inExec` what `is_in_exec(&timeline)`
returns. -/
def maybeNotifyStop (s : StopServer) (req : RunDirection) (bs : StopBreakStatus)
    (inExec : Option StopTask) : Except String StopServer := do
  let l ← StopLocals.lastThreadExit s req bs (StopLocals.ofBreakStatus bs ⟨false, s.stopSiginfo, 0⟩)
  let t ← match bs.task with
    | none => .error unwrapNone
    | some t => .ok t
  let (l, t) := l.inExec t inExec
  let s := { s with stopSiginfo := l.stopSiginfo }
  if l.doStop ∧ t.tguid = s.debuggeeTguid then
    match s.dbg with
    | none => .error unwrapNone
    | some _ =>
      pure { s with
        stops := s.stops ++ [⟨getThreadid t, sigTryFrom l.stopSiginfo.siSigno, l.watchAddr⟩]
        lastContinueTuid := t.tuid
        lastQueryTuid := t.tuid }
  else pure s

/-! ## The stop by priority -/

/-- The stop a step reports, by priority as the spec lists the causes: an
exec stops silently, the last thread's exit (when gdb can reverse-execute)
with `SIGKILL` forward and silently backward, a signal with its `siginfo_t`,
a breakpoint, singlestep or watchpoint with `SIGTRAP`; nothing else stops. -/
def reportedStop (rev : Bool) (req : RunDirection) (bs : StopBreakStatus) (lastExit inExec : Bool) :
    Option Siginfo :=
  if inExec then some Siginfo.default
  else if lastExit ∧ rev then
    some { Siginfo.default with siSigno := if req = .RunForward then sigkill else 0 }
  else match bs.signal with
    | some sig => some sig
    | none =>
      if bs.breakpointHit ∨ bs.singlestepComplete ∨ bs.watchpointsHit ≠ [] then
        some { Siginfo.default with siSigno := sigtrap }
      else none

/-- The server after a stop `stop` at task `t`: `stop_siginfo` is the stop's
whether or not it is reported; the notification and the tuids change only
for a stop at a task of the debuggee's thread group. -/
def StopServer.afterStop (s : StopServer) (stop : Option Siginfo) (t : StopTask) (watchAddr : Nat) :
    StopServer :=
  let s₁ := { s with stopSiginfo := stop.getD s.stopSiginfo }
  if stop.isSome ∧ t.tguid = s.debuggeeTguid then
    { s₁ with
      stops := s.stops ++ [⟨getThreadid t, sigTryFrom (stop.getD s.stopSiginfo).siSigno, watchAddr⟩]
      lastContinueTuid := t.tuid
      lastQueryTuid := t.tuid }
  else s₁

variable {s : StopServer} {req : RunDirection} {bs : StopBreakStatus} {l : StopLocals}

@[simp] theorem StopLocals.stop_doStop (l : StopLocals) (sig : Siginfo) : (l.stop sig).doStop = true := rfl

@[simp] theorem StopLocals.stop_stopSiginfo (l : StopLocals) (sig : Siginfo) :
    (l.stop sig).stopSiginfo = sig := rfl

/-- The first three tests leave the watchpoint address of the first hit, and
stop exactly when the priority list without its first two causes does, with
its signal. -/
theorem StopLocals.ofBreakStatus_eq (req : RunDirection) (l : StopLocals) :
    StopLocals.ofBreakStatus bs l =
      match reportedStop false req bs false false with
      | some sig => ⟨true, sig, bs.watchpointsHit.headD l.watchAddr⟩
      | none => l := by
  rcases bs with ⟨task, _ | ⟨a, as⟩, bp, ss, sig, ex⟩ <;>
    rcases sig with _ | sig <;> cases bp <;> cases ss <;> rfl

theorem isLastThreadExit_of_task {t₀ : StopTask} (ht : bs.task = some t₀) :
    isLastThreadExit bs.toBreakStatus = .ok (bs.taskExit && t₀.threadCount == 1) := by
  cases hx : bs.taskExit <;> simp [isLastThreadExit, StopBreakStatus.toBreakStatus, ht, hx]

theorem StopLocals.lastThreadExit_of_task {t₀ : StopTask} (ht : bs.task = some t₀) :
    StopLocals.lastThreadExit s req bs l =
      if (bs.taskExit && t₀.threadCount == 1) ∧ s.dbg = none then .error unwrapNone
      else .ok (if (bs.taskExit && t₀.threadCount == 1) ∧ s.reverseExecution then l.stopAtExit req
        else l) := by
  rw [StopLocals.lastThreadExit, isLastThreadExit_of_task ht, Except.ok_bind]
  cases (bs.taskExit && t₀.threadCount == 1) <;> cases s.dbg <;> cases s.reverseExecution <;> rfl

theorem StopLocals.lastThreadExit_of_none (ht : bs.task = none) :
    StopLocals.lastThreadExit s req bs l = if bs.taskExit then .error unwrapNone else .ok l := by
  cases hx : bs.taskExit <;>
    simp [StopLocals.lastThreadExit, isLastThreadExit, StopBreakStatus.toBreakStatus, ht, hx] <;> rfl

theorem reportedStop_eq (rev : Bool) (lastExit inExec : Bool) :
    reportedStop rev req bs lastExit inExec =
      if inExec then some Siginfo.default
      else if lastExit ∧ rev then
        some { Siginfo.default with siSigno := if req = .RunForward then sigkill else 0 }
      else reportedStop false req bs false false := by
  simp only [reportedStop, Bool.false_eq_true, if_false, false_and]

theorem watchpointsHit_of_reportedStop (h : reportedStop false req bs false false = none) :
    bs.watchpointsHit = [] := by
  simp only [reportedStop, Bool.false_eq_true, if_false, false_and] at h
  split at h
  · cases h
  · split_ifs at h with hc
    exact not_not.mp fun hw => hc (.inr (.inr hw))

/-- The code's overwrites select the stop by priority. -/
theorem StopLocals.reported (si : Siginfo) (lastExit rev : Bool) (inExec : Option StopTask) (t₀ : StopTask) :
    (if lastExit ∧ rev then (StopLocals.ofBreakStatus bs ⟨false, si, 0⟩).stopAtExit req
      else StopLocals.ofBreakStatus bs ⟨false, si, 0⟩).inExec t₀ inExec =
      (⟨(reportedStop rev req bs lastExit inExec.isSome).isSome,
        (reportedStop rev req bs lastExit inExec.isSome).getD si, bs.watchpointsHit.headD 0⟩,
        inExec.getD t₀) := by
  rw [StopLocals.ofBreakStatus_eq req, reportedStop_eq rev lastExit]
  cases hr : reportedStop false req bs false false with
  | none =>
    have hw := watchpointsHit_of_reportedStop hr
    cases inExec <;> by_cases hx : lastExit ∧ rev <;>
      simp [hx, hw, StopLocals.stop, StopLocals.stopAtExit, StopLocals.inExec]
  | some sig =>
    cases inExec <;> by_cases hx : lastExit ∧ rev <;>
      simp [hx, StopLocals.stop, StopLocals.stopAtExit, StopLocals.inExec]

/-- **What `maybe_notify_stop` does**, for every break status. It panics
when the break status has no task, and when there is no debugger connection
but the last thread exits or a stop is to be reported. Otherwise the stop is
the one `reportedStop` selects by priority, `stop_siginfo` becomes its
`siginfo_t` whether or not the stop is reported, and the server sends one
notification, for the exec-ed task if there is one and the stop's task
otherwise, with the stop's signal and the first watchpoint's address, and
moves `last_continue_tuid` and `last_query_tuid` to that task, exactly when
something stops at a task of the debuggee's thread group. -/
theorem maybeNotifyStop_eq (inExec : Option StopTask) :
    maybeNotifyStop s req bs inExec =
      match bs.task with
      | none => .error unwrapNone
      | some t₀ =>
        let lastExit := bs.taskExit && t₀.threadCount == 1
        let stop := reportedStop s.reverseExecution req bs lastExit inExec.isSome
        let t := inExec.getD t₀
        if s.dbg = none ∧ (lastExit ∨ stop.isSome ∧ t.tguid = s.debuggeeTguid) then .error unwrapNone
        else .ok (s.afterStop stop t (bs.watchpointsHit.headD 0)) := by
  cases ht : bs.task with
  | none =>
    rw [maybeNotifyStop, StopLocals.lastThreadExit_of_none ht]
    split_ifs
    · rfl
    · rw [Except.ok_bind, ht]; rfl
  | some t₀ =>
    rw [maybeNotifyStop, StopLocals.lastThreadExit_of_task ht]
    dsimp only
    by_cases he : (bs.taskExit && t₀.threadCount == 1) ∧ s.dbg = none
    · rw [if_pos he, if_pos ⟨he.2, .inl he.1⟩]
      rfl
    simp only [if_neg he, Except.ok_bind, ht, StopLocals.reported]
    generalize reportedStop s.reverseExecution req bs (bs.taskExit && t₀.threadCount == 1) inExec.isSome =
      stop
    generalize inExec.getD t₀ = t
    unfold StopServer.afterStop
    by_cases hn : stop.isSome ∧ t.tguid = s.debuggeeTguid
    · rw [if_pos hn, if_pos hn]
      cases hd : s.dbg
      · rw [if_pos ⟨rfl, .inr hn⟩]
      · rw [if_neg (by simp)]; rfl
    · rw [if_neg hn, if_neg hn, if_neg fun h => h.2.elim (fun hl => he ⟨hl, h.1⟩) hn]
      rfl

/-! ## Breakpoint conditions -/

/-- `GdbExpression`, as its bytecode. -/
structure GdbExpression where
  bytecode : List UInt8
  deriving DecidableEq, Repr

/-- `GdbExpression::new(b)`. -/
def GdbExpression.new (b : List UInt8) : GdbExpression := ⟨b⟩

/-- `GdbBreakpointCondition`. -/
structure GdbBreakpointCondition where
  expressions : List GdbExpression
  deriving DecidableEq, Repr

/-- `GdbBreakpointCondition::new(bytecodes)`. -/
def GdbBreakpointCondition.new (bytecodes : List (List UInt8)) : GdbBreakpointCondition :=
  ⟨bytecodes.map GdbExpression.new⟩

/-- The loop of `evaluate`: it returns true at the first expression whose
evaluation fails or is nonzero. `eval e` is `e.evaluate(t, &mut v)` on the
task: `none` when it fails, `v.i` otherwise. -/
def evaluateExpressions (eval : GdbExpression → Option Int) : List GdbExpression → Bool
  | [] => false
  | e :: es =>
    match eval e with
    | none => true
    | some v => if v ≠ 0 then true else evaluateExpressions eval es

/-- `BreakpointCondition::evaluate(t)` of a `GdbBreakpointCondition`. -/
def GdbBreakpointCondition.evaluate (c : GdbBreakpointCondition) (eval : GdbExpression → Option Int) : Bool :=
  evaluateExpressions eval c.expressions

/-- `breakpoint_condition(request)`, on `request.watch().conditions`. -/
def breakpointCondition (conditions : List (List UInt8)) : Option GdbBreakpointCondition :=
  if conditions.isEmpty then none else some (GdbBreakpointCondition.new conditions)

theorem evaluateExpressions_iff (eval : GdbExpression → Option Int) (es : List GdbExpression) :
    evaluateExpressions eval es = true ↔ ∃ e ∈ es, eval e ≠ some 0 := by
  induction es with
  | nil => simp [evaluateExpressions]
  | cons e es ih =>
    simp only [List.mem_cons, exists_eq_or_imp]
    cases h : eval e with
    | none => simp [evaluateExpressions, h]
    | some v => by_cases hv : v = 0 <;> simp [evaluateExpressions, h, hv, ih]

/-- **A breakpoint condition stops as soon as one of its expressions fails
to evaluate or is nonzero.** A request without conditions has no condition;
otherwise the condition holds exactly when some expression evaluates to
anything but 0, not only when all of them do. -/
theorem breakpointCondition_evaluate (conditions : List (List UInt8)) (eval : GdbExpression → Option Int) :
    (breakpointCondition conditions).map (·.evaluate eval) =
      if conditions = [] then none
      else some (decide (∃ b ∈ conditions, eval (GdbExpression.new b) ≠ some 0)) := by
  cases conditions with
  | nil => rfl
  | cons b bs =>
    simp only [breakpointCondition, List.isEmpty_cons, Bool.false_eq_true, if_false, Option.map_some',
      reduceCtorEq, GdbBreakpointCondition.evaluate, GdbBreakpointCondition.new]
    congr 1
    rw [Bool.eq_iff_iff, evaluateExpressions_iff, decide_eq_true_iff]
    simp

/-- Conditions `0` and `1`: the second one stops. -/
example : (breakpointCondition [[0], [1]]).map (·.evaluate fun e => some ((e.bytecode.headD 0).toNat : Int)) =
    some true := by decide

end RdCore.Gdb
