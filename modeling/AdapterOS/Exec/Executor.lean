import AdapterOS.Core.Basic
import AdapterOS.Library.Run
import Mathlib.Data.Finset.Insert

/-! The deterministic executor: tasks polled in queue order, a tick counter that the executor and
the wakers advance, an event log, and the mode that replays such a log. Ticks wrap, as in a release
build. -/
namespace AdapterOS.Exec

open Library

abbrev TaskId := B3Hash

inductive ExecutorEvent where
  | taskSpawned (taskId : TaskId) (description : String) (tick : UInt64) (agentId : Option String)
      (hash : B3Hash)
  | taskCompleted (taskId : TaskId) (tick durationTicks : UInt64) (agentId : Option String)
      (hash : B3Hash)
  | taskFailed (taskId : TaskId) (error : String) (tick durationTicks : UInt64)
      (agentId : Option String) (hash : B3Hash)
  | taskTimeout (taskId : TaskId) (timeoutTicks tick : UInt64) (agentId : Option String)
      (hash : B3Hash)
  | inferenceStarted (runId : String) (tick : UInt64) (hash : B3Hash)
  | tickAdvanced (fromTick toTick : UInt64) (agentId : Option String) (hash : B3Hash)
  deriving DecidableEq

structure ExecutorConfig where
  globalSeed : B3Hash := 0
  maxTicksPerTask : UInt64 := 1000
  enableEventLogging : Bool := true
  replayMode : Bool := false
  replayEvents : List ExecutorEvent := []
  agentId : Option String := none

structure TickTimeout where
  taskId : TaskId
  timeoutTick : UInt64

def TickTimeout.isTimeout (timeout : TickTimeout) (currentTick : UInt64) : Bool :=
  timeout.timeoutTick ≤ currentTick

/-- What the code of a task does when it is polled comes with the turn. -/
structure DeterministicTask where
  id : TaskId
  description : String
  spawnTick : UInt64
  timeout : Option TickTimeout

/-- One turn of the executor's loop: what the poll returns, and how many waker calls fall between
its accesses to the tick counter and until the next turn. -/
structure Turn where
  ready : Bool := false
  beforeCheck : Nat := 0
  duringPoll : Nat := 0
  beforeFrom : Nat := 0
  beforeTo : Nat := 0
  after : Nat := 0

inductive DeterministicExecutorError where
  | replayFailed (reason : String)

/-- `globalTaskSequence` is the process-wide counter. -/
structure DeterministicExecutor where
  config : ExecutorConfig
  taskQueue : List DeterministicTask
  tickCounter : UInt64
  eventLog : List ExecutorEvent
  replayIndex : Nat
  completedTasks : Finset TaskId
  globalTaskSequence : UInt64

namespace DeterministicExecutor

variable (hash : List UInt8 → B3Hash)

def new (config : ExecutorConfig) (sequence : UInt64) : DeterministicExecutor :=
  ⟨config, [], 0, [], 0, ∅, sequence⟩

def isTaskFinished (x : DeterministicExecutor) (taskId : TaskId) : Bool := taskId ∈ x.completedTasks

def currentTick (x : DeterministicExecutor) : UInt64 := x.tickCounter

def wake (x : DeterministicExecutor) (calls : Nat) : DeterministicExecutor :=
  { x with tickCounter := x.tickCounter + UInt64.ofNat calls }

def logEvent (x : DeterministicExecutor) (event : ExecutorEvent) : DeterministicExecutor :=
  if x.config.enableEventLogging then { x with eventLog := x.eventLog ++ [event] } else x

def fromSeedAndSeq (globalSeed : B3Hash) (seq : UInt64) : TaskId :=
  hash (globalSeed.asBytes ++ le64 seq)

def computeEventHash (taskId : TaskId) (description : String) (tick : UInt64) : B3Hash :=
  hash (taskId.asBytes ++ utf8 description ++ le64 tick)

def spawnDeterministic (x : DeterministicExecutor) (description : String) : DeterministicExecutor :=
  let taskId := fromSeedAndSeq hash x.config.globalSeed x.globalTaskSequence
  let task : DeterministicTask :=
    ⟨taskId, description, x.tickCounter, some ⟨taskId, x.tickCounter + x.config.maxTicksPerTask⟩⟩
  { x with
    globalTaskSequence := x.globalTaskSequence + 1
    taskQueue := x.taskQueue ++ [task] }.logEvent
    (.taskSpawned taskId description x.tickCounter x.config.agentId
      (computeEventHash hash taskId description x.tickCounter))

def spawnAll (x : DeterministicExecutor) (descriptions : List String) : DeterministicExecutor :=
  descriptions.foldl (spawnDeterministic hash) x

/-- A task whose time is up leaves the queue; `currentTick` was read at the start of the turn. -/
def expire (x : DeterministicExecutor) (task : DeterministicTask) (currentTick : UInt64) :
    DeterministicExecutor :=
  x.logEvent (.taskTimeout task.id x.config.maxTicksPerTask currentTick x.config.agentId
    (hash (task.id.asBytes ++ utf8 "timeout" ++ le64 currentTick)))

/-- `Poll::Ready`. -/
def complete (x : DeterministicExecutor) (task : DeterministicTask) : DeterministicExecutor :=
  let durationTicks := x.tickCounter - task.spawnTick
  { x with completedTasks := insert task.id x.completedTasks }.logEvent
    (.taskCompleted task.id x.tickCounter durationTicks x.config.agentId
      (hash (task.id.asBytes ++ utf8 "completed" ++ le64 x.tickCounter ++ le64 durationTicks)))

/-- `Poll::Pending`: the two ticks of the event are read one after the other. -/
def suspend (x : DeterministicExecutor) (task : DeterministicTask) (turn : Turn) :
    DeterministicExecutor :=
  let x := { x with taskQueue := x.taskQueue ++ [task], tickCounter := x.tickCounter + 1 }
  let x := x.wake turn.beforeFrom
  let oldTick := x.tickCounter - 1
  let x := x.wake turn.beforeTo
  x.logEvent (.tickAdvanced oldTick x.tickCounter x.config.agentId
    (hash (utf8 "tick_advanced" ++ le64 oldTick ++ le64 x.tickCounter)))

def timesOut (x : DeterministicExecutor) (task : DeterministicTask) (turn : Turn) : Bool :=
  task.timeout.any fun timeout => timeout.isTimeout (x.wake turn.beforeCheck).tickCounter

/-- A turn with the task that was taken off the queue. -/
def pollTask (x : DeterministicExecutor) (task : DeterministicTask) (turn : Turn) :
    DeterministicExecutor :=
  let checked := x.wake turn.beforeCheck
  if x.timesOut task turn then (checked.expire hash task x.tickCounter).wake turn.after
  else
    let polled := checked.wake turn.duringPoll
    if turn.ready then (polled.complete hash task).wake turn.after
    else (polled.suspend hash task turn).wake turn.after

def pollNext (x : DeterministicExecutor) (turn : Turn) : DeterministicExecutor :=
  match x.taskQueue with
  | [] => x
  | task :: rest => { x with taskQueue := rest }.pollTask hash task turn

/-- At most `limit` turns; returns how many were taken. -/
def pollLoop (env : Nat → Turn) : Nat → DeterministicExecutor → DeterministicExecutor × Nat
  | 0, x => (x, 0)
  | limit + 1, x =>
    match x.taskQueue with
    | [] => (x, 0)
    | _ :: _ =>
      let (y, steps) := pollLoop (fun i => env (i + 1)) limit (x.pollNext hash (env 0))
      (y, steps + 1)

def runNormalModeWithLimit (x : DeterministicExecutor) (maxSteps : Option Nat) (env : Nat → Turn) :
    DeterministicExecutor × Nat :=
  pollLoop hash env (maxSteps.getD x.taskQueue.length) x

/-- Passes until the queue is empty, `fuel` at most. -/
def runNormalMode (env : Nat → Turn) :
    Nat → DeterministicExecutor → Option (DeterministicExecutor × Nat)
  | 0, _ => none
  | fuel + 1, x =>
    let (y, steps) := x.runNormalModeWithLimit hash none env
    if y.taskQueue.isEmpty then some (y, steps)
    else (runNormalMode (fun i => env (i + steps)) fuel y).map fun (z, more) => (z, steps + more)

def replayEvent (x : DeterministicExecutor) (event : ExecutorEvent) : DeterministicExecutor :=
  match event with
  | .tickAdvanced _ toTick _ _ => { x with tickCounter := toTick }.logEvent event
  | .taskSpawned .. | .taskCompleted .. | .taskFailed .. | .taskTimeout ..
  | .inferenceStarted .. => x.logEvent event

def runReplayMode (x : DeterministicExecutor) : DeterministicExecutor :=
  { (x.config.replayEvents.drop x.replayIndex).foldl replayEvent x with
    replayIndex := max x.replayIndex x.config.replayEvents.length }

def run (x : DeterministicExecutor) (env : Nat → Turn) (fuel : Nat) :
    Option (DeterministicExecutor × Nat) :=
  if x.config.replayMode then some (x.runReplayMode, 0) else runNormalMode hash env fuel x

def runSteps (x : DeterministicExecutor) (env : Nat → Turn) (maxSteps : Nat) :
    Except DeterministicExecutorError (DeterministicExecutor × Nat) :=
  if x.config.replayMode then
    .error (.replayFailed "run_steps not supported in replay mode")
  else .ok (x.runNormalModeWithLimit hash (some maxSteps) env)

end DeterministicExecutor

end AdapterOS.Exec
