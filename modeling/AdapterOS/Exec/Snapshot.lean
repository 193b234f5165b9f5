import AdapterOS.Exec.Replay

/-! Crash recovery: a snapshot of the executor, restored into a fresh one. -/
namespace AdapterOS.Exec

open Library

/-- The generator behind `deterministic_random`; `κ` says which type is drawn. -/
structure Generator (ρ κ ν : Type) where
  fromSeed : B3Hash → ρ
  gen : ρ → κ → ν × ρ

structure TaskSnapshot where
  id : TaskId
  description : String
  spawnTick : UInt64
  completed : Bool

structure ExecutorSnapshot where
  tick : UInt64
  rngSeed : B3Hash
  pendingTasks : List TaskSnapshot
  eventLog : List ExecutorEvent
  globalSequence : UInt64
  agentId : Option String

/-- The errors of a restore. -/
inductive RestoreError where
  | executorRunning
  | snapshotValidationFailed (reason : String)

/-- The executor with its generator and the flag that a run is going on. -/
structure SeededExecutor (ρ : Type) extends DeterministicExecutor where
  rng : ρ
  running : Bool

inductive ExecutorCall (κ : Type) where
  | spawnDeterministic (description : String)
  | run (env : Nat → Turn) (fuel : Nat)
  | runSteps (env : Nat → Turn) (maxSteps : Nat)
  | deterministicRandom (kind : κ)
  | clearEventLog
  | wake (calls : Nat)

def ExecutorCall.Quiet {κ : Type} (config : ExecutorConfig) : ExecutorCall κ → Prop
  | .deterministicRandom _ => False
  | .run _ _ => config.replayMode = false
  | _ => True

inductive Reply (ν : Type) where
  | spawned (id : TaskId)
  | drawn (value : ν)
  | done
  | failed (error : DeterministicExecutorError)

namespace SeededExecutor

variable {ρ κ ν : Type} (rand : Generator ρ κ ν) (hash : List UInt8 → B3Hash)

def new (config : ExecutorConfig) (sequence : UInt64) : SeededExecutor ρ :=
  { DeterministicExecutor.new config sequence with
    rng := rand.fromSeed config.globalSeed, running := false }

def isRunning (x : SeededExecutor ρ) : Bool := x.running

def deterministicRandom (x : SeededExecutor ρ) (kind : κ) : ν × SeededExecutor ρ :=
  let (value, rng) := rand.gen x.rng kind
  (value, { x with rng := rng })

def clearEventLog (x : SeededExecutor ρ) : SeededExecutor ρ := { x with eventLog := [] }

/-- No task of the queue is ever marked as completed there. -/
def snapshot (x : SeededExecutor ρ) : ExecutorSnapshot where
  tick := x.tickCounter
  rngSeed := x.config.globalSeed
  pendingTasks := x.taskQueue.map fun task => ⟨task.id, task.description, task.spawnTick, false⟩
  eventLog := x.eventLog
  globalSequence := x.globalTaskSequence
  agentId := x.config.agentId

def restore (x : SeededExecutor ρ) (snapshot : ExecutorSnapshot) :
    Except RestoreError (SeededExecutor ρ) :=
  if x.isRunning then .error .executorRunning
  else if snapshot.rngSeed ≠ x.config.globalSeed then
    .error (.snapshotValidationFailed "RNG seed mismatch")
  else
    .ok { x with
      tickCounter := snapshot.tick
      globalTaskSequence := snapshot.globalSequence
      eventLog := snapshot.eventLog }

/-- One call from outside; `none` while a run has not come to its end. -/
def call (x : SeededExecutor ρ) : ExecutorCall κ → Option (SeededExecutor ρ × Reply ν)
  | .spawnDeterministic description =>
    some ({ x with toDeterministicExecutor := x.spawnDeterministic hash description },
      .spawned (DeterministicExecutor.fromSeedAndSeq hash x.config.globalSeed x.globalTaskSequence))
  | .run env fuel =>
    (x.run hash env fuel).map fun (y, _) =>
      ({ x with toDeterministicExecutor := y, running := false }, .done)
  | .runSteps env maxSteps =>
    match x.runSteps hash env maxSteps with
    | .error error => some (x, .failed error)
    | .ok (y, _) => some ({ x with toDeterministicExecutor := y, running := false }, .done)
  | .deterministicRandom kind =>
    some ((x.deterministicRandom rand kind).2, .drawn (x.deterministicRandom rand kind).1)
  | .clearEventLog => some (x.clearEventLog, .done)
  | .wake calls =>
    some ({ x with toDeterministicExecutor := x.toDeterministicExecutor.wake calls }, .done)

/-- Calls one after another, with what they return. -/
def calls (x : SeededExecutor ρ) :
    List (ExecutorCall κ) → Option (SeededExecutor ρ × List (Reply ν))
  | [] => some (x, [])
  | c :: rest => do
    let (y, reply) ← x.call rand hash c
    let (z, replies) ← calls y rest
    return (z, reply :: replies)

/-- What can be seen after some calls: the tick, the event log and what the calls returned. -/
def observed (x : SeededExecutor ρ) (later : List (ExecutorCall κ)) :
    Option (UInt64 × List ExecutorEvent × List (Reply ν)) :=
  (x.calls rand hash later).map fun (y, replies) => (y.currentTick, y.eventLog, replies)

def Idle (x : SeededExecutor ρ) : Prop := x.isRunning = false ∧ x.taskQueue = []

/-- A fresh executor of the same configuration, in a process whose counter stands anywhere, behaves
as `x` once it has taken over its snapshot. -/
def Recovers (x : SeededExecutor ρ) : Prop :=
  ∀ sequence, ∃ y, (new rand x.config sequence).restore x.snapshot = .ok y ∧
    ∀ later, y.observed rand hash later = x.observed rand hash later

end SeededExecutor

section Frame

variable {x : DeterministicExecutor} {turn : Turn} {hash : List UInt8 → B3Hash}

namespace DeterministicExecutor

@[simp] theorem replayIndex_logEvent (event : ExecutorEvent) :
    (x.logEvent event).replayIndex = x.replayIndex := by
  unfold logEvent
  split <;> rfl

theorem replayIndex_pollNext : (x.pollNext hash turn).replayIndex = x.replayIndex := by
  unfold pollNext
  split
  · rfl
  · simp only [pollTask]
    split
    · simp [wake, expire]
    · split
      · simp [wake, complete]
      · simp [wake, suspend]

theorem replayIndex_run (turns : List Turn) :
    (Library.run (pollNext hash) x turns).replayIndex = x.replayIndex := by
  have hstep : ∀ (y : DeterministicExecutor) (turn : Turn), y.replayIndex = x.replayIndex →
      (y.pollNext hash turn).replayIndex = x.replayIndex :=
    fun y turn hy => replayIndex_pollNext.trans hy
  exact run_invariant (I := fun y : DeterministicExecutor => y.replayIndex = x.replayIndex) hstep
    rfl turns

end DeterministicExecutor

end Frame

section Alike

variable {x y : DeterministicExecutor} {hash : List UInt8 → B3Hash}

def DeterministicExecutor.Alike (x y : DeterministicExecutor) : Prop :=
  ∃ finished, y = { x with completedTasks := finished }

namespace DeterministicExecutor.Alike

variable (h : x.Alike y)

include h

theorem config : y.config = x.config := by
  obtain ⟨finished, rfl⟩ := h
  rfl

theorem taskQueue : y.taskQueue = x.taskQueue := by
  obtain ⟨finished, rfl⟩ := h
  rfl

theorem tickCounter : y.tickCounter = x.tickCounter := by
  obtain ⟨finished, rfl⟩ := h
  rfl

theorem eventLog : y.eventLog = x.eventLog := by
  obtain ⟨finished, rfl⟩ := h
  rfl

theorem logEvent (event : ExecutorEvent) : (x.logEvent event).Alike (y.logEvent event) := by
  obtain ⟨finished, rfl⟩ := h
  refine ⟨finished, ?_⟩
  unfold DeterministicExecutor.logEvent
  split <;> rfl

theorem wake (calls : Nat) : (x.wake calls).Alike (y.wake calls) := by
  obtain ⟨finished, rfl⟩ := h
  exact ⟨finished, rfl⟩

theorem spawnDeterministic (description : String) :
    (x.spawnDeterministic hash description).Alike (y.spawnDeterministic hash description) := by
  obtain ⟨finished, rfl⟩ := h
  exact logEvent ⟨finished, rfl⟩ _

theorem expire (task : DeterministicTask) (tick : UInt64) :
    (x.expire hash task tick).Alike (y.expire hash task tick) := by
  obtain ⟨finished, rfl⟩ := h
  exact logEvent ⟨finished, rfl⟩ _

theorem complete (task : DeterministicTask) :
    (x.complete hash task).Alike (y.complete hash task) := by
  obtain ⟨finished, rfl⟩ := h
  exact logEvent ⟨insert task.id finished, rfl⟩ _

theorem suspend (task : DeterministicTask) (turn : Turn) :
    (x.suspend hash task turn).Alike (y.suspend hash task turn) := by
  obtain ⟨finished, rfl⟩ := h
  exact logEvent ⟨finished, rfl⟩ _

theorem pollTask (task : DeterministicTask) (turn : Turn) :
    (x.pollTask hash task turn).Alike (y.pollTask hash task turn) := by
  have htimes : y.timesOut task turn = x.timesOut task turn := by
    obtain ⟨finished, rfl⟩ := h
    rfl
  unfold DeterministicExecutor.pollTask
  rw [htimes, h.tickCounter]
  split
  · exact ((h.wake _).expire _ _).wake _
  · dsimp only
    split
    · exact (((h.wake _).wake _).complete _).wake _
    · exact (((h.wake _).wake _).suspend _ _).wake _

theorem pollNext (turn : Turn) : (x.pollNext hash turn).Alike (y.pollNext hash turn) := by
  unfold DeterministicExecutor.pollNext
  rw [h.taskQueue]
  cases x.taskQueue with
  | nil => exact h
  | cons task rest =>
    obtain ⟨finished, rfl⟩ := h
    exact pollTask ⟨finished, rfl⟩ task turn

theorem pollLoop (env : Nat → Turn) (limit : Nat) :
    SameResult Alike (DeterministicExecutor.pollLoop hash env limit x)
      (DeterministicExecutor.pollLoop hash env limit y) := by
  induction limit generalizing x y env with
  | zero => exact ⟨h, rfl⟩
  | succ limit ih =>
    unfold DeterministicExecutor.pollLoop
    rw [h.taskQueue]
    cases x.taskQueue with
    | nil => exact ⟨h, rfl⟩
    | cons task rest =>
      obtain ⟨hstate, hsteps⟩ := ih (h.pollNext (env 0)) fun i => env (i + 1)
      exact ⟨hstate, congrArg (· + 1) hsteps⟩

theorem runNormalModeWithLimit (maxSteps : Option Nat) (env : Nat → Turn) :
    SameResult Alike (x.runNormalModeWithLimit hash maxSteps env)
      (y.runNormalModeWithLimit hash maxSteps env) := by
  unfold DeterministicExecutor.runNormalModeWithLimit
  rw [h.taskQueue]
  exact h.pollLoop env _

theorem runNormalMode (env : Nat → Turn) (fuel : Nat) :
    Option.Rel (SameResult Alike) (x.runNormalMode hash env fuel)
      (y.runNormalMode hash env fuel) := by
  induction fuel generalizing x y env with
  | zero => exact .none
  | succ fuel ih =>
    obtain ⟨hstate, hsteps⟩ : SameResult Alike (x.runNormalModeWithLimit hash none env) _ :=
      h.runNormalModeWithLimit none env
    unfold DeterministicExecutor.runNormalMode
    dsimp only
    rw [hstate.taskQueue, ← hsteps]
    split
    · exact .some ⟨hstate, rfl⟩
    · refine rel_map (ih hstate _) ?_
      rintro ⟨x', more⟩ ⟨y', more'⟩ ⟨halike, hmore⟩
      exact ⟨halike, congrArg (_ + ·) hmore⟩

theorem foldl_replayEvent (events : List ExecutorEvent) :
    (events.foldl replayEvent x).Alike (events.foldl replayEvent y) := by
  induction events generalizing x y with
  | nil => exact h
  | cons event events ih =>
    refine ih ?_
    cases event with
    | tickAdvanced fromTick toTick agentId eventHash =>
      obtain ⟨finished, rfl⟩ := h
      exact logEvent ⟨finished, rfl⟩ _
    | _ => exact h.logEvent _

theorem runReplayMode : x.runReplayMode.Alike y.runReplayMode := by
  have hindex : y.replayIndex = x.replayIndex := by
    obtain ⟨finished, rfl⟩ := h
    rfl
  unfold DeterministicExecutor.runReplayMode
  rw [h.config, hindex]
  obtain ⟨finished, hfold⟩ := h.foldl_replayEvent (x.config.replayEvents.drop x.replayIndex)
  exact ⟨finished, by rw [hfold]⟩

theorem run (env : Nat → Turn) (fuel : Nat) :
    Option.Rel (SameResult Alike) (x.run hash env fuel) (y.run hash env fuel) := by
  unfold DeterministicExecutor.run
  rw [h.config]
  split
  · exact .some ⟨h.runReplayMode, rfl⟩
  · exact h.runNormalMode env fuel

end DeterministicExecutor.Alike

end Alike

namespace SeededExecutor

variable {ρ κ ν : Type} {rand : Generator ρ κ ν} {hash : List UInt8 → B3Hash}
  {x y : SeededExecutor ρ}

section Recovery

structure Alike (x y : SeededExecutor ρ) : Prop where
  executor : x.toDeterministicExecutor.Alike y.toDeterministicExecutor
  rng : y.rng = x.rng
  running : y.running = x.running

theorem Alike.call (h : x.Alike y) (c : ExecutorCall κ) :
    Option.Rel (SameResult Alike) (x.call rand hash c) (y.call rand hash c) := by
  obtain ⟨hexec, hrng, hrunning⟩ := h
  cases c with
  | spawnDeterministic description =>
    refine .some ⟨⟨hexec.spawnDeterministic description, hrng, hrunning⟩, ?_⟩
    obtain ⟨finished, hy⟩ := hexec
    simp only [hy]
  | run env fuel =>
    refine rel_map (hexec.run env fuel) ?_
    rintro ⟨x', steps⟩ ⟨y', _⟩ ⟨halike, _⟩
    exact ⟨⟨halike, hrng, rfl⟩, rfl⟩
  | runSteps env maxSteps =>
    obtain ⟨hstate, _⟩ : SameResult DeterministicExecutor.Alike
        (x.runNormalModeWithLimit hash (some maxSteps) env) _ :=
      hexec.runNormalModeWithLimit (some maxSteps) env
    unfold SeededExecutor.call DeterministicExecutor.runSteps
    rw [hexec.config]
    cases x.config.replayMode with
    | true => exact .some ⟨⟨hexec, hrng, hrunning⟩, rfl⟩
    | false => exact .some ⟨⟨hstate, hrng, rfl⟩, rfl⟩
  | deterministicRandom kind =>
    have hdraw : rand.gen y.rng kind = rand.gen x.rng kind := by rw [hrng]
    have hvalue := congrArg Prod.fst hdraw.symm
    exact .some ⟨⟨hexec, congrArg Prod.snd hdraw, hrunning⟩, congrArg Reply.drawn hvalue⟩
  | clearEventLog =>
    obtain ⟨finished, hy⟩ := hexec
    refine .some ⟨⟨⟨finished, ?_⟩, hrng, hrunning⟩, rfl⟩
    rw [SeededExecutor.clearEventLog, hy]
    rfl
  | wake calls => exact .some ⟨⟨hexec.wake calls, hrng, hrunning⟩, rfl⟩

theorem Alike.calls (h : x.Alike y) (later : List (ExecutorCall κ)) :
    Option.Rel (SameResult Alike) (x.calls rand hash later) (y.calls rand hash later) := by
  induction later generalizing x y with
  | nil => exact .some ⟨h, rfl⟩
  | cons c later ih =>
    refine rel_bind (h.call c) ?_
    rintro ⟨x', reply⟩ ⟨y', _⟩ ⟨halike, rfl⟩
    refine rel_bind (ih halike) ?_
    rintro ⟨x'', replies⟩ ⟨y'', _⟩ ⟨halike', rfl⟩
    exact .some ⟨halike', rfl⟩

theorem Alike.observed (h : x.Alike y) (later : List (ExecutorCall κ)) :
    y.observed rand hash later = x.observed rand hash later := by
  have hseen : Option.Rel (fun p q => q = p) (x.observed rand hash later)
      (y.observed rand hash later) := by
    refine rel_map (h.calls later) ?_
    rintro ⟨x', replies⟩ ⟨y', _⟩ ⟨halike, rfl⟩
    have htick : y'.tickCounter = x'.tickCounter := halike.executor.tickCounter
    have hlog : y'.eventLog = x'.eventLog := halike.executor.eventLog
    simp only [DeterministicExecutor.currentTick, htick, hlog]
  generalize x.observed rand hash later = seen, y.observed rand hash later = seen' at hseen ⊢
  cases hseen with
  | none => rfl
  | some heq => exact congrArg some heq

theorem restore_snapshot (x : SeededExecutor ρ) (sequence : UInt64) :
    (new rand x.config sequence).restore x.snapshot = .ok { new rand x.config sequence with
      tickCounter := x.tickCounter
      globalTaskSequence := x.globalTaskSequence
      eventLog := x.eventLog } := by
  simp [restore, isRunning, new, snapshot, DeterministicExecutor.new]

theorem recovers_of_unused (hidle : x.Idle) (hrng : x.rng = rand.fromSeed x.config.globalSeed)
    (hindex : x.replayIndex = 0) : x.Recovers rand hash := by
  intro sequence
  obtain ⟨hrunning, hqueue⟩ := hidle
  refine ⟨_, restore_snapshot x sequence, fun later => Alike.observed ⟨⟨∅, ?_⟩, ?_, ?_⟩ later⟩
  · simp [new, DeterministicExecutor.new, hqueue, hindex]
  · exact hrng.symm
  · exact hrunning.symm

end Recovery

section Runs

/-- Nothing was drawn and nothing replayed. -/
structure Unused (rand : Generator ρ κ ν) (start : ExecutorConfig) (x : SeededExecutor ρ) :
    Prop where
  config : x.config = start
  rng : x.rng = rand.fromSeed start.globalSeed
  replayIndex : x.replayIndex = 0

variable {config : ExecutorConfig}

theorem Unused.normalRun (h : x.Unused rand config) {env : Nat → Turn} {steps : Nat}
    {x' : DeterministicExecutor} (hmode : config.replayMode = false)
    (hrun : x.NormalRun hash env x' steps) :
    Unused rand config { x with toDeterministicExecutor := x', running := false } := by
  have hend := hrun.eq_run (by rw [h.config]; exact hmode)
  refine ⟨?_, h.rng, ?_⟩
  · rw [hend, DeterministicExecutor.config_run, h.config]
  · rw [hend, DeterministicExecutor.replayIndex_run, h.replayIndex]

theorem Unused.call (h : x.Unused rand config) {c : ExecutorCall κ} {reply : Reply ν}
    (hc : c.Quiet config) (hcall : x.call rand hash c = some (y, reply)) :
    y.Unused rand config := by
  cases c with
  | spawnDeterministic description =>
    cases hcall
    refine ⟨?_, h.rng, ?_⟩
    · simp [DeterministicExecutor.spawnDeterministic, h.config]
    · simp [DeterministicExecutor.spawnDeterministic, h.replayIndex]
  | run env fuel =>
    obtain ⟨⟨x', steps⟩, hx', heq⟩ := Option.map_eq_some_iff.mp hcall
    cases heq
    exact h.normalRun hc (.inl ⟨fuel, hx'⟩)
  | runSteps env maxSteps =>
    cases hsteps : x.runSteps hash env maxSteps with
    | error error =>
      simp only [SeededExecutor.call, hsteps] at hcall
      cases hcall
      exact h
    | ok result =>
      simp only [SeededExecutor.call, hsteps] at hcall
      cases hcall
      refine h.normalRun ?_ (.inr ⟨maxSteps, hsteps⟩)
      -- in replay mode `run_steps` is an error
      cases hmode : config.replayMode with
      | false => rfl
      | true =>
        rw [DeterministicExecutor.runSteps, h.config, hmode] at hsteps
        cases hsteps
  | deterministicRandom kind => exact hc.elim
  | clearEventLog | wake calls =>
    cases hcall
    exact ⟨h.config, h.rng, h.replayIndex⟩

theorem Unused.calls (h : x.Unused rand config) {earlier : List (ExecutorCall κ)}
    {replies : List (Reply ν)} (hquiet : ∀ c ∈ earlier, c.Quiet config)
    (hcalls : x.calls rand hash earlier = some (y, replies)) : y.Unused rand config := by
  induction earlier generalizing x replies with
  | nil =>
    cases hcalls
    exact h
  | cons c earlier ih =>
    obtain ⟨⟨x', reply⟩, hcall, hrest⟩ := Option.bind_eq_some_iff.mp hcalls
    obtain ⟨⟨z, replies'⟩, hcalls', heq⟩ := Option.bind_eq_some_iff.mp hrest
    cases heq
    have hx' := h.call (hquiet c (by simp)) hcall
    exact ih hx' (fun c' hc' => hquiet c' (List.mem_cons_of_mem _ hc')) hcalls'

/-- After any calls that drew no random value and replayed no events, an idle executor is recovered
from its snapshot: ticks, log, ids and random values go on as in the original. -/
theorem quiet_run_recovers (config : ExecutorConfig) (sequence : UInt64)
    (earlier : List (ExecutorCall κ)) (replies : List (Reply ν))
    (hcalls : (new rand config sequence).calls rand hash earlier = some (x, replies))
    (hquiet : ∀ c ∈ earlier, c.Quiet config) (hidle : x.Idle) : x.Recovers rand hash := by
  have hunused : x.Unused rand config := Unused.calls ⟨rfl, rfl, rfl⟩ hquiet hcalls
  refine recovers_of_unused hidle ?_ hunused.replayIndex
  rw [hunused.config, hunused.rng]

def counting : Generator Nat Unit Nat := ⟨fun _ => 0, fun n _ => (n, n + 1)⟩

/-- A task is run to its end. -/
theorem finished_task_recovers : ∃ x replies, (new counting {} 0).calls counting digitHash
        [.spawnDeterministic "Snapshot Task 0", .run (fun _ => { ready := true }) 1] =
          some (x, replies) ∧
      x.eventLog.length = 2 ∧ x.Recovers counting digitHash := by
  refine ⟨_, _, rfl, rfl, ?_⟩
  refine quiet_run_recovers {} 0 [.spawnDeterministic "Snapshot Task 0",
    .run (fun _ => { ready := true }) 1] _ rfl ?_ ⟨rfl, rfl⟩
  intro c hc
  simp only [List.mem_cons, List.not_mem_nil, or_false] at hc
  rcases hc with rfl | rfl
  · trivial
  · rfl

/-- The generator starts again after one value was drawn, and so does the replay of one event. -/
theorem drawn_not_recovered :
    (∃ x replies, (new counting {} 0).calls counting digitHash [.deterministicRandom ()] =
        some (x, replies) ∧ x.Idle ∧ ¬ x.Recovers counting digitHash) ∧
    ∃ x replies, (new counting { replayMode := true, replayEvents := [.tickAdvanced 0 1 none 0] }
        0).calls counting digitHash [.run (fun _ => {}) 1] = some (x, replies) ∧
      x.Idle ∧ ¬ x.Recovers counting digitHash := by
  refine ⟨⟨_, _, rfl, ⟨rfl, rfl⟩, ?_⟩, ⟨_, _, rfl, ⟨rfl, rfl⟩, ?_⟩⟩
  · intro h
    obtain ⟨y, hy, hsame⟩ := h 0
    cases hy
    have hdraw := hsame [.deterministicRandom ()]
    cases hdraw
  · intro h
    obtain ⟨y, hy, hsame⟩ := h 0
    cases hy
    have hlog := hsame [.run (fun _ => {}) 1]
    cases hlog

end Runs

end SeededExecutor

end AdapterOS.Exec
