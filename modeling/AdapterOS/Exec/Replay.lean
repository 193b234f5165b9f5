import AdapterOS.Exec.Executor

/-! What a replay of the event log gives back of the run that wrote it. -/
namespace AdapterOS.Exec

open Library

def ExecutorEvent.replayTick (tick : UInt64) : ExecutorEvent → UInt64
  | .tickAdvanced _ toTick _ _ => toTick
  | _ => tick

def loggedTick (log : List ExecutorEvent) : UInt64 := log.foldl ExecutorEvent.replayTick 0

theorem loggedTick_append (log : List ExecutorEvent) (event : ExecutorEvent) :
    loggedTick (log ++ [event]) = event.replayTick (loggedTick log) := by
  simp [loggedTick]

theorem tick_add_eq_self (tick : UInt64) (calls : Nat) :
    tick + UInt64.ofNat calls = tick ↔ 2 ^ 64 ∣ calls := by
  rw [UInt64.add_eq_left, ← UInt64.toNat_inj, UInt64.toNat_ofNat', Nat.dvd_iff_mod_eq_zero]
  rfl

def turns (env : Nat → Turn) : Nat → List Turn
  | 0 => []
  | n + 1 => env 0 :: turns (fun i => env (i + 1)) n

theorem turns_add (env : Nat → Turn) (m n : Nat) :
    turns env (m + n) = turns env m ++ turns (fun i => env (i + m)) n := by
  induction m generalizing env with
  | zero => simp [turns]
  | succ m ih =>
    rw [Nat.succ_add, turns, ih, turns, List.cons_append]
    simp only [Nat.add_assoc]

namespace DeterministicExecutor

variable {x y : DeterministicExecutor} {turn : Turn} {hash : List UInt8 → B3Hash}

section Replay

def replayed (x : DeterministicExecutor) : DeterministicExecutor :=
  (new { x.config with replayMode := true, replayEvents := x.eventLog }
    x.globalTaskSequence).runReplayMode

structure Replays (x : DeterministicExecutor) : Prop where
  eventLog : x.replayed.eventLog = x.eventLog
  tick : x.replayed.currentTick = x.currentTick
  finished : ∀ id, x.replayed.isTaskFinished id = x.isTaskFinished id

theorem foldl_replayEvent (hlog : x.config.enableEventLogging = true) (log : List ExecutorEvent) :
    (log.foldl replayEvent x).eventLog = x.eventLog ++ log ∧
      (log.foldl replayEvent x).tickCounter = log.foldl ExecutorEvent.replayTick x.tickCounter ∧
      (log.foldl replayEvent x).completedTasks = x.completedTasks := by
  induction log generalizing x with
  | nil => simp
  | cons event log ih =>
    have hone : (replayEvent x event).config = x.config ∧
        (replayEvent x event).eventLog = x.eventLog ++ [event] ∧
        (replayEvent x event).tickCounter = event.replayTick x.tickCounter ∧
        (replayEvent x event).completedTasks = x.completedTasks := by
      cases event <;> simp [replayEvent, logEvent, hlog, ExecutorEvent.replayTick]
    grind

theorem replays_iff_logged (hlog : x.config.enableEventLogging = true) :
    x.Replays ↔ x.completedTasks = ∅ ∧ x.tickCounter = loggedTick x.eventLog := by
  obtain ⟨hevents, htick, hdone⟩ := foldl_replayEvent
    (x := new { x.config with replayMode := true, replayEvents := x.eventLog }
      x.globalTaskSequence) hlog x.eventLog
  have hfinished : ∀ id, x.replayed.isTaskFinished id = false := by
    intro id
    have hempty : x.replayed.completedTasks = ∅ := hdone
    simp [isTaskFinished, hempty]
  constructor
  · rintro ⟨_, hsame, hfin⟩
    refine ⟨Finset.eq_empty_of_forall_notMem fun id hid => ?_, hsame.symm.trans htick⟩
    have hnot := (hfin id).symm.trans (hfinished id)
    simp [isTaskFinished, hid] at hnot
  · rintro ⟨hempty, hsame⟩
    refine ⟨hevents, htick.trans hsame.symm, fun id => ?_⟩
    rw [hfinished id]
    simp [isTaskFinished, hempty]

end Replay

section Turns

def Unfinished (x : DeterministicExecutor) (turn : Turn) : Prop :=
  ∀ task ∈ x.taskQueue.head?, x.timesOut task turn = true ∨ turn.ready = false

instance (x : DeterministicExecutor) (turn : Turn) : Decidable (x.Unfinished turn) :=
  inferInstanceAs (Decidable (∀ task ∈ x.taskQueue.head?, _ ∨ _))

/-- The waker calls since the last logged advance, `d` of them before the turn. -/
def unlogged (x : DeterministicExecutor) (d : Nat) (turn : Turn) : Nat :=
  match x.taskQueue with
  | [] => d
  | task :: _ =>
    if x.timesOut task turn then d + turn.beforeCheck + turn.after
    else if turn.ready then d + turn.beforeCheck + turn.duringPoll + turn.after
    else turn.after

def unloggedWakes (hash : List UInt8 → B3Hash) (x : DeterministicExecutor) (d : Nat) :
    List Turn → Nat
  | [] => d
  | turn :: rest => unloggedWakes hash (x.pollNext hash turn) (x.unlogged d turn) rest

def Ahead (x : DeterministicExecutor) (d : Nat) : Prop :=
  x.tickCounter = loggedTick x.eventLog + UInt64.ofNat d

@[simp] theorem config_logEvent (event : ExecutorEvent) : (x.logEvent event).config = x.config := by
  unfold logEvent
  split <;> rfl

@[simp] theorem tickCounter_logEvent (event : ExecutorEvent) :
    (x.logEvent event).tickCounter = x.tickCounter := by
  unfold logEvent
  split <;> rfl

@[simp] theorem completedTasks_logEvent (event : ExecutorEvent) :
    (x.logEvent event).completedTasks = x.completedTasks := by
  unfold logEvent
  split <;> rfl

theorem eventLog_logEvent (hlog : x.config.enableEventLogging = true) (event : ExecutorEvent) :
    (x.logEvent event).eventLog = x.eventLog ++ [event] := by
  simp [logEvent, hlog]

theorem Ahead.wake {d : Nat} (h : x.Ahead d) (calls : Nat) : (x.wake calls).Ahead (d + calls) := by
  unfold Ahead at h ⊢
  simp only [DeterministicExecutor.wake, h, UInt64.ofNat_add, UInt64.add_assoc]

theorem Ahead.logEvent {d : Nat} {event : ExecutorEvent} (h : x.Ahead d)
    (hlog : x.config.enableEventLogging = true)
    (hevent : event.replayTick (loggedTick x.eventLog) = loggedTick x.eventLog) :
    (x.logEvent event).Ahead d := by
  unfold Ahead at h ⊢
  rw [tickCounter_logEvent, eventLog_logEvent hlog, loggedTick_append, hevent, h]

theorem ahead_suspend (hlog : x.config.enableEventLogging = true) (task : DeterministicTask) :
    (x.suspend hash task turn).Ahead 0 := by
  unfold Ahead suspend
  rw [tickCounter_logEvent, eventLog_logEvent (by exact hlog), loggedTick_append]
  simp [ExecutorEvent.replayTick]

theorem config_pollNext : (x.pollNext hash turn).config = x.config := by
  unfold pollNext
  split
  · rfl
  · simp only [pollTask]
    split
    · simp [wake, expire]
    · split
      · simp [wake, complete]
      · simp [wake, suspend]

theorem ahead_pollNext {d : Nat} (hlog : x.config.enableEventLogging = true) (h : x.Ahead d) :
    (x.pollNext hash turn).Ahead (x.unlogged d turn) := by
  unfold pollNext unlogged
  cases x.taskQueue with
  | nil => exact h
  | cons task rest =>
    have hchecked : ({ x with taskQueue := rest }.wake turn.beforeCheck).Ahead
        (d + turn.beforeCheck) := Ahead.wake (x := { x with taskQueue := rest }) h _
    have htimes : { x with taskQueue := rest }.timesOut task turn = x.timesOut task turn := rfl
    simp only [pollTask, htimes]
    split
    · exact (hchecked.logEvent hlog rfl).wake turn.after
    · have hpolled := hchecked.wake turn.duringPoll
      split
      · refine Ahead.wake ?_ turn.after
        unfold complete
        exact Ahead.logEvent hpolled hlog rfl
      · have hlevel : ((({ x with taskQueue := rest }.wake turn.beforeCheck).wake
            turn.duringPoll).suspend hash task turn).Ahead 0 :=
          ahead_suspend (by exact hlog) task
        simpa only [Nat.zero_add] using hlevel.wake turn.after

theorem completed_pollNext :
    (x.pollNext hash turn).completedTasks = ∅ ↔ x.completedTasks = ∅ ∧ x.Unfinished turn := by
  unfold pollNext Unfinished
  cases x.taskQueue with
  | nil => simp
  | cons task rest =>
    have htimes : { x with taskQueue := rest }.timesOut task turn = x.timesOut task turn := rfl
    simp only [pollTask, htimes]
    split
    · simp [wake, expire, *]
    · split
      · simp [wake, complete, *]
      · simp [wake, suspend, *]

end Turns

section Runs

theorem config_run (ts : List Turn) : (Library.run (pollNext hash) x ts).config = x.config := by
  have hstep : ∀ (y : DeterministicExecutor) (turn : Turn), y.config = x.config →
      (y.pollNext hash turn).config = x.config :=
    fun y turn hy => config_pollNext.trans hy
  exact run_invariant (I := fun y : DeterministicExecutor => y.config = x.config) hstep rfl ts

theorem ahead_run {d : Nat} (hlog : x.config.enableEventLogging = true) (h : x.Ahead d)
    (ts : List Turn) : (Library.run (pollNext hash) x ts).Ahead (unloggedWakes hash x d ts) := by
  induction ts generalizing x d with
  | nil => exact h
  | cons turn ts ih =>
    refine ih ?_ (ahead_pollNext hlog h)
    rw [config_pollNext, hlog]

theorem completed_run (ts : List Turn) : (Library.run (pollNext hash) x ts).completedTasks = ∅ ↔
      x.completedTasks = ∅ ∧ Guarded (pollNext hash) Unfinished x ts := by
  induction ts generalizing x with
  | nil => simp [Guarded]
  | cons turn ts ih => rw [run_cons, ih, completed_pollNext, and_assoc, Guarded]

theorem pollLoop_eq (hash : List UInt8 → B3Hash) (env : Nat → Turn) (limit : Nat)
    (x : DeterministicExecutor) :
    (pollLoop hash env limit x).1 =
      Library.run (pollNext hash) x (turns env (pollLoop hash env limit x).2) := by
  induction limit generalizing x env with
  | zero => rfl
  | succ limit ih =>
    unfold pollLoop
    split
    · rfl
    · exact ih (fun i => env (i + 1)) (x.pollNext hash (env 0))

theorem runNormalModeWithLimit_eq (hash : List UInt8 → B3Hash) (x : DeterministicExecutor)
    (maxSteps : Option Nat) (env : Nat → Turn) :
    (x.runNormalModeWithLimit hash maxSteps env).1 = Library.run (pollNext hash) x
      (turns env (x.runNormalModeWithLimit hash maxSteps env).2) :=
  pollLoop_eq hash env _ x

theorem runNormalMode_eq {env : Nat → Turn} {fuel n : Nat}
    (h : runNormalMode hash env fuel x = some (y, n)) :
    y = Library.run (pollNext hash) x (turns env n) := by
  induction fuel generalizing x env n with
  | zero => cases h
  | succ fuel ih =>
    have hpass := runNormalModeWithLimit_eq hash x none env
    simp only [runNormalMode] at h
    split at h
    · cases h
      exact hpass
    · obtain ⟨⟨z, more⟩, hz, heq⟩ := Option.map_eq_some_iff.mp h
      cases heq
      rw [turns_add, run_append, ← hpass]
      exact ih hz

/-- A run in normal mode, to the empty queue or for a bounded number of turns, that has ended. -/
def NormalRun (hash : List UInt8 → B3Hash) (x : DeterministicExecutor) (env : Nat → Turn)
    (y : DeterministicExecutor) (n : Nat) : Prop :=
  (∃ fuel, x.run hash env fuel = some (y, n)) ∨
    ∃ maxSteps, x.runSteps hash env maxSteps = .ok (y, n)

theorem NormalRun.eq_run {env : Nat → Turn} {n : Nat} (h : NormalRun hash x env y n)
    (hmode : x.config.replayMode = false) : y = Library.run (pollNext hash) x (turns env n) := by
  rcases h with ⟨fuel, h⟩ | ⟨maxSteps, h⟩ <;>
    grind [DeterministicExecutor.run, runNormalMode_eq, runNormalModeWithLimit_eq, runSteps]

theorem spawnAll_spec (hash : List UInt8 → B3Hash) (descriptions : List String)
    (hlog : x.config.enableEventLogging = true) (h : x.Ahead 0) :
    (x.spawnAll hash descriptions).config = x.config ∧
      (x.spawnAll hash descriptions).completedTasks = x.completedTasks ∧
      (x.spawnAll hash descriptions).Ahead 0 := by
  induction descriptions generalizing x with
  | nil => exact ⟨rfl, rfl, h⟩
  | cons description descriptions ih =>
    have hconfig : (x.spawnDeterministic hash description).config = x.config := by
      simp [spawnDeterministic]
    have hdone : (x.spawnDeterministic hash description).completedTasks = x.completedTasks := by
      simp [spawnDeterministic]
    have hahead : (x.spawnDeterministic hash description).Ahead 0 :=
      Ahead.logEvent (x := { x with
        globalTaskSequence := x.globalTaskSequence + 1, taskQueue := _ }) h hlog rfl
    obtain ⟨hconfig', hdone', hahead'⟩ := ih (hconfig ▸ hlog) hahead
    exact ⟨hconfig'.trans hconfig, hdone'.trans hdone, hahead'⟩

/-- For any tasks, poll results and waker calls: the replay gives back the log, the tick and the
finished tasks exactly if no task is polled ready and no waker call (modulo the width of the tick)
comes after the last logged advance. -/
theorem normalRun_replays_iff (config : ExecutorConfig) (sequence : UInt64)
    (descriptions : List String) (env : Nat → Turn) (n : Nat)
    (hlog : config.enableEventLogging = true) (hmode : config.replayMode = false)
    (hrun : NormalRun hash ((new config sequence).spawnAll hash descriptions) env y n) :
    y.Replays ↔
      Guarded (pollNext hash) Unfinished ((new config sequence).spawnAll hash descriptions)
        (turns env n) ∧
      2 ^ 64 ∣ unloggedWakes hash ((new config sequence).spawnAll hash descriptions) 0
        (turns env n) := by
  obtain ⟨hconfig, hdone, hahead⟩ := spawnAll_spec hash descriptions
    (x := new config sequence) hlog rfl
  generalize (new config sequence).spawnAll hash descriptions = start at *
  have hstart : start.completedTasks = ∅ := hdone
  have hlog : start.config.enableEventLogging = true := by rw [hconfig]; exact hlog
  have hend := hrun.eq_run (by rw [hconfig]; exact hmode)
  have hlog' : y.config.enableEventLogging = true := by rw [hend, config_run]; exact hlog
  have hfinished : y.completedTasks = ∅ ↔
      Guarded (pollNext hash) Unfinished start (turns env n) := by
    rw [hend, completed_run]
    simp [hstart]
  have hticks : y.Ahead (unloggedWakes hash start 0 (turns env n)) := by
    rw [hend]
    exact ahead_run hlog hahead _
  rw [replays_iff_logged hlog', hfinished, hticks, tick_add_eq_self]

/-- A task that wakes itself at every poll and is never ready, until its time is up. -/
theorem yielding_replays :
    ∃ y, NormalRun digitHash ((new { maxTicksPerTask := 4 } 0).spawnAll digitHash ["Yielding Task"])
        (fun _ => { duringPoll := 1 }) y 3 ∧ y.currentTick = 4 ∧ y.Replays := by
  refine ⟨_, .inl ⟨3, rfl⟩, rfl, ?_⟩
  exact (normalRun_replays_iff { maxTicksPerTask := 4 } 0 ["Yielding Task"]
    (fun _ => { duringPoll := 1 }) 3 rfl rfl (.inl ⟨3, rfl⟩)).mpr (by decide)

/-- A task that is ready at once, as an empty `async` block is; then one that also wakes itself. -/
theorem ready_not_replayed : (∃ y, NormalRun digitHash ((new {} 0).spawnAll digitHash ["Test Task"])
        (fun _ => { ready := true }) y 1 ∧
      (∃ id, y.isTaskFinished id = true ∧ y.replayed.isTaskFinished id = false) ∧ ¬ y.Replays) ∧
    ∃ y, NormalRun digitHash ((new {} 0).spawnAll digitHash ["Test Task"])
        (fun _ => { ready := true, duringPoll := 1 }) y 1 ∧
      y.currentTick = 1 ∧ y.replayed.currentTick = 0 := by
  refine ⟨⟨_, .inl ⟨1, rfl⟩, ?_, ?_⟩, ⟨_, .inl ⟨1, rfl⟩, rfl, rfl⟩⟩
  · exact ⟨fromSeedAndSeq digitHash 0 0, by decide, by decide⟩
  · intro hreplays
    have hsame := hreplays.finished (fromSeedAndSeq digitHash 0 0)
    revert hsame
    decide

end Runs

end DeterministicExecutor

end AdapterOS.Exec
