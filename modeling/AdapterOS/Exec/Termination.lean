import AdapterOS.Exec.Replay

/-! The executor's run ends: how often tasks are polled, in which order, how each one ends and what
the log says of it. -/
namespace AdapterOS.Exec

open Library

inductive Outcome where
  | pending
  | completed
  | timedOut
  deriving DecidableEq

def ExecutorEvent.ending : ExecutorEvent → Option (TaskId × Outcome)
  | .taskCompleted taskId .. => some (taskId, .completed)
  | .taskTimeout taskId .. => some (taskId, .timedOut)
  | _ => none

/-- The tick values of an event, in the order of its fields. -/
def ExecutorEvent.ticks : ExecutorEvent → List UInt64
  | .taskSpawned _ _ tick .. | .taskCompleted _ tick .. | .taskFailed _ _ tick ..
  | .taskTimeout _ _ tick .. | .inferenceStarted _ tick _ => [tick]
  | .tickAdvanced fromTick toTick .. => [fromTick, toTick]

def Turn.calls (turn : Turn) : Nat :=
  turn.beforeCheck + turn.duringPoll + turn.beforeFrom + turn.beforeTo + turn.after

namespace DeterministicExecutor

variable {x y z : DeterministicExecutor} {task : DeterministicTask}
  {rest back : List DeterministicTask} {turn : Turn} {env : Nat → Turn}
  {os os' : List (DeterministicTask × Outcome)} {deadline : UInt64}
  (hash : List UInt8 → B3Hash)

section Turns

def outcome (x : DeterministicExecutor) (task : DeterministicTask) (turn : Turn) : Outcome :=
  if x.timesOut task turn then .timedOut else if turn.ready then .completed else .pending

def NoWrap (x : DeterministicExecutor) (turn : Turn) : Prop :=
  x.tickCounter.toNat + turn.calls + 1 < 2 ^ 64

/-- The tasks that are taken off the queue, with what becomes of each. -/
def outcomes (x : DeterministicExecutor) :
    List Turn → List (DeterministicTask × Outcome)
  | [] => []
  | turn :: ts =>
    match x.taskQueue with
    | [] => outcomes (x.pollNext hash turn) ts
    | task :: _ => (task, x.outcome task turn) :: outcomes (x.pollNext hash turn) ts

def endings (os : List (DeterministicTask × Outcome)) : List (TaskId × Outcome) :=
  (os.filter (·.2 ≠ .pending)).map fun o => (o.1.id, o.2)

def pendingPolls (os : List (DeterministicTask × Outcome)) : Nat := os.countP (·.2 = .pending)

theorem toNat_wake {calls : Nat} (h : x.tickCounter.toNat + calls < 2 ^ 64) :
    (x.wake calls).tickCounter.toNat = x.tickCounter.toNat + calls := by
  simp only [wake, UInt64.toNat_add, UInt64.toNat_ofNat']
  omega

theorem queue_pollNext (hq : x.taskQueue = task :: rest) : (x.pollNext hash turn).taskQueue =
      if x.outcome task turn = .pending then rest ++ [task] else rest := by
  have htimes : { x with taskQueue := rest }.timesOut task turn = x.timesOut task turn := rfl
  grind [logEvent, pollNext, pollTask, outcome, expire, wake, complete, suspend]

/-- What a turn leaves of the ticks: it does not go back, and a pending poll moves it. The event of
the turn says how the task ends, with ticks between those before and after. -/
structure Ticks (x : DeterministicExecutor) (task : DeterministicTask) (turn : Turn)
    (y : DeterministicExecutor) (event : ExecutorEvent) : Prop where
  tick : x.tickCounter.toNat + (if x.outcome task turn = .pending then 1 else 0) ≤
    y.tickCounter.toNat
  log : y.eventLog = if x.config.enableEventLogging then x.eventLog ++ [event] else x.eventLog
  ending : event.ending =
    if x.outcome task turn = .pending then none else some (task.id, x.outcome task turn)
  sorted : event.ticks.Pairwise (· ≤ ·)
  between : ∀ v ∈ event.ticks, x.tickCounter ≤ v ∧ v ≤ y.tickCounter

theorem ticks_pollNext (hq : x.taskQueue = task :: rest) (hw : x.NoWrap turn) :
    ∃ event, Ticks x task turn (x.pollNext hash turn) event := by
  have htimes : { x with taskQueue := rest }.timesOut task turn = x.timesOut task turn := rfl
  have hlog : ∀ (y : DeterministicExecutor) event, (y.logEvent event).eventLog =
      if y.config.enableEventLogging then y.eventLog ++ [event] else y.eventLog := by
    intro y event
    unfold logEvent
    split <;> rfl
  simp only [NoWrap, Turn.calls] at hw
  simp only [pollNext, hq, pollTask, htimes]
  split
  · rename_i hout
    refine ⟨_, ?_, hlog _ _, ?_, ?_, ?_⟩
    all_goals simp [outcome, hout, expire, wake, ExecutorEvent.ending, ExecutorEvent.ticks,
      UInt64.le_iff_toNat_le, UInt64.toNat_add]
    all_goals omega
  · rename_i hin
    split
    · rename_i hready
      refine ⟨_, ?_, hlog _ _, ?_, ?_, ?_⟩
      all_goals simp [outcome, hin, hready, complete, wake, ExecutorEvent.ending,
        ExecutorEvent.ticks, UInt64.le_iff_toNat_le, UInt64.toNat_add]
      all_goals omega
    · rename_i hready
      refine ⟨_, ?_, hlog _ _, ?_, ?_, ?_⟩
      all_goals simp [outcome, hin, hready, suspend, wake, ExecutorEvent.ending,
        ExecutorEvent.ticks, UInt64.le_iff_toNat_le, UInt64.toNat_add, UInt64.toNat_sub]
      all_goals omega

theorem tick_lt_deadline (hw : x.NoWrap turn)
    (hd : task.timeout.map TickTimeout.timeoutTick = some deadline)
    (hin : x.outcome task turn ≠ .timedOut) : x.tickCounter.toNat < deadline.toNat := by
  grind [Option.map_eq_some_iff, NoWrap, Turn.calls, outcome, timesOut, TickTimeout.isTimeout,
    UInt64.le_iff_toNat_le, toNat_wake]

theorem completed_pollNext_cons (hq : x.taskQueue = task :: rest) :
    (x.pollNext hash turn).completedTasks = if x.outcome task turn = .completed then
      insert task.id x.completedTasks else x.completedTasks := by
  have htimes : { x with taskQueue := rest }.timesOut task turn = x.timesOut task turn := rfl
  simp only [pollNext, hq, pollTask, htimes, outcome]
  split
  · simp [expire, wake]
  · split
    · simp [complete, wake]
    · simp [suspend, wake]

end Turns

section Runs

def LogSorted (x : DeterministicExecutor) : Prop :=
  (x.eventLog.flatMap ExecutorEvent.ticks).Pairwise (· ≤ ·) ∧
    ∀ v ∈ x.eventLog.flatMap ExecutorEvent.ticks, v ≤ x.tickCounter

/-- What turns with given outcomes come to: every task taken off is queued or has ended, the
counter has moved with every pending poll, and the log has an entry for every end. -/
structure Ran (x y : DeterministicExecutor) (os : List (DeterministicTask × Outcome)) : Prop where
  config : y.config = x.config
  tick : x.tickCounter.toNat + pendingPolls os ≤ y.tickCounter.toNat
  bound : ∀ deadline : UInt64,
    (∀ task ∈ x.taskQueue, task.timeout.map TickTimeout.timeoutTick = some deadline) →
    pendingPolls os ≤ deadline.toNat - x.tickCounter.toNat
  perm : ((os.filter (·.2 ≠ .pending)).map Prod.fst ++ y.taskQueue).Perm x.taskQueue
  finished : ∀ id, id ∈ y.completedTasks ↔
    id ∈ x.completedTasks ∨ (id, Outcome.completed) ∈ endings os
  log : x.config.enableEventLogging = true →
    y.eventLog.filterMap ExecutorEvent.ending =
      x.eventLog.filterMap ExecutorEvent.ending ++ endings os
  sorted : x.LogSorted → y.LogSorted

theorem Ran.refl (x : DeterministicExecutor) : Ran x x [] :=
  ⟨rfl, by simp [pendingPolls], by simp [pendingPolls], by simp, by simp [endings],
    by simp [endings], id⟩

theorem Ran.trans (h : Ran x y os) (h' : Ran y z os') : Ran x z (os ++ os') := by
  have hcount : pendingPolls (os ++ os') = pendingPolls os + pendingPolls os' :=
    List.countP_append
  have hends : endings (os ++ os') = endings os ++ endings os' := by simp [endings]
  refine ⟨h'.config.trans h.config, ?_, ?_, ?_, ?_, ?_, fun hs => h'.sorted (h.sorted hs)⟩
  · have := h.tick
    have := h'.tick
    omega
  · obtain ⟨⟩ := h
    obtain ⟨⟩ := h'
    grind
  · rw [List.filter_append, List.map_append, List.append_assoc]
    exact (h'.perm.append_left _).trans h.perm
  · intro id
    rw [h'.finished, h.finished, hends, List.mem_append, or_assoc]
  · intro hlog
    rw [h'.log (by rw [h.config, hlog]), h.log hlog, hends, List.append_assoc]

theorem ran_pollNext (hq : x.taskQueue = task :: rest) (hw : x.NoWrap turn) :
    Ran x (x.pollNext hash turn) [(task, x.outcome task turn)] := by
  obtain ⟨event, ht⟩ := ticks_pollNext hash hq hw
  have hpending : pendingPolls [(task, x.outcome task turn)] =
      if x.outcome task turn = .pending then 1 else 0 := by
    simp [pendingPolls, List.countP_singleton]
  have hends : endings [(task, x.outcome task turn)] =
      if x.outcome task turn = .pending then [] else [(task.id, x.outcome task turn)] := by
    by_cases h : x.outcome task turn = .pending <;> simp [endings, h]
  refine ⟨config_pollNext, hpending ▸ ht.tick, ?_, ?_, ?_, ?_, ?_⟩
  · intro deadline hd
    rw [hpending]
    split
    · rename_i hpend
      have := tick_lt_deadline hw (hd task (by simp [hq])) (by simp [hpend])
      omega
    · exact Nat.zero_le _
  · rw [queue_pollNext hash hq, hq]
    by_cases h : x.outcome task turn = .pending
    · simp [h]
    · simp [h]
  · intro id
    rw [completed_pollNext_cons hash hq, hends]
    cases x.outcome task turn <;> simp [or_comm]
  · obtain ⟨⟩ := ht
    grind
  · obtain ⟨⟩ := ht
    grind [UInt64.le_iff_toNat_le, LogSorted]

def Unwrapped (x : DeterministicExecutor) (env : Nat → Turn) : Prop :=
  ∀ n, (Library.run (pollNext hash) x (turns env n)).taskQueue ≠ [] →
    (Library.run (pollNext hash) x (turns env n)).NoWrap (env n)

variable {hash}

theorem Unwrapped.add (h : x.Unwrapped hash env) (n : Nat) :
    (Library.run (pollNext hash) x (turns env n)).Unwrapped hash fun i => env (i + n) := by
  intro m
  rw [← run_append, ← turns_add]
  simpa only [Nat.add_comm n m] using h (m + n)

theorem ran_turns (h : x.Unwrapped hash env) (n : Nat) :
    Ran x (Library.run (pollNext hash) x (turns env n)) (outcomes hash x (turns env n)) := by
  induction n generalizing x env with
  | zero => exact .refl x
  | succ n ih =>
    have hrest := ih (h.add 1)
    simp only [turns, run_cons, outcomes]
    cases hq : x.taskQueue with
    | nil =>
      have hsame : x.pollNext hash (env 0) = x := by simp [pollNext, hq]
      simpa [turns, hsame] using hrest
    | cons task rest => exact (ran_pollNext hash hq (h 0 (by simp [turns, hq]))).trans hrest

theorem outcomes_append (ts ts' : List Turn) : outcomes hash x (ts ++ ts') =
    outcomes hash x ts ++ outcomes hash (Library.run (pollNext hash) x ts) ts' := by
  induction ts generalizing x with
  | nil => rfl
  | cons turn ts ih =>
    simp only [List.cons_append, outcomes, run_cons, ih]
    split <;> rfl

variable (hash) in
theorem pass_spec (x : DeterministicExecutor) (env : Nat → Turn)
    (rest back : List DeterministicTask) (hq : x.taskQueue = rest ++ back) :
    (pollLoop hash env rest.length x).2 = rest.length ∧
      (outcomes hash x (turns env rest.length)).map Prod.fst = rest ∧
      (Library.run (pollNext hash) x (turns env rest.length)).taskQueue = back ++
        ((outcomes hash x (turns env rest.length)).filter (·.2 = .pending)).map Prod.fst := by
  induction rest generalizing x env back with
  | nil => simpa [pollLoop, outcomes, turns] using hq
  | cons task rest ih =>
    rw [List.cons_append] at hq
    have hloop : (pollLoop hash env (task :: rest).length x).2 =
        (pollLoop hash (fun i => env (i + 1)) rest.length (x.pollNext hash (env 0))).2 + 1 := by
      simp [pollLoop, hq]
    have houts : outcomes hash x (turns env (task :: rest).length) =
        (task, x.outcome task (env 0)) :: outcomes hash (x.pollNext hash (env 0))
          (turns (fun i => env (i + 1)) rest.length) := by
      simp [turns, outcomes, hq]
    rw [hloop, houts]
    by_cases h : x.outcome task (env 0) = .pending
    · obtain ⟨hsteps, hfst, hqueue⟩ := ih (x.pollNext hash (env 0)) (fun i => env (i + 1))
        (back ++ [task]) (by simp [queue_pollNext hash hq, h])
      simp [hsteps, hfst, h, turns, hqueue]
    · obtain ⟨hsteps, hfst, hqueue⟩ := ih (x.pollNext hash (env 0)) (fun i => env (i + 1))
        back (by simp [queue_pollNext hash hq, h])
      simp [hsteps, hfst, h, turns, hqueue]

end Runs

section Passes

variable {hash}

/-- The outcomes of a run, pass by pass. -/
def passes (hash : List UInt8 → B3Hash) (env : Nat → Turn) :
    Nat → DeterministicExecutor → List (List (DeterministicTask × Outcome))
  | 0, _ => []
  | fuel + 1, x =>
    let (y, steps) := x.runNormalModeWithLimit hash none env
    outcomes hash x (turns env steps) ::
      if y.taskQueue.isEmpty then [] else passes hash (fun i => env (i + steps)) fuel y

theorem runNormalModeWithLimit_none (hash : List UInt8 → B3Hash) (x : DeterministicExecutor)
    (env : Nat → Turn) : x.runNormalModeWithLimit hash none env =
      (Library.run (pollNext hash) x (turns env x.taskQueue.length), x.taskQueue.length) := by
  have hsteps := (x.pass_spec hash env x.taskQueue [] (by simp)).1
  refine Prod.ext ?_ hsteps
  rw [runNormalModeWithLimit_eq, show (x.runNormalModeWithLimit hash none env).2 = _ from hsteps]

theorem tick_lt_of_pass (hu : x.Unwrapped hash env)
    (hd : ∀ task ∈ x.taskQueue, task.timeout.map TickTimeout.timeoutTick = some deadline)
    (hne : (Library.run (pollNext hash) x (turns env x.taskQueue.length)).taskQueue ≠ []) :
    deadline.toNat - (Library.run (pollNext hash) x
      (turns env x.taskQueue.length)).tickCounter.toNat < deadline.toNat - x.tickCounter.toNat := by
  have hran := ran_turns hu x.taskQueue.length
  have hqueue := (x.pass_spec hash env x.taskQueue [] (by simp)).2.2
  obtain ⟨⟩ := hran
  grind [pendingPolls, List.length_pos_iff]

theorem runNormalMode_ends (fuel : Nat) (hu : x.Unwrapped hash env)
    (hd : ∀ task ∈ x.taskQueue, task.timeout.map TickTimeout.timeoutTick = some deadline)
    (hfuel : deadline.toNat - x.tickCounter.toNat < fuel) :
    ∃ y n, runNormalMode hash env fuel x = some (y, n) ∧ y.taskQueue = [] ∧
      (passes hash env fuel x).flatten = outcomes hash x (turns env n) ∧
      ∀ pass ∈ passes hash env fuel x, (pass.map Prod.fst).Sublist x.taskQueue := by
  induction fuel generalizing x env with
  | zero => omega
  | succ fuel ih =>
    obtain ⟨-, hfst, hqueue⟩ := x.pass_spec hash env x.taskQueue [] (by simp)
    have hsub : (Library.run (pollNext hash) x
        (turns env x.taskQueue.length)).taskQueue.Sublist x.taskQueue := by
      rw [hqueue, List.nil_append]
      exact (List.filter_sublist.map Prod.fst).trans (by rw [hfst])
    by_cases hy : (Library.run (pollNext hash) x (turns env x.taskQueue.length)).taskQueue = []
    · grind [runNormalMode, runNormalModeWithLimit_none, passes]
    · have hlt := tick_lt_of_pass hu hd hy
      obtain ⟨y, n, hrun, hend, hflat, hpasses⟩ := ih (hu.add x.taskQueue.length)
        (fun task htask => hd task (hsub.subset htask)) (by omega)
      have hne : (Library.run (pollNext hash) x
          (turns env x.taskQueue.length)).taskQueue.isEmpty = false := by simp [hy]
      refine ⟨y, x.taskQueue.length + n, ?_, hend, ?_, ?_⟩
      · simp [runNormalMode, runNormalModeWithLimit_none, hne, hrun]
      · simp [passes, runNormalModeWithLimit_none, hne, hflat, turns_add, outcomes_append]
      · intro pass hpass
        simp only [passes, runNormalModeWithLimit_none, hne, Bool.false_eq_true, if_false,
          List.mem_cons] at hpass
        rcases hpass with rfl | hpass
        · rw [hfst]
        · exact (hpasses pass hpass).trans hsub

end Passes

section Spawn

/-- Tasks that were spawned before any turn. -/
structure Spawned (config : ExecutorConfig) (x : DeterministicExecutor) : Prop where
  configured : x.config = config
  tick : x.tickCounter = 0
  deadlines : ∀ task ∈ x.taskQueue,
    task.timeout.map TickTimeout.timeoutTick = some config.maxTicksPerTask
  unfinished : x.completedTasks = ∅
  running : x.eventLog.filterMap ExecutorEvent.ending = []
  ticks : ∀ v ∈ x.eventLog.flatMap ExecutorEvent.ticks, v = 0

theorem spawned_spawnAll {config : ExecutorConfig} (descriptions : List String)
    (h : Spawned config x) : Spawned config (x.spawnAll hash descriptions) := by
  induction descriptions generalizing x with
  | nil => exact h
  | cons description descriptions ih =>
    refine ih ?_
    obtain ⟨rfl, htick, hdead, hdone, hrunning, hticks⟩ := h
    have hqueue : ∀ task ∈ (x.spawnDeterministic hash description).taskQueue,
        task.timeout.map TickTimeout.timeoutTick = some x.config.maxTicksPerTask := by
      intro task htask
      have htask' : task ∈ x.taskQueue ∨ task.timeout.map TickTimeout.timeoutTick =
          some (x.tickCounter + x.config.maxTicksPerTask) := by
        simp only [spawnDeterministic, logEvent] at htask
        split at htask <;> rcases List.mem_append.mp htask with hold | hnew
        all_goals first | exact .inl hold | simp [List.mem_singleton.mp hnew]
      rcases htask' with hold | hnew
      · exact hdead task hold
      · rw [hnew, htick, UInt64.zero_add]
    refine ⟨by simp [spawnDeterministic], by simp [spawnDeterministic, htick], hqueue,
      by simp [spawnDeterministic, hdone], ?_, ?_⟩
    all_goals
      simp only [spawnDeterministic, logEvent]
      split
    · simp [hrunning, ExecutorEvent.ending]
    · exact hrunning
    · simpa [or_imp, forall_and, ExecutorEvent.ticks, htick] using hticks
    · exact hticks

end Spawn

/-- What a run should come to, given the outcomes of its passes. -/
structure RunLaw (start y : DeterministicExecutor)
    (outs : List (List (DeterministicTask × Outcome))) : Prop where
  emptied : y.taskQueue = []
  bounded : pendingPolls outs.flatten ≤ start.config.maxTicksPerTask.toNat
  ordered : ∀ pass ∈ outs, (pass.map Prod.fst).Sublist start.taskQueue
  once : ∀ task ∈ start.taskQueue, ((endings outs.flatten).map Prod.fst).count task.id = 1
  logged : start.config.enableEventLogging = true →
    y.eventLog.filterMap ExecutorEvent.ending = endings outs.flatten
  finished : ∀ id, y.isTaskFinished id = true ↔ (id, Outcome.completed) ∈ endings outs.flatten
  ticks : (y.eventLog.flatMap ExecutorEvent.ticks).Pairwise (· ≤ ·)

/-- For any tasks, poll results and waker calls that do not wrap the counter, a run in normal mode
ends, with at most `maxTicksPerTask` pending polls. -/
theorem run_ends (config : ExecutorConfig) (sequence : UInt64) (descriptions : List String)
    (env : Nat → Turn) (hmode : config.replayMode = false)
    (hids : (((new config sequence).spawnAll hash descriptions).taskQueue.map (·.id)).Nodup)
    (hu : ((new config sequence).spawnAll hash descriptions).Unwrapped hash env) :
    ∃ fuel y n, ((new config sequence).spawnAll hash descriptions).run hash env fuel = some (y, n) ∧
      RunLaw ((new config sequence).spawnAll hash descriptions) y
        (passes hash env fuel ((new config sequence).spawnAll hash descriptions)) := by
  have hspawned : Spawned config ((new config sequence).spawnAll hash descriptions) :=
    spawned_spawnAll hash descriptions ⟨rfl, rfl, by simp [new], rfl, rfl, by simp [new]⟩
  generalize (new config sequence).spawnAll hash descriptions = start at *
  obtain ⟨rfl, htick, hdead, hdone, hrunning, hticks⟩ := hspawned
  obtain ⟨y, n, hrun, hend, hflat, hpasses⟩ := runNormalMode_ends
    (start.config.maxTicksPerTask.toNat + 1) hu hdead (by omega)
  have hran := ran_turns hu n
  rw [← runNormalMode_eq hrun, ← hflat] at hran
  refine ⟨start.config.maxTicksPerTask.toNat + 1, y, n, ?_, ?_⟩
  · simpa [DeterministicExecutor.run, hmode] using hrun
  have hperm := (hran.perm.map (·.id)).symm
  have hbound := hran.bound _ hdead
  refine ⟨hend, by omega, hpasses, ?_, ?_, ?_, ?_⟩
  · intro task htask
    have hsame : (endings (passes hash env (start.config.maxTicksPerTask.toNat + 1)
        start).flatten).map Prod.fst = ((passes hash env (start.config.maxTicksPerTask.toNat + 1)
          start).flatten.filter (·.2 ≠ .pending)).map (·.1.id) := by
      simp [endings, Function.comp_def]
    rw [hend, List.append_nil, List.map_map] at hperm
    rw [hsame]
    exact (hperm.count_eq task.id).symm.trans
      (List.count_eq_one_of_mem hids (List.mem_map_of_mem htask))
  · intro hlog
    rw [hran.log hlog, hrunning, List.nil_append]
  · intro id
    simp [isTaskFinished, hran.finished, hdone]
  · refine (hran.sorted ⟨?_, ?_⟩).1
    · refine List.pairwise_of_forall_mem_list fun v hv w hw => ?_
      rw [hticks v hv, hticks w hw]
      exact UInt64.le_refl 0
    · intro v hv
      rw [hticks v hv, htick]
      exact UInt64.le_refl 0

section Samples

theorem Unwrapped.of_ended (m : Nat)
    (hend : (Library.run (pollNext hash) x (turns env m)).taskQueue = [])
    (h : ∀ n < m, (Library.run (pollNext hash) x (turns env n)).NoWrap (env n)) :
    x.Unwrapped hash env := by
  intro n hne
  by_cases hn : n < m
  · exact h n hn
  · -- an empty queue stays empty
    obtain ⟨k, rfl⟩ := Nat.exists_eq_add_of_le (Nat.le_of_not_lt hn)
    rw [turns_add, run_append] at hne
    refine absurd (run_invariant (I := fun y : DeterministicExecutor => y.taskQueue = []) ?_ hend
      _) hne
    intro y turn hy
    simp [pollNext, hy]

instance (x : DeterministicExecutor) (turn : Turn) : Decidable (x.NoWrap turn) :=
  inferInstanceAs (Decidable (_ < _))

def mixedEnv (n : Nat) : Turn := { ready := n = 2 }

theorem mixed_run_ends :
    let start := (new { maxTicksPerTask := 2 } 0).spawnAll digitHash ["first", "second"]
    ∃ fuel y n, start.run digitHash mixedEnv fuel = some (y, n) ∧
      RunLaw start y (passes digitHash mixedEnv fuel start) :=
  run_ends digitHash { maxTicksPerTask := 2 } 0 ["first", "second"] mixedEnv rfl
    (by decide) (.of_ended digitHash 4 (by decide) (by decide))

/-- Without event logging no event tells how the task ended; and waker calls that wrap the counter
give a task a second pending poll where one is allowed. -/
theorem unlogged_and_wrapped :
    (∃ y n, ((new { enableEventLogging := false } 0).spawnAll digitHash ["Test Task"]).run digitHash
        (fun _ => { ready := true }) 1 = some (y, n) ∧ y.eventLog = [] ∧
      ∃ id, y.isTaskFinished id = true) ∧
    let start := (new { maxTicksPerTask := 1 } 0).spawnAll digitHash ["Test Task"]
    let env := fun n : Nat => ({ after := if n = 0 then 2 ^ 64 - 1 else 0 } : Turn)
    ∃ y n, start.run digitHash env 3 = some (y, n) ∧
      pendingPolls (passes digitHash env 3 start).flatten = 2 := by
  refine ⟨⟨_, _, rfl, rfl, fromSeedAndSeq digitHash 0 0, by decide⟩, _, _, rfl,
    by decide⟩

end Samples

end DeterministicExecutor

end AdapterOS.Exec
