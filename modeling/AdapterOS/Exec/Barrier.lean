import AdapterOS.Library.HashMap
import AdapterOS.Library.Run

/-! The tick barrier of several agents: calls of `wait` at the grain of locks and atomics, agents
that are marked dead, and timeouts. -/
namespace AdapterOS.Exec

open Library

inductive CoordinationError where
  | agentNotRegistered (agentId : String)
  | timeout (ticks : UInt64)
  | failed (reason : String)
  deriving DecidableEq

/-- Where a call `wait(agent, tick)` stands; `start` is the tick counter when it began and `gen` the
generation it has read. -/
inductive WaitPc where
  | idle
  | entered (agent : String) (tick : UInt64)
  | started (agent : String) (tick : UInt64)
  | recording (agent : String) (tick : UInt64) (start : Option UInt64)
  | recorded (agent : String) (tick : UInt64) (start : Option UInt64)
  | waiting (agent : String) (tick : UInt64) (start : Option UInt64) (gen : UInt64)
  | expired (agent : String) (tick : UInt64)
  | unexpired (agent : String) (tick : UInt64) (start : Option UInt64) (gen : UInt64)
  | checking (agent : String) (tick : UInt64) (start : Option UInt64) (gen : UInt64)
  | holding (agent : String) (tick : UInt64) (start : Option UInt64) (gen : UInt64)
  | ready (agent : String) (tick : UInt64) (start : Option UInt64) (gen : UInt64)
  | returned (agent : String) (tick : UInt64) (result : Except CoordinationError Unit)

def WaitPc.AtRest : WaitPc → Prop
  | .idle | .returned .. => True
  | _ => False

def WaitPc.Cleared (agent : String) (tick : UInt64) : WaitPc → Prop
  | .ready agent' tick' _ _ => agent' = agent ∧ tick' = tick
  | .returned agent' tick' (.ok _) => agent' = agent ∧ tick' = tick
  | _ => False

/-- The barrier and the tasks `T` that call it. The lock of the ticks is the only one that is held
from one step to the next, by `ticksHolder`. -/
structure AgentBarrier (T : Type*) where
  agentIds : List String
  agentTicks : HashMap String UInt64
  generation : UInt64
  failed : Bool
  deadAgents : HashSet String
  timeoutTicks : Option UInt64
  tickCounter : Option UInt64
  ticksHolder : Option T
  pc : T → WaitPc

inductive BarrierAction (T : Type*) where
  | wait (task : T) (agent : String) (tick : UInt64)
  /-- The next step of a call; `overdue` is what the wall clock says. -/
  | advance (task : T) (overdue : Bool)
  | markAgentDead (agent : String)
  /-- The shared tick counter moves. -/
  | count (value : UInt64)

namespace AgentBarrier

variable {T : Type*}

def new (agentIds : List String) (timeoutTicks tickCounter : Option UInt64) : AgentBarrier T where
  agentIds := agentIds
  agentTicks := HashMap.collect (agentIds.map fun agent => (agent, 0))
  generation := 0
  failed := false
  deadAgents := ∅
  timeoutTicks := timeoutTicks
  tickCounter := tickCounter
  ticksHolder := none
  pc := fun _ => .idle

/-- Ticks since the call began against the limit; the wall clock if there is no tick counter. -/
def isTimeout (b : AgentBarrier T) (start : Option UInt64) (overdue : Bool) : Bool :=
  match b.tickCounter, b.timeoutTicks with
  | some now, some timeoutTicks =>
    let startTick := start.getD now
    timeoutTicks ≤ if startTick ≤ now then now - startTick else 0
  | none, _ => overdue
  | some _, none => false

def allReady (b : AgentBarrier T) (tick : UInt64) : Bool :=
  b.agentTicks.items.all fun entry => entry.1 ∈ b.deadAgents ∨ tick ≤ entry.2

/-- An agent that is dead already stays so. -/
def markAgentDead (b : AgentBarrier T) (agent : String) :
    Except CoordinationError Unit × AgentBarrier T :=
  if agent ∉ b.agentIds then (.error (.agentNotRegistered agent), b)
  else if agent ∈ b.deadAgents then (.ok (), b)
  else (.ok (), { b with deadAgents := b.deadAgents.insert agent () })

theorem markAgentDead_spec (b : AgentBarrier T) (agent : String) :
    ∃ dead, (b.markAgentDead agent).2 = { b with deadAgents := dead } := by
  unfold markAgentDead
  split
  · exact ⟨b.deadAgents, rfl⟩
  · split
    · exact ⟨b.deadAgents, rfl⟩
    · exact ⟨_, rfl⟩

variable [DecidableEq T]

def goto (b : AgentBarrier T) (task : T) (pc : WaitPc) : AgentBarrier T :=
  { b with pc := Function.update b.pc task pc }

def advance (b : AgentBarrier T) (task : T) (overdue : Bool) : AgentBarrier T :=
  match b.pc task with
  | .idle | .returned .. => b
  | .entered agent tick =>
    if b.failed then
      b.goto task (.returned agent tick
        (.error (.failed "Barrier already failed due to previous timeout")))
    else b.goto task (.started agent tick)
  | .started agent tick => b.goto task (.recording agent tick b.tickCounter)
  | .recording agent tick start =>
    if b.ticksHolder.isSome then b
    else if agent ∉ b.agentTicks then
      b.goto task (.returned agent tick (.error (.agentNotRegistered agent)))
    else
      { b with agentTicks := b.agentTicks.insert agent tick }.goto task (.recorded agent tick start)
  | .recorded agent tick start => b.goto task (.waiting agent tick start b.generation)
  | .waiting agent tick start gen =>
    if b.isTimeout start overdue then b.goto task (.expired agent tick)
    else b.goto task (.unexpired agent tick start gen)
  | .expired agent tick =>
    { b with failed := true }.goto task (.returned agent tick (.error (.timeout tick)))
  | .unexpired agent tick start gen =>
    if b.failed then
      b.goto task (.returned agent tick
        (.error (.failed "Barrier failed due to timeout from another agent")))
    else b.goto task (.checking agent tick start gen)
  | .checking agent tick start gen =>
    if b.ticksHolder.isSome then b
    else { b with ticksHolder := some task }.goto task (.holding agent tick start gen)
  | .holding agent tick start gen =>
    { b with ticksHolder := none }.goto task
      (if b.allReady tick then .ready agent tick start gen else .waiting agent tick start gen)
  | .ready agent tick start gen =>
    if b.generation = gen then
      { b with generation := gen + 1 }.goto task (.returned agent tick (.ok ()))
    else if gen < b.generation then b.goto task (.returned agent tick (.ok ()))
    else b.goto task (.waiting agent tick start gen)

instance : DecidablePred WaitPc.AtRest
  | .idle | .returned .. => .isTrue trivial
  | .entered .. | .started .. | .recording .. | .recorded .. | .waiting .. | .expired ..
  | .unexpired .. | .checking .. | .holding .. | .ready .. => .isFalse id

def step (b : AgentBarrier T) : BarrierAction T → AgentBarrier T
  | .wait task agent tick => if (b.pc task).AtRest then b.goto task (.entered agent tick) else b
  | .advance task overdue => b.advance task overdue
  | .markAgentDead agent => (b.markAgentDead agent).2
  | .count value => { b with tickCounter := b.tickCounter.map fun _ => value }

def AllReached (b : AgentBarrier T) (tick : UInt64) : Prop :=
  ∀ agent ∈ b.agentIds, agent ∉ b.deadAgents →
    ∃ recorded, b.agentTicks.get? agent = some recorded ∧ tick ≤ recorded

section Steps

variable {b : AgentBarrier T} {task other : T} {overdue : Bool} {agent : String} {tick : UInt64}
  {a : BarrierAction T}

@[simp] theorem pc_goto_self (pc : WaitPc) : (b.goto task pc).pc task = pc := by
  simp [goto]

theorem pc_goto_of_ne (pc : WaitPc) (h : other ≠ task) :
    (b.goto task pc).pc other = b.pc other := by
  simp [goto, h]

/-- What no step undoes. -/
structure Later (b b' : AgentBarrier T) : Prop where
  agentIds : b'.agentIds = b.agentIds
  failed : b.failed = true → b'.failed = true
  recorded : ∀ agent, agent ∈ b.agentTicks → agent ∈ b'.agentTicks

theorem later_advance : b.Later (b.advance task overdue) := by
  unfold advance
  constructor <;> split <;> (repeat' split) <;> simp_all [goto, AList.mem_insert]

theorem later_step (b : AgentBarrier T) (a : BarrierAction T) : b.Later (b.step a) := by
  cases a with
  | wait task agent tick =>
    simp only [step]
    split <;> exact ⟨rfl, id, fun _ => id⟩
  | advance task overdue => exact later_advance
  | markAgentDead agent =>
    obtain ⟨dead, hdead⟩ := b.markAgentDead_spec agent
    simp only [step, hdead]
    exact ⟨rfl, id, fun _ => id⟩
  | count value => exact ⟨rfl, id, fun _ => id⟩

theorem pc_advance_of_ne (h : other ≠ task) : (b.advance task overdue).pc other = b.pc other := by
  unfold advance
  cases b.pc task <;> simp only <;> (repeat' split) <;> first | rfl | exact pc_goto_of_ne _ h

theorem pc_step (b : AgentBarrier T) (a : BarrierAction T) (task : T) :
    (b.step a).pc task = b.pc task ∨
      (∃ agent tick, a = .wait task agent tick ∧ (b.step a).pc task = .entered agent tick) ∨
      ∃ overdue, a = .advance task overdue := by
  cases a with
  | wait caller agent tick => grind [step, pc_goto_self, pc_goto_of_ne]
  | advance caller overdue =>
    by_cases hcaller : task = caller
    · subst hcaller
      exact .inr (.inr ⟨overdue, rfl⟩)
    · exact .inl (pc_advance_of_ne hcaller)
  | markAgentDead agent =>
    obtain ⟨dead, hdead⟩ := b.markAgentDead_spec agent
    left
    change (b.markAgentDead agent).2.pc task = b.pc task
    rw [hdead]
  | count value => exact .inl rfl

end Steps

section Safety

variable {b : AgentBarrier T} {task : T} {overdue : Bool} {agent : String} {tick : UInt64}
  {a : BarrierAction T} {actions : List (BarrierAction T)}

def Registered (b : AgentBarrier T) : Prop := ∀ agent ∈ b.agentIds, agent ∈ b.agentTicks

omit [DecidableEq T] in
theorem allReached_of_allReady (hreg : b.Registered) (h : b.allReady tick = true) :
    b.AllReached tick := by
  intro agent hagent hliving
  obtain ⟨recorded, hrecorded⟩ := AList.mem_iff_get?.mp (hreg agent hagent)
  refine ⟨recorded, hrecorded, ?_⟩
  have hall := List.all_eq_true.mp h (agent, recorded) (AList.mem_items.mpr hrecorded)
  rcases of_decide_eq_true hall with hdead | hle
  · exact absurd hdead hliving
  · exact hle

/-- What a step of a call can do. -/
inductive Moves (b : AgentBarrier T) : WaitPc → WaitPc → Prop
  | stays (pc : WaitPc) : b.Moves pc pc
  | refused (agent : String) (tick : UInt64) : b.failed = true → b.Moves (.entered agent tick)
      (.returned agent tick (.error (.failed "Barrier already failed due to previous timeout")))
  | admitted (agent : String) (tick : UInt64) :
      b.Moves (.entered agent tick) (.started agent tick)
  | started (agent : String) (tick : UInt64) :
      b.Moves (.started agent tick) (.recording agent tick b.tickCounter)
  | unregistered (agent : String) (tick : UInt64) (start : Option UInt64) :
      b.Moves (.recording agent tick start)
        (.returned agent tick (.error (.agentNotRegistered agent)))
  | recorded (agent : String) (tick : UInt64) (start : Option UInt64) :
      b.Moves (.recording agent tick start) (.recorded agent tick start)
  | entersLoop (agent : String) (tick : UInt64) (start : Option UInt64) :
      b.Moves (.recorded agent tick start) (.waiting agent tick start b.generation)
  | expires (agent : String) (tick : UInt64) (start : Option UInt64) (gen : UInt64) :
      b.Moves (.waiting agent tick start gen) (.expired agent tick)
  | inTime (agent : String) (tick : UInt64) (start : Option UInt64) (gen : UInt64) :
      b.Moves (.waiting agent tick start gen) (.unexpired agent tick start gen)
  | timesOut (agent : String) (tick : UInt64) :
      b.Moves (.expired agent tick) (.returned agent tick (.error (.timeout tick)))
  | broken (agent : String) (tick : UInt64) (start : Option UInt64) (gen : UInt64) :
      b.Moves (.unexpired agent tick start gen) (.returned agent tick
        (.error (.failed "Barrier failed due to timeout from another agent")))
  | unbroken (agent : String) (tick : UInt64) (start : Option UInt64) (gen : UInt64) :
      b.Moves (.unexpired agent tick start gen) (.checking agent tick start gen)
  | locks (agent : String) (tick : UInt64) (start : Option UInt64) (gen : UInt64) :
      b.Moves (.checking agent tick start gen) (.holding agent tick start gen)
  | clears (agent : String) (tick : UInt64) (start : Option UInt64) (gen : UInt64) :
      b.allReady tick = true → b.Moves (.holding agent tick start gen) (.ready agent tick start gen)
  | sleeps (agent : String) (tick : UInt64) (start : Option UInt64) (gen : UInt64) :
      b.Moves (.holding agent tick start gen) (.waiting agent tick start gen)
  | proceeds (agent : String) (tick : UInt64) (start : Option UInt64) (gen : UInt64) :
      b.Moves (.ready agent tick start gen) (.returned agent tick (.ok ()))
  | retries (agent : String) (tick : UInt64) (start : Option UInt64) (gen : UInt64) :
      b.Moves (.ready agent tick start gen) (.waiting agent tick start gen)

theorem moves_advance (b : AgentBarrier T) (task : T) (overdue : Bool) :
    b.Moves (b.pc task) ((b.advance task overdue).pc task) := by
  unfold advance
  cases hpc : b.pc task <;> simp only <;> (repeat' split) <;>
    simp only [pc_goto_self, *] <;> constructor <;> assumption

omit [DecidableEq T] in
theorem Moves.allReady {pc pc' : WaitPc} (h : b.Moves pc pc') (hnot : ¬ pc.Cleared agent tick)
    (hnow : pc'.Cleared agent tick) : b.allReady tick = true := by
  cases h with
  | stays => exact absurd hnow hnot
  | clears agent' tick' start gen hready =>
    rw [← hnow.2]
    exact hready
  | proceeds => exact absurd hnow hnot
  | _ => exact hnow.elim

theorem registered_step (h : b.Registered) : (b.step a).Registered := by
  obtain ⟨hids, _, hrecorded⟩ := b.later_step a
  intro agent hagent
  rw [hids] at hagent
  exact hrecorded agent (h agent hagent)

omit [DecidableEq T] in
theorem registered_new (agentIds : List String) (timeoutTicks tickCounter : Option UInt64) :
    (new agentIds timeoutTicks tickCounter : AgentBarrier T).Registered := by
  intro agent hagent
  refine HashMap.mem_collect.mpr ?_
  simpa [new] using hagent

theorem exists_allReached (task : T) (agent : String) (hreg : b.Registered)
    (hstart : ¬ (b.pc task).Cleared agent tick)
    (hend : ((run step b actions).pc task).Cleared agent tick) :
    ∃ earlier, earlier <+: actions ∧ (run step b earlier).AllReached tick := by
  obtain ⟨earlier, a, hprefix, hnot, hnow⟩ :=
    exists_step_of_run (Q := fun b : AgentBarrier T => (b.pc task).Cleared agent tick) hstart hend
  refine ⟨earlier, (List.prefix_append earlier [a]).trans hprefix, ?_⟩
  refine allReached_of_allReady (run_invariant (fun _ _ => registered_step) hreg earlier) ?_
  rcases (run step b earlier).pc_step a task with hsame | ⟨agent', tick', _, hentered⟩ |
    ⟨overdue, rfl⟩
  · rw [hsame] at hnow
    exact absurd hnow hnot
  · rw [hentered] at hnow
    exact hnow.elim
  · exact (moves_advance _ task overdue).allReady hnot hnow

def TimeoutsFailed (b : AgentBarrier T) : Prop :=
  ∀ task agent tick ticks, b.pc task = .returned agent tick (.error (.timeout ticks)) →
    b.failed = true

theorem timeoutsFailed_step (h : b.TimeoutsFailed) : (b.step a).TimeoutsFailed := by
  intro task agent tick ticks hpc
  rcases b.pc_step a task with hsame | ⟨agent', tick', _, hentered⟩ | ⟨overdue, rfl⟩
  · rw [hsame] at hpc
    exact (b.later_step a).failed (h task agent tick ticks hpc)
  · rw [hentered] at hpc
    cases hpc
  · have hmoves := b.moves_advance task overdue
    change (b.advance task overdue).pc task = _ at hpc
    rw [hpc] at hmoves
    generalize hold : b.pc task = old at hmoves
    cases hmoves with
    | stays => exact (b.later_step _).failed (h task agent tick ticks hold)
    | timesOut =>
      change (b.advance task overdue).failed = true
      unfold advance
      rw [hold]
      rfl

theorem returned_run {result : Except CoordinationError Unit}
    (hpc : b.pc task = .returned agent tick result)
    (hactions : ∀ agent' tick', .wait task agent' tick' ∉ actions) :
    (run step b actions).pc task = .returned agent tick result := by
  induction actions generalizing b with
  | nil => exact hpc
  | cons a actions ih =>
    have hrest : ∀ agent' tick', .wait task agent' tick' ∉ actions :=
      fun agent' tick' hmem => hactions agent' tick' (List.mem_cons_of_mem a hmem)
    refine ih ?_ hrest
    rcases b.pc_step a task with hsame | ⟨agent', tick', rfl, _⟩ | ⟨overdue, rfl⟩
    · rw [hsame, hpc]
    · exact absurd (by simp) (hactions agent' tick')
    · have hmoves := b.moves_advance task overdue
      change (b.advance task overdue).pc task = _
      rw [hpc] at hmoves
      generalize (b.advance task overdue).pc task = new at hmoves
      cases hmoves
      rfl

theorem refused_run (hfailed : b.failed = true) (hpc : b.pc task = .entered agent tick)
    (hactions : ∀ agent' tick', .wait task agent' tick' ∉ actions) :
    (run step b actions).pc task = .returned agent tick
        (.error (.failed "Barrier already failed due to previous timeout")) ∨
      (run step b actions).pc task = .entered agent tick ∧
        ∀ overdue, .advance task overdue ∉ actions := by
  induction actions generalizing b with
  | nil => exact .inr ⟨hpc, by simp⟩
  | cons a actions ih =>
    have hrest : ∀ agent' tick', .wait task agent' tick' ∉ actions :=
      fun agent' tick' hmem => hactions agent' tick' (List.mem_cons_of_mem a hmem)
    by_cases hown : ∃ overdue, a = .advance task overdue
    · grind [advance, step, pc_goto_self, run_cons, returned_run]
    · have hsame : (b.step a).pc task = .entered agent tick := by
        rcases b.pc_step a task with hsame | ⟨agent', tick', rfl, _⟩ | hadvance <;> grind
      rcases ih ((b.later_step a).failed hfailed) hsame hrest with hreturned | ⟨hentered, hnone⟩
      · exact .inl hreturned
      · refine .inr ⟨hentered, ?_⟩
        grind

end Safety

/-- Any agents, tasks and interleaving. A call that returned `Ok` saw, at some moment after it
started, every living agent at its tick or later; and after some call has returned a timeout, a call
that starts gets the error as soon as it takes a step. -/
theorem wait_safe (agentIds : List String) (timeoutTicks tickCounter : Option UInt64)
    (before during : List (BarrierAction T)) (task : T) (agent : String) (tick : UInt64)
    (hrest : ((run step (new agentIds timeoutTicks tickCounter) before).pc task).AtRest)
    (hduring : ∀ agent' tick', .wait task agent' tick' ∉ during) :
    ((run step (new agentIds timeoutTicks tickCounter)
        (before ++ .wait task agent tick :: during)).pc task = .returned agent tick (.ok ()) →
      ∃ earlier, earlier <+: during ∧ (run step (new agentIds timeoutTicks tickCounter)
        (before ++ .wait task agent tick :: earlier)).AllReached tick) ∧
    ((∃ earlier, earlier <+: before ∧ ∃ other agent' tick' ticks,
        (run step (new agentIds timeoutTicks tickCounter) earlier).pc other =
          .returned agent' tick' (.error (.timeout ticks))) →
      (run step (new agentIds timeoutTicks tickCounter)
          (before ++ .wait task agent tick :: during)).pc task = .returned agent tick
            (.error (.failed "Barrier already failed due to previous timeout")) ∨
        (run step (new agentIds timeoutTicks tickCounter)
            (before ++ .wait task agent tick :: during)).pc task = .entered agent tick ∧
          ∀ overdue, .advance task overdue ∉ during) := by
  have hrun : ∀ later : List (BarrierAction T),
      run step (new agentIds timeoutTicks tickCounter) (before ++ .wait task agent tick :: later) =
        run step ((run step (new agentIds timeoutTicks tickCounter) before).goto task
          (.entered agent tick)) later := by
    intro later
    rw [run_append, run_cons]
    simp only [step, if_pos hrest]
  simp only [hrun]
  constructor
  · intro hok
    refine exists_allReached task agent ?_ ?_ ?_
    · exact run_invariant (I := Registered) (fun _ _ => registered_step)
        (registered_new agentIds timeoutTicks tickCounter) before
    · rw [pc_goto_self]
      exact id
    · rw [hok]
      exact ⟨rfl, rfl⟩
  · rintro ⟨earlier, ⟨rest, rfl⟩, other, agent', tick', ticks, htimeout⟩
    have hfailed : (run step (new agentIds timeoutTicks tickCounter) earlier).failed = true :=
      run_invariant (I := TimeoutsFailed) (fun _ _ => timeoutsFailed_step)
        (fun _ _ _ _ hpc => by cases hpc) earlier other agent' tick' ticks htimeout
    have hstill : (run step (new agentIds timeoutTicks tickCounter) (earlier ++ rest)).failed =
        true := by
      rw [run_append]
      exact run_invariant (I := fun b : AgentBarrier T => b.failed = true)
        (fun b a => (b.later_step a).failed) hfailed rest
    exact refused_run hstill (pc_goto_self _) hduring

def steps (task : Fin 2) (overdue : Bool) (count : Nat) : List (BarrierAction (Fin 2)) :=
  List.replicate count (.advance task overdue)

/-- Two agents meet at tick 5; and a call that finds the barrier failed, since the other agent was
left alone. -/
theorem twoAgents_safe :
    (∃ earlier, earlier <+: .wait p₁ "b" 7 :: (steps p₁ false 3 ++ steps p₀ false 9) ∧
      (run step (new ["a", "b"] none none) ([] ++ .wait p₀ "a" 5 :: earlier)).AllReached 5) ∧
    (run step (new ["a", "b"] none none)
      ((.wait p₁ "b" 7 :: steps p₁ true 6) ++ .wait p₀ "a" 5 :: steps p₀ false 1)).pc p₀ =
        .returned "a" 5 (.error (.failed "Barrier already failed due to previous timeout")) := by
  have hsteps : ∀ (task : Fin 2) (overdue : Bool) (count : Nat) (caller : Fin 2) (agent : String)
      (tick : UInt64), .wait caller agent tick ∉ steps task overdue count := by
    intro task overdue count caller agent tick hmem
    cases (List.mem_replicate.mp hmem).2
  constructor
  · refine (wait_safe ["a", "b"] none none [] (.wait p₁ "b" 7 :: (steps p₁ false 3 ++
      steps p₀ false 9)) p₀ "a" 5 trivial ?_).1 rfl
    intro agent tick hmem
    rcases List.mem_cons.mp hmem with heq | hmem
    · cases heq
    · exact (List.mem_append.mp hmem).elim (hsteps _ _ _ _ _ _) (hsteps _ _ _ _ _ _)
  · rcases (wait_safe ["a", "b"] none none (.wait p₁ "b" 7 :: steps p₁ true 6) (steps p₀ false 1)
      p₀ "a" 5 (by decide) (hsteps p₀ false 1 p₀)).2
      ⟨_, List.prefix_refl _, p₁, "b", 7, 7, rfl⟩ with herror | ⟨_, hnone⟩
    · exact herror
    · exact absurd (List.mem_replicate.mpr ⟨by decide, rfl⟩) (hnone false)

end AgentBarrier

end AdapterOS.Exec
