import AdapterOS.Exec.Barrier

/-! How far the generation of the barrier moves in rounds of calls. -/
namespace AdapterOS.Exec

open Library

def WaitPc.readGen : WaitPc → Option UInt64
  | .waiting _ _ _ gen | .unexpired _ _ _ gen | .checking _ _ _ gen | .holding _ _ _ gen
  | .ready _ _ _ gen => some gen
  | _ => none

namespace AgentBarrier

variable {T : Type*} {b : AgentBarrier T} {task : T} {overdue : Bool} {agent : String}
  {tick g : UInt64} {pc pc' : WaitPc}

theorem Moves.readGen (h : b.Moves pc pc') : pc'.readGen = none ∨ pc'.readGen = pc.readGen ∨
    (∃ agent tick start, pc = .recorded agent tick start) ∧ pc'.readGen = some b.generation := by
  cases h <;> simp [WaitPc.readGen]

theorem Moves.ok (h : b.Moves pc (.returned agent tick (.ok ()))) :
    pc = .returned agent tick (.ok ()) ∨ ∃ start gen, pc = .ready agent tick start gen := by
  cases h <;> simp

variable [DecidableEq T] {called : T → Prop}

theorem generation_advance (h : ∀ agent tick start gen, b.pc task ≠ .ready agent tick start gen) :
    (b.advance task overdue).generation = b.generation := by
  unfold advance
  cases hpc : b.pc task with
  | ready agent tick start gen => exact absurd hpc (h agent tick start gen)
  | _ => simp only <;> (repeat' split) <;> rfl

/-- During a round that started with generation `g`: it is at most one further, calls have read
`g`, and once a call has returned `Ok` it has moved. -/
structure InRound (g : UInt64) (called : T → Prop) (b : AgentBarrier T) : Prop where
  generation : b.generation = g ∨ b.generation = g + 1
  read : ∀ task gen, (b.pc task).readGen = some gen → gen = g
  rest : ∀ task, ¬ called task → (b.pc task).AtRest
  done : ∀ task agent tick, called task → b.pc task = .returned agent tick (.ok ()) →
    b.generation = g + 1

def ReadsAt (g : UInt64) (b : AgentBarrier T) : BarrierAction T → Prop
  | .advance task _ =>
    match b.pc task with
    | .recorded .. => b.generation = g
    | _ => True
  | _ => True

/-- A step of a task, given what it does to the generation and to its own position. -/
theorem InRound.moved {called called' : T → Prop} {b' : AgentBarrier T} (h : InRound g called b)
    (hcalled : ∀ other, other ≠ task → (called' other ↔ called other))
    (hothers : ∀ other, other ≠ task → b'.pc other = b.pc other)
    (hgen : b'.generation = g ∨ b'.generation = g + 1)
    (hkeep : b.generation = g + 1 → b'.generation = g + 1)
    (hread : ∀ gen, (b'.pc task).readGen = some gen → gen = g)
    (hrest : ¬ called' task → (b'.pc task).AtRest)
    (hdone : ∀ agent tick, called' task → b'.pc task = .returned agent tick (.ok ()) →
      b'.generation = g + 1) : InRound g called' b' := by
  refine ⟨hgen, fun other gen hgen => ?_, fun other hnot => ?_, fun other agent tick hc hpc => ?_⟩
  all_goals by_cases hother : other = task
  · exact hread gen (hother ▸ hgen)
  · exact h.read other gen (hothers other hother ▸ hgen)
  · exact hother ▸ hrest (hother ▸ hnot)
  · exact hothers other hother ▸ h.rest other fun hc => hnot ((hcalled other hother).mpr hc)
  · exact hdone agent tick (hother ▸ hc) (hother ▸ hpc)
  · exact hkeep (h.done other agent tick ((hcalled other hother).mp hc)
      (hothers other hother ▸ hpc))

theorem inRound_advance (h : InRound g called b) (hread : ReadsAt g b (.advance task overdue)) :
    InRound g called (b.advance task overdue) := by
  have hothers : ∀ other, other ≠ task → (b.advance task overdue).pc other = b.pc other :=
    fun _ => pc_advance_of_ne
  by_cases hready : ∃ agent tick start gen, b.pc task = .ready agent tick start gen
  · obtain ⟨agent, tick, start, gen, hpc⟩ := hready
    obtain rfl : gen = g := h.read task gen (by rw [hpc]; rfl)
    have hcalled : called task := by
      by_contra hnot
      have hrest := h.rest task hnot
      rw [hpc] at hrest
      exact hrest
    -- the exchange succeeds at the old generation, and the others find it moved
    rcases h.generation with hg | hg
    · refine h.moved (fun _ _ => Iff.rfl) hothers ?_ ?_ ?_ ?_ ?_ <;>
        simp [advance, hpc, hg, goto, WaitPc.readGen, hcalled]
    · have hne : gen + 1 ≠ gen := by simp
      by_cases hlt : gen < gen + 1
      · refine h.moved (fun _ _ => Iff.rfl) hothers ?_ ?_ ?_ ?_ ?_ <;>
          simp [advance, hpc, hg, hlt, goto, WaitPc.readGen, hcalled]
      · refine h.moved (fun _ _ => Iff.rfl) hothers ?_ ?_ ?_ ?_ ?_ <;>
          simp [advance, hpc, hg, hlt, goto, WaitPc.readGen, hcalled]
  · have hsame : (b.advance task overdue).generation = b.generation :=
      generation_advance fun agent tick start gen hpc => hready ⟨agent, tick, start, gen, hpc⟩
    have hmoves := b.moves_advance task overdue
    refine h.moved (fun _ _ => Iff.rfl) hothers (hsame ▸ h.generation) (fun hg => hsame.trans hg)
      ?_ ?_ ?_
    · intro gen hgen
      rcases hmoves.readGen with hnone | hkeep | ⟨⟨agent, tick, start, hpc⟩, hnew⟩
      · rw [hnone] at hgen
        cases hgen
      · exact h.read task gen (hkeep ▸ hgen)
      all_goals grind [ReadsAt]
    · intro hnot
      have hrest := h.rest task hnot
      generalize b.pc task = old at hmoves hrest
      generalize (b.advance task overdue).pc task = new at hmoves
      cases hmoves with
      | stays => exact hrest
      | _ => exact hrest.elim
    · intro agent tick hc hpc
      rw [hpc] at hmoves
      rcases hmoves.ok with hold | ⟨start, gen, hold⟩
      · exact hsame.trans (h.done task agent tick hc hold)
      · exact absurd ⟨agent, tick, start, gen, hold⟩ hready

def calledBy (called : T → Prop) (a : BarrierAction T) (task : T) : Prop :=
  called task ∨ ∃ agent tick, a = .wait task agent tick

theorem inRound_step (a : BarrierAction T) (h : InRound g called b)
    (hread : ReadsAt g b a) : InRound g (calledBy called a) (b.step a) := by
  have hnone : (∀ task agent tick, a ≠ .wait task agent tick) → calledBy called a = called := by
    intro hne
    funext task
    simp [calledBy, hne]
  cases a with
  | wait task agent tick =>
    have hcalled : ∀ other, other ≠ task →
        (calledBy called (.wait task agent tick) other ↔ called other) := by
      intro other hother
      simp [calledBy, hother.symm]
    have hown : calledBy called (.wait task agent tick) task := .inr ⟨agent, tick, rfl⟩
    simp only [step]
    split
    · refine h.moved hcalled (fun _ => pc_goto_of_ne _) h.generation id ?_ ?_ ?_ <;>
        simp [goto, WaitPc.readGen, hown]
    · rename_i hbusy
      -- a task that is not at rest has called before
      have hbefore : called task := by
        by_contra hnot
        exact hbusy (h.rest task hnot)
      exact h.moved hcalled (fun _ _ => rfl) h.generation id (h.read task)
        (fun hnot => absurd hown hnot) fun agent tick _ => h.done task agent tick hbefore
  | advance task overdue =>
    rw [hnone (by simp)]
    exact inRound_advance h hread
  | markAgentDead agent =>
    obtain ⟨dead, hdead⟩ := b.markAgentDead_spec agent
    rw [hnone (by simp), step, hdead]
    exact ⟨h.generation, h.read, h.rest, h.done⟩
  | count value =>
    rw [hnone (by simp)]
    exact ⟨h.generation, h.read, h.rest, h.done⟩

theorem inRound_run {actions : List (BarrierAction T)}
    (h : InRound g called b) (hread : Guarded step (ReadsAt g) b actions) :
    InRound g (fun task => called task ∨ ∃ agent tick, .wait task agent tick ∈ actions)
      (run step b actions) := by
  induction actions generalizing b called with
  | nil => simpa using h
  | cons a actions ih =>
    obtain ⟨hfirst, hrest⟩ := hread
    have hlast := ih (inRound_step a h hfirst) hrest
    have hsame : (fun task => calledBy called a task ∨ ∃ agent tick,
        BarrierAction.wait task agent tick ∈ actions) = fun task => called task ∨ ∃ agent tick,
          BarrierAction.wait task agent tick ∈ a :: actions := by
      funext task
      simp only [calledBy, List.mem_cons, exists_or, or_assoc, eq_comm]
    rw [hsame] at hlast
    exact hlast

/-- One round: no call is under way, every living agent calls with the tick, all calls of the round
are for that tick, and in the end they have returned `Ok`. -/
structure Round (b : AgentBarrier T) (tick : UInt64) (actions : List (BarrierAction T)) :
    Prop where
  rest : ∀ task, (b.pc task).AtRest
  called : ∀ agent ∈ b.agentIds, agent ∉ b.deadAgents → ∃ task, .wait task agent tick ∈ actions
  returned : ∀ task agent tick', .wait task agent tick' ∈ actions →
    tick' = tick ∧ (run step b actions).pc task = .returned agent tick (.ok ())

def Rounds (b : AgentBarrier T) : List (UInt64 × List (BarrierAction T)) → Prop
  | [] => True
  | (tick, actions) :: rounds => Round b tick actions ∧ Rounds (run step b actions) rounds

/-- In every round some agent is alive, and calls read the generation that the round began with. -/
def Prompt (b : AgentBarrier T) : List (UInt64 × List (BarrierAction T)) → Prop
  | [] => True
  | (_, actions) :: rounds => (∃ agent ∈ b.agentIds, agent ∉ b.deadAgents) ∧
      Guarded step (ReadsAt b.generation) b actions ∧ Prompt (run step b actions) rounds

theorem generation_round {actions : List (BarrierAction T)} (hr : Round b tick actions)
    (hliving : ∃ agent ∈ b.agentIds, agent ∉ b.deadAgents)
    (hread : Guarded step (ReadsAt b.generation) b actions) :
    (run step b actions).generation = b.generation + 1 := by
  have hstart : InRound b.generation (fun _ => False) b := by
    refine ⟨.inl rfl, fun task gen hgen => ?_, fun task _ => hr.rest task, fun _ _ _ => False.elim⟩
    have hrest := hr.rest task
    cases hpc : b.pc task <;> simp_all [WaitPc.readGen, WaitPc.AtRest]
  obtain ⟨agent, hagent, halive⟩ := hliving
  obtain ⟨task, hcall⟩ := hr.called agent hagent halive
  exact (inRound_run hstart hread).done task agent tick (.inr ⟨agent, tick, hcall⟩)
    (hr.returned task agent tick hcall).2

/-- Over any number of rounds in which calls are prompt, the generation moves by one a round. -/
theorem generation_rounds (rounds : List (UInt64 × List (BarrierAction T)))
    (hr : Rounds b rounds) (hp : Prompt b rounds) :
    (run step b (rounds.flatMap Prod.snd)).generation = b.generation + .ofNat rounds.length := by
  induction rounds generalizing b with
  | nil => simp
  | cons round rounds ih =>
    obtain ⟨hround, hrest⟩ := hr
    obtain ⟨hliving, hread, hprompt⟩ := hp
    grind [run_append, generation_round, UInt64.ofNat_add]

section Runs

instance (g : UInt64) (b : AgentBarrier T) (a : BarrierAction T) : Decidable (ReadsAt g b a) := by
  unfold ReadsAt
  split
  · split <;> infer_instance
  · infer_instance

def promptRound (tick : UInt64) : List (BarrierAction (Fin 2)) :=
  [.wait p₀ "a" tick, .wait p₁ "b" tick] ++ steps p₀ false 4 ++ steps p₁ false 4 ++
    steps p₀ false 5 ++ steps p₁ false 5

/-- The second agent records its tick, and reads the generation after the first has passed. -/
def lateRound (tick : UInt64) : List (BarrierAction (Fin 2)) :=
  [.wait p₀ "a" tick, .wait p₁ "b" tick] ++ steps p₁ false 3 ++ steps p₀ false 9 ++
    steps p₁ false 6

def twoAgents : AgentBarrier (Fin 2) := new ["a", "b"] none none

theorem round_of {b : AgentBarrier (Fin 2)} {tick : UInt64} {actions : List (BarrierAction (Fin 2))}
    (hrest : ∀ task, (b.pc task).AtRest) (hids : b.agentIds = ["a", "b"])
    (hcalls : ∀ task agent tick', .wait task agent tick' ∈ actions ↔
      (task = 0 ∧ agent = "a" ∨ task = 1 ∧ agent = "b") ∧ tick' = tick)
    (h₀ : (run step b actions).pc 0 = .returned "a" tick (.ok ()))
    (h₁ : (run step b actions).pc 1 = .returned "b" tick (.ok ())) : Round b tick actions := by
  refine ⟨hrest, ?_, ?_⟩
  · intro agent hagent _
    simp only [hids, List.mem_cons, List.not_mem_nil, or_false] at hagent
    rcases hagent with rfl | rfl
    · exact ⟨0, (hcalls 0 "a" tick).mpr (by simp)⟩
    · exact ⟨1, (hcalls 1 "b" tick).mpr (by simp)⟩
  all_goals grind

theorem mem_promptRound (task : Fin 2) (agent : String) (tick tick' : UInt64) :
    .wait task agent tick' ∈ promptRound tick ↔
      (task = 0 ∧ agent = "a" ∨ task = 1 ∧ agent = "b") ∧ tick' = tick := by
  simp [promptRound, steps]
  tauto

/-- Two rounds, two generations. -/
theorem promptRounds_generation :
    (run step twoAgents ([(5, promptRound 5), (6, promptRound 6)].flatMap Prod.snd)).generation =
      twoAgents.generation + .ofNat 2 := by
  refine generation_rounds [(5, promptRound 5), (6, promptRound 6)] ⟨?_, ?_, trivial⟩ ?_
  · exact round_of (by decide) rfl (mem_promptRound · · 5) rfl rfl
  · exact round_of (by decide) rfl (mem_promptRound · · 6) rfl rfl
  · exact ⟨by decide, by decide, by decide, by decide, trivial⟩

/-- In one round with an agent that is late to read, the generation moves by two. -/
theorem lateRound_generation : Round twoAgents 5 (lateRound 5) ∧ twoAgents.generation = 0 ∧
    (run step twoAgents (lateRound 5)).generation = 2 := by
  refine ⟨round_of (by decide) rfl (fun task agent tick' => ?_) rfl rfl, rfl, by decide⟩
  simp [lateRound, steps]
  tauto

end Runs

end AgentBarrier

end AdapterOS.Exec
