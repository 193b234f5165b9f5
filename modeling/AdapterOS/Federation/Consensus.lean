import AdapterOS.Core.Basic
import AdapterOS.Library.HashMap
import AdapterOS.Library.Quorum
import AdapterOS.Library.Run

/-! Consensus of hosts on what to do with a peer. A decision keeps the number of votes it needs and
the number of calls that were made. -/
namespace AdapterOS.Federation

open Library

def asI32 (n : Int) : Int := n.bmod (2 ^ 32)

structure ConsensusDecision where
  peerId : String
  action : String
  participatingHosts : List String
  requiredVotes : Int
  collectedVotes : Int
  approved : Bool
  timestamp : String
  deriving DecidableEq

abbrev ConsensusDecisions := HashMap String ConsensusDecision

def majorityQuorum (participatingHosts : List String) : Int :=
  asI32 (participatingHosts.length / 2 + 1 : Nat)

/-- The row of a decision without votes. -/
def ConsensusDecision.initial (now peerId action : String) (participatingHosts : List String) :
    ConsensusDecision where
  peerId := peerId
  action := action
  participatingHosts := participatingHosts
  requiredVotes := majorityQuorum participatingHosts
  collectedVotes := 0
  approved := false
  timestamp := now

def initiateConsensus (decisionId now peerId action : String) (participatingHosts : List String)
    (db : ConsensusDecisions) : ConsensusDecisions :=
  db.insert decisionId (.initial now peerId action participatingHosts)

/-- Neither the host nor its vote is looked at. -/
def recordConsensusVote (decisionId _votingHost : String) (_approved : Bool)
    (db : ConsensusDecisions) : ConsensusDecisions × Except AosError Bool :=
  match db.get? decisionId with
  | none => (db, .error (.validation ("Decision not found: " ++ decisionId)))
  | some decision =>
    let collectedVotes := asI32 (decision.collectedVotes + 1)
    let quorumReached := decide (collectedVotes ≥ decision.requiredVotes)
    (db.insert decisionId
      { decision with
        collectedVotes := collectedVotes
        approved := quorumReached || decision.approved }, .ok quorumReached)

def castVote (decisionId : String) (db : ConsensusDecisions) (b : Ballot String) :
    ConsensusDecisions :=
  (recordConsensusVote decisionId b.voter b.approve db).1

/-- Every answer and every stored approval has a majority of the hosts behind it. -/
def Justified (decisionId : String) (hosts : List String) (db : ConsensusDecisions)
    (votes : List (Ballot String)) : Prop :=
  ∀ cast, cast <+: votes →
    (∀ d, (run (castVote decisionId) db cast).get? decisionId = some d → d.approved = true →
      Majority hosts cast) ∧
    ∀ b, cast ++ [b] <+: votes →
      (recordConsensusVote decisionId b.voter b.approve (run (castVote decisionId) db cast)).2 =
        .ok true → Majority hosts (cast ++ [b])

section Counting

variable {n : Int} {hosts : List String} {k : Nat}

theorem asI32_lt (n : Int) : asI32 n < 2 ^ 31 := by
  rw [asI32, Int.bmod_eq_emod]
  split <;> omega

theorem asI32_le (hn : 0 ≤ n) : asI32 n ≤ n := by
  rw [asI32, Int.bmod_eq_emod]
  split <;> omega

theorem asI32_of_lt (hn : 0 ≤ n) (hlt : n < 2 ^ 31) : asI32 n = n := by
  rw [asI32, Int.bmod_eq_emod]
  split <;> omega

theorem asI32_asI32_add (n m : Int) : asI32 (asI32 n + m) = asI32 (n + m) :=
  Int.bmod_add_bmod

def neededCalls (hosts : List String) : Nat := (max 1 (majorityQuorum hosts)).toNat

theorem neededCalls_le (hosts : List String) : neededCalls hosts ≤ hosts.length / 2 + 1 := by
  have hle := asI32_le (n := (hosts.length / 2 + 1 : Nat)) (by omega)
  unfold neededCalls majorityQuorum
  omega

theorem neededCalls_eq (h : hosts.length / 2 + 1 < 2 ^ 31) :
    neededCalls hosts = hosts.length / 2 + 1 := by
  have heq := asI32_of_lt (n := (hosts.length / 2 + 1 : Nat)) (by omega) (by omega)
  unfold neededCalls majorityQuorum
  omega

theorem neededCalls_le_succ : neededCalls hosts ≤ k + 1 ↔
      majorityQuorum hosts ≤ asI32 (k + 1) ∨ neededCalls hosts ≤ k := by
  have hbound : majorityQuorum hosts < 2 ^ 31 := asI32_lt _
  have hle := asI32_le (n := (k + 1 : Int)) (by omega)
  unfold neededCalls
  constructor
  · intro h
    by_cases hk : (max 1 (majorityQuorum hosts)).toNat ≤ k
    · exact Or.inr hk
    · have heq := asI32_of_lt (n := (k + 1 : Int)) (by omega) (by omega)
      exact Or.inl (by omega)
  · rintro (h | h)
    · omega
    · omega

end Counting

section Votes

variable {id now peerId action : String} {hosts : List String} {db : ConsensusDecisions}
  {votes cast : List (Ballot String)} {k : Nat}

/-- After `k` calls the decision has counted them, whatever the votes were. -/
def Counted (id : String) (hosts : List String) (k : Nat) (db : ConsensusDecisions) : Prop :=
  ∃ d, db.get? id = some d ∧ d.requiredVotes = majorityQuorum hosts ∧ d.collectedVotes = asI32 k ∧
    (d.approved = true ↔ neededCalls hosts ≤ k)

theorem counted_initiateConsensus :
    Counted id hosts 0 (initiateConsensus id now peerId action hosts db) := by
  have hzero : asI32 (0 : Nat) = 0 := asI32_of_lt (by omega) (by omega)
  have hpos : 0 < neededCalls hosts := by
    unfold neededCalls
    omega
  refine ⟨.initial now peerId action hosts, AList.get?_insert_self db id _, ?_, hzero.symm, ?_⟩ <;>
    grind [ConsensusDecision.initial]

theorem Counted.castVote (h : Counted id hosts k db) (b : Ballot String) :
    Counted id hosts (k + 1) (castVote id db b) := by
  obtain ⟨d, hget, hrequired, hcollected, happroved⟩ := h
  have hcount : asI32 (d.collectedVotes + 1) = asI32 ((k + 1 : Nat) : Int) := by
    rw [hcollected, asI32_asI32_add, Int.natCast_succ]
  unfold Federation.castVote recordConsensusVote
  rw [hget]
  refine ⟨_, AList.get?_insert_self _ _ _, hrequired, hcount, ?_⟩
  simp only [Bool.or_eq_true, decide_eq_true_eq, happroved, hrequired, hcount]
  exact neededCalls_le_succ.symm

theorem counted_run (h : Counted id hosts k db) (votes : List (Ballot String)) :
    Counted id hosts (k + votes.length) (run (castVote id) db votes) := by
  induction votes generalizing k db with
  | nil => exact h
  | cons b votes ih =>
    have hrest := ih (h.castVote b)
    rw [Nat.add_right_comm] at hrest
    exact hrest

theorem Counted.approved_iff (h : Counted id hosts k db) :
    (∃ d, db.get? id = some d ∧ d.approved = true) ↔ neededCalls hosts ≤ k := by
  obtain ⟨d, hget, -, -, happroved⟩ := h
  rw [← happroved]
  constructor
  · rintro ⟨d', hget', hd'⟩
    rw [hget, Option.some.injEq] at hget'
    exact hget' ▸ hd'
  · intro hd
    exact ⟨d, hget, hd⟩

theorem approved_of_answer {b : Ballot String}
    (h : (recordConsensusVote id b.voter b.approve db).2 = .ok true) :
    ∃ d, (castVote id db b).get? id = some d ∧ d.approved = true := by
  grind [castVote, recordConsensusVote, AList.get?_insert_self]

theorem justified_iff_majority (h : Counted id hosts 0 db) : Justified id hosts db votes ↔
      ∀ cast, cast <+: votes → neededCalls hosts ≤ cast.length → Majority hosts cast := by
  have hcounted : ∀ cast, Counted id hosts cast.length (run (castVote id) db cast) := by
    intro cast
    have hrun := counted_run h cast
    rwa [Nat.zero_add] at hrun
  constructor
  · intro hj cast hcast hneeded
    obtain ⟨d, hget, hd⟩ := (hcounted cast).approved_iff.mpr hneeded
    exact (hj cast hcast).1 d hget hd
  · intro hm cast hcast
    refine ⟨?_, ?_⟩
    · intro d hget hd
      exact hm cast hcast ((hcounted cast).approved_iff.mp ⟨d, hget, hd⟩)
    · intro b hb hanswer
      have hstored := approved_of_answer hanswer
      have hlast : castVote id (run (castVote id) db cast) b =
          run (castVote id) db (cast ++ [b]) := by
        rw [run_append]
        rfl
      rw [hlast] at hstored
      exact hm (cast ++ [b]) hb ((hcounted (cast ++ [b])).approved_iff.mp hstored)

/-- Approval is justified just when there are too few calls for it, or the calls that lead to it are
approving votes of different participants, and their number was not cut to 32 bits. -/
theorem consensus_justified_iff (hhosts : hosts.Nodup) :
    Justified id hosts (initiateConsensus id now peerId action hosts db) votes ↔
      votes.length < neededCalls hosts ∨ (neededCalls hosts = hosts.length / 2 + 1 ∧
          (∀ b ∈ votes.take (neededCalls hosts), b.approve = true ∧ b.voter ∈ hosts) ∧
          ((votes.take (neededCalls hosts)).map Ballot.voter).Nodup) := by
  rw [justified_iff_majority counted_initiateConsensus]
  constructor
  · intro hm
    by_cases hfew : votes.length < neededCalls hosts
    · exact Or.inl hfew
    · have hlength : (votes.take (neededCalls hosts)).length = neededCalls hosts := by
        rw [List.length_take]
        omega
      have hmajority := hm _ (List.take_prefix _ _) (Nat.le_of_eq hlength.symm)
      have hhalf := hmajority.half_lt hhosts
      grind [neededCalls_le, majority_iff_of_length]
  · rintro (hfew | ⟨hneeded, hvotes⟩) cast hcast hlong
    · have hle := hcast.length_le
      omega
    · have hlength : (votes.take (neededCalls hosts)).length = hosts.length / 2 + 1 := by
        have hle := hcast.length_le
        rw [List.length_take]
        omega
      refine Majority.mono ((majority_iff_of_length hhosts hlength).mpr hvotes) ?_
      have hpre : votes.take (neededCalls hosts) <+: cast :=
        List.prefix_of_prefix_length_le (List.take_prefix _ _) hcast (by omega)
      exact hpre.subset

theorem two_of_three_justified : ["a", "b", "c"].Nodup ∧ Justified "d" ["a", "b", "c"]
        (initiateConsensus "d" "now" "p" "isolate_peer" ["a", "b", "c"] ∅)
        [⟨"a", true⟩, ⟨"c", true⟩, ⟨"a", false⟩, ⟨"x", true⟩] := by
  have hneeded : neededCalls ["a", "b", "c"] = 2 := neededCalls_eq (by decide)
  refine ⟨by decide, (consensus_justified_iff (by decide)).mpr (Or.inr ?_)⟩
  rw [hneeded]
  decide

/-- Two rejections, one of them from outside, approve a decision of three hosts. -/
theorem rejections_approve : ["a", "b", "c"].Nodup ∧ (recordConsensusVote "d" "x" false
        (castVote "d" (initiateConsensus "d" "now" "p" "isolate_peer" ["a", "b", "c"] ∅)
          ⟨"a", false⟩)).2 = .ok true ∧
      ¬ Majority ["a", "b", "c"] [⟨"a", false⟩, ⟨"x", false⟩] ∧
      ¬ Justified "d" ["a", "b", "c"]
        (initiateConsensus "d" "now" "p" "isolate_peer" ["a", "b", "c"] ∅)
        [⟨"a", false⟩, ⟨"x", false⟩] := by
  have hanswer : (recordConsensusVote "d" "x" false
      (castVote "d" (initiateConsensus "d" "now" "p" "isolate_peer" ["a", "b", "c"] ∅)
        ⟨"a", false⟩)).2 = .ok true := by
    decide
  have hnot : ¬ Majority ["a", "b", "c"] [⟨"a", false⟩, ⟨"x", false⟩] := by decide
  refine ⟨by decide, hanswer, hnot, ?_⟩
  intro h
  exact hnot ((h [⟨"a", false⟩] ⟨[⟨"x", false⟩], rfl⟩).2 ⟨"x", false⟩ ⟨[], rfl⟩ hanswer)

end Votes

end AdapterOS.Federation
