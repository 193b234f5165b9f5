import AdapterOS.Routing.RoutingLaw

/-! The routing policy applied to a decision of the router: allow and deny lists of ids and of
clusters, a cap, and the gates of what is left. -/
namespace AdapterOS.Routing

variable {D F : Type*}

structure DecisionHash (F : Type*) where
  inputHash : String
  outputHash : String
  reasoningHash : Option String
  combinedHash : String
  tau : F
  eps : F
  k : Nat
  backendIdentityHash : Option String

structure HashedDecision (F : Type*) extends Decision F where
  decisionHash : Option (DecisionHash F)

def indexBytes (idx : Nat) : List UInt8 := Library.leBytes 2 idx

def gateBytes (gate : Int) : List UInt8 := Library.leBytes 2 (gate % 65536).toNat

/-- What a decision is computed from, apart from the router. -/
structure HashInputs (F : Type*) where
  features : List F
  priors : List F
  reasoningHash : Option B3Hash
  backendIdentityHash : Option B3Hash

def computeDecisionHash (hash : List UInt8 → B3Hash) (toLeBytes : F → List UInt8) (r : Router F)
    (inputs : HashInputs F) (indices : List Nat) (gatesQ15 : List Int) : DecisionHash F :=
  let reasoning := (inputs.reasoningHash.map B3Hash.asBytes).getD []
  let backend := (inputs.backendIdentityHash.map B3Hash.asBytes).getD []
  let inputHash :=
    hash (inputs.features.flatMap toLeBytes ++ inputs.priors.flatMap toLeBytes ++ reasoning)
  let outputHash := hash (indices.flatMap indexBytes ++ gatesQ15.flatMap gateBytes ++ reasoning)
  let combinedHash := hash (inputHash.asBytes ++ outputHash.asBytes ++ reasoning ++ backend)
  { inputHash := inputHash.toShortHex
    outputHash := outputHash.toShortHex
    reasoningHash := inputs.reasoningHash.map B3Hash.toShortHex
    combinedHash := combinedHash.toShortHex
    tau := r.tau
    eps := r.eps
    k := r.k
    backendIdentityHash := inputs.backendIdentityHash.map B3Hash.toShortHex }

section Renormalize

/-- The 64-bit float operations of the renormalization. -/
structure DoubleOps (D F : Type*) where
  zero : D
  add : D → D → D
  sub : D → D → D
  div : D → D → D
  isPos : D → Bool
  /-- A gate over `ROUTER_GATE_Q15_DENOM`. -/
  ofQ15 : Int → D
  toF32 : D → F

def kahanAdd (f64 : DoubleOps D F) (acc : D × D) (g : D) : D × D :=
  let y := f64.sub g acc.2
  let t := f64.add acc.1 y
  (t, f64.sub (f64.sub t acc.1) y)

def renormalizeGatesQ15 (ops : FloatOps F) (f64 : DoubleOps D F) (gatesQ15 : List Int) :
    List Int :=
  match gatesQ15 with
  | [] => []
  | [_] => [ops.quantizeGate (ops.lit 1)]
  | gates =>
    let floats := gates.map f64.ofQ15
    let sum := (floats.foldl (kahanAdd f64) (f64.zero, f64.zero)).1
    if f64.isPos sum then floats.map fun g => ops.quantizeGate (f64.toF32 (f64.div g sum))
    else gates.map fun _ => ops.quantizeGate (ops.div (ops.lit 1) (ops.ofNat gates.length))

end Renormalize

/-- What the filter reads of a routing policy. -/
structure RoutingPolicy where
  allowedAdapterIds : Option (List AdapterId) := none
  deniedAdapterIds : Option (List AdapterId) := none
  maxAdaptersPerToken : Option Nat := none
  allowedClusters : Option (List String) := none
  deniedClusters : Option (List String) := none

namespace RoutingPolicy

def passesIds (policy : RoutingPolicy) (id : AdapterId) : Bool :=
  (policy.allowedAdapterIds.all fun ids => ids.contains id) &&
    !(policy.deniedAdapterIds.any fun ids => ids.contains id)

def passesClusters (policy : RoutingPolicy) (cluster : Option String) : Bool :=
  (policy.allowedClusters.all fun clusters => cluster.any clusters.contains) &&
    !(policy.deniedClusters.any fun clusters => cluster.any clusters.contains)

end RoutingPolicy

section Filter

/-- The vectors the loop fills, and how many adapters the cluster lists took out. -/
structure Filtered (F : Type*) where
  indices : List Nat := []
  gates : List Int := []
  candidates : List (DecisionCandidate F) := []
  clusterFiltered : Nat := 0

def clusterOf (adapterClusters : List (Option String)) (idx : Nat) : Option String :=
  adapterClusters[idx]?.join

def filterLoop (adapterIds : List AdapterId) (adapterClusters : List (Option String))
    (policy : RoutingPolicy) (candidates : List (DecisionCandidate F)) (acc : Filtered F) :
    List ((Nat × Int) × Nat) → Except AosError (Filtered F)
  | [] => .ok acc
  | ((adapterIdx, gateQ15), i) :: rest =>
    match adapterIds[adapterIdx]? with
    | none => .error (.policyViolation
        ("RoutingPolicy adapter index " ++ toString adapterIdx ++ " out of bounds"))
    | some adapterId =>
      if !policy.passesIds adapterId then
        filterLoop adapterIds adapterClusters policy candidates acc rest
      else if !policy.passesClusters (clusterOf adapterClusters adapterIdx) then
        filterLoop adapterIds adapterClusters policy candidates
          { acc with clusterFiltered := acc.clusterFiltered + 1 } rest
      else
        filterLoop adapterIds adapterClusters policy candidates { acc with
          indices := acc.indices ++ [adapterIdx]
          gates := acc.gates ++ [gateQ15]
          candidates := acc.candidates ++ candidates[i]?.toList } rest

def truncateTo (max : Nat) (f : Filtered F) : Filtered F :=
  if f.indices.length > max then
    { f with
      indices := f.indices.take max
      gates := f.gates.take max
      candidates := f.candidates.take max }
  else f

def applyCap (policy : RoutingPolicy) (f : Filtered F) : Except AosError (Filtered F) :=
  match policy.maxAdaptersPerToken with
  | none => .ok f
  | some max =>
    if max = 0 then .error (.policyViolation
      "Routing policy rejected all adapters (max_adapters_per_token=0)")
    else .ok (truncateTo max f)

def filterDecisionByPolicy (ops : FloatOps F) (f64 : DoubleOps D F) (decision : HashedDecision F)
    (adapterIds : List AdapterId) (adapterClusters : List (Option String))
    (policy : Option RoutingPolicy) : Except AosError (HashedDecision F) :=
  if adapterIds.length ≠ adapterClusters.length then
    .error (.policyViolation "RoutingPolicy adapter ids/clusters length mismatch")
  else
    match policy with
    | none => .ok decision
    | some policy => do
      let f ← filterLoop adapterIds adapterClusters policy decision.candidates {}
        (decision.indices.zip decision.gatesQ15).zipIdx
      let f ← applyCap policy f
      if f.indices.isEmpty then
        .error (.policyViolation (if f.clusterFiltered > 0 then
          "Routing policy denied all adapters for this token (clusters)"
        else "Routing policy denied all adapters for this token"))
      else
        .ok { decision with
          indices := f.indices
          gatesQ15 :=
            if f.indices.length < decision.indices.length then renormalizeGatesQ15 ops f64 f.gates
            else f.gates
          candidates := f.candidates }

end Filter

section Law

variable {ops : FloatOps F} {f64 : DoubleOps D F} {d d' : HashedDecision F}
  {adapterIds : List AdapterId} {adapterClusters : List (Option String)} {policy : RoutingPolicy}
  {f f' : Filtered F} {hashOf : List Nat → List Int → DecisionHash F}

/-- Indices and gates are those of the candidates, and a decision hash is theirs; so the router
builds its decisions. -/
structure SelfConsistent (hashOf : List Nat → List Int → DecisionHash F) (d : HashedDecision F) :
    Prop where
  indices : d.indices = d.candidates.map (·.adapterIdx)
  gates : d.gatesQ15 = d.candidates.map (·.gateQ15)
  hash : ∀ h, d.decisionHash = some h → h = hashOf d.indices d.gatesQ15

/-- Both rules, for a registered adapter. -/
def permitted (adapterIds : List AdapterId) (adapterClusters : List (Option String))
    (policy : RoutingPolicy) (idx : Nat) : Bool :=
  adapterIds[idx]?.any fun id =>
    policy.passesIds id && policy.passesClusters (clusterOf adapterClusters idx)

/-- The first candidates that the rules let through, as many as the cap allows. -/
def retained (adapterIds : List AdapterId) (adapterClusters : List (Option String))
    (policy : RoutingPolicy) (candidates : List (DecisionCandidate F)) :
    List (DecisionCandidate F) :=
  let passing := candidates.filter fun c => permitted adapterIds adapterClusters policy c.adapterIdx
  match policy.maxAdaptersPerToken with
  | none => passing
  | some max => passing.take max

/-- The vectors of the filter are those of some candidates. -/
structure Filtered.Holds (f : Filtered F) (cs : List (DecisionCandidate F)) : Prop where
  indices : f.indices = cs.map (·.adapterIdx)
  gates : f.gates = cs.map (·.gateQ15)
  candidates : f.candidates = cs

theorem Filtered.holds_empty : Filtered.Holds ({} : Filtered F) [] := ⟨rfl, rfl, rfl⟩

theorem Filtered.Holds.append {cs : List (DecisionCandidate F)} (hf : f.Holds cs)
    (c : DecisionCandidate F) : Filtered.Holds { f with
      indices := f.indices ++ [c.adapterIdx]
      gates := f.gates ++ [c.gateQ15]
      candidates := f.candidates ++ [c] } (cs ++ [c]) := by
  obtain ⟨hindices, hgates, hcandidates⟩ := hf
  constructor <;> simp [*]

theorem filterLoop_ok (before : List (DecisionCandidate F)) {rest cs : List (DecisionCandidate F)}
    (hf : f.Holds cs)
    (hok : filterLoop adapterIds adapterClusters policy (before ++ rest) f
      ((rest.map fun c => (c.adapterIdx, c.gateQ15)).zipIdx before.length) = .ok f') :
    f'.Holds (cs ++ rest.filter fun c =>
      permitted adapterIds adapterClusters policy c.adapterIdx) := by
  induction rest generalizing before f cs with
  | nil =>
    obtain rfl : f = f' := by simpa [filterLoop] using hok
    simpa using hf
  | cons c rest ih =>
    have hget : (before ++ c :: rest)[before.length]? = some c := by simp
    have happend : before ++ c :: rest = (before ++ [c]) ++ rest := by simp
    have hlength : before.length + 1 = (before ++ [c]).length := by simp
    simp only [List.map_cons, List.zipIdx_cons, filterLoop, hget] at hok
    rw [happend, hlength] at hok
    cases hid : adapterIds[c.adapterIdx]? with
    | none => simp [hid] at hok
    | some id =>
      simp only [hid] at hok
      cases hids : policy.passesIds id with
      | false => grind [permitted]
      | true =>
        cases hcl : policy.passesClusters (clusterOf adapterClusters c.adapterIdx) with
        | false =>
          rw [List.filter_cons_of_neg (by simp [permitted, hid, hcl])]
          simp only [hids, hcl, Bool.not_true, Bool.false_eq_true, if_false, Bool.not_false,
            if_true] at hok
          exact ih (f := { f with clusterFiltered := f.clusterFiltered + 1 }) _
            ⟨hf.indices, hf.gates, hf.candidates⟩ hok
        | true =>
          rw [List.filter_cons_of_pos (by simp [permitted, hid, hids, hcl]), List.append_cons]
          simp only [hids, hcl, Bool.not_true, Bool.false_eq_true, if_false,
            Option.toList_some] at hok
          exact ih _ (hf.append c) hok

theorem applyCap_ok (cs : List (DecisionCandidate F))
    (hf : f.Holds (cs.filter fun c => permitted adapterIds adapterClusters policy c.adapterIdx))
    (hok : applyCap policy f = .ok f') :
    f'.Holds (retained adapterIds adapterClusters policy cs) := by
  unfold applyCap at hok
  unfold retained
  cases hmax : policy.maxAdaptersPerToken with
  | none =>
    obtain rfl : f = f' := by simpa [hmax] using hok
    exact hf
  | some max =>
    simp only [hmax] at hok ⊢
    split at hok
    · cases hok
    · obtain rfl := Except.ok.inj hok
      obtain ⟨hindices, hgates, hcandidates⟩ := hf
      unfold truncateTo
      split
      · constructor <;> simp [*]
      · rename_i hshort
        rw [hindices, List.length_map, gt_iff_lt, not_lt] at hshort
        rw [List.take_of_length_le hshort]
        exact ⟨hindices, hgates, hcandidates⟩

theorem retained_sublist (cs : List (DecisionCandidate F)) :
    (retained adapterIds adapterClusters policy cs).Sublist cs := by
  unfold retained
  split
  · exact List.filter_sublist
  · exact (List.take_sublist _ _).trans List.filter_sublist

theorem filterDecisionByPolicy_ok (hd : SelfConsistent hashOf d)
    (hok : filterDecisionByPolicy ops f64 d adapterIds adapterClusters (some policy) = .ok d') :
    let kept := retained adapterIds adapterClusters policy d.candidates
    kept ≠ [] ∧ d' = { d with
      indices := kept.map (·.adapterIdx)
      gatesQ15 :=
        if kept.length < d.candidates.length then
          renormalizeGatesQ15 ops f64 (kept.map (·.gateQ15))
        else kept.map (·.gateQ15)
      candidates := kept } := by
  intro kept
  unfold filterDecisionByPolicy at hok
  split at hok
  · cases hok
  · have hrows : d.indices.zip d.gatesQ15 = d.candidates.map fun c => (c.adapterIdx, c.gateQ15) := by
      rw [hd.indices, hd.gates, List.zip_map']
    obtain ⟨f₁, hloop, hok⟩ := bind_eq_ok.mp hok
    obtain ⟨f, hcap, hok⟩ := bind_eq_ok.mp hok
    rw [hrows] at hloop
    have h₁ := filterLoop_ok [] Filtered.holds_empty hloop
    obtain ⟨hindices, hgates, hcandidates⟩ := applyCap_ok d.candidates h₁ hcap
    obtain ⟨⟩ := hd
    grind

/-- What a filtered decision should be. -/
structure FilterLaw (hashOf : List Nat → List Int → DecisionHash F) (adapterIds : List AdapterId)
    (adapterClusters : List (Option String)) (policy : RoutingPolicy)
    (d d' : HashedDecision F) : Prop where
  indices : d'.indices =
    (let passing := d.indices.filter (permitted adapterIds adapterClusters policy)
    match policy.maxAdaptersPerToken with
    | none => passing
    | some max => passing.take max)
  nonempty : d'.indices ≠ []
  unchanged : d'.indices = d.indices → d'.gatesQ15 = d.gatesQ15
  consistent : SelfConsistent hashOf d'

end Law

def exactDoubles : DoubleOps ℚ ℚ where
  zero := 0
  add := (· + ·)
  sub := (· - ·)
  div := (· / ·)
  isPos x := 0 < x
  ofQ15 q := q / 32767
  toF32 := id

def plainHash : List Nat → List Int → DecisionHash ℚ :=
  computeDecisionHash leadingHash (fun _ => []) plainRouter ⟨[], [], none, none⟩

def twoGates : HashedDecision ℚ where
  indices := [0, 1]
  gatesQ15 := [20000, 12767]
  entropy := 0
  candidates := [⟨0, 9 / 10, 20000⟩, ⟨1, 1 / 10, 12767⟩]
  policyMaskDigestB3 := none
  policyOverridesApplied := none
  decisionHash := some (plainHash [0, 1] [20000, 12767])

theorem twoGates_consistent : SelfConsistent plainHash twoGates :=
  ⟨rfl, rfl, fun _ h => (Option.some.inj h).symm⟩

end AdapterOS.Routing
