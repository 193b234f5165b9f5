import AdapterOS.Core.Basic
import AdapterOS.Library.Ranking

/-! The router: a score for every adapter the policy mask allows, the best `k` of them and their
quantized gates. -/
namespace AdapterOS.Routing

open Library

/-- The 32-bit float operations of the router. The order of the type is `total_cmp`. -/
structure FloatOps (F : Type*) where
  lit : ℚ → F
  ofNat : Nat → F
  display : F → String
  isFinite : F → Bool
  add : F → F → F
  sub : F → F → F
  mul : F → F → F
  div : F → F → F
  /-- The softmax of the scores at a temperature. -/
  deterministicSoftmax : F → List F → List F
  softmax_length : ∀ tau scores, (deterministicSoftmax tau scores).length = scores.length
  computeEntropy : List F → F
  quantizeGate : F → Int

structure RouterWeights (F : Type*) where
  languageWeight : F
  frameworkWeight : F
  symbolHitsWeight : F
  pathTokensWeight : F
  promptVerbWeight : F
  orthogonalWeight : F

inductive AdapterTier where
  | tier0
  | tier1
  | tier2
  | default

def AdapterTier.fromStr (s : String) : AdapterTier :=
  if s = "tier_0" then .tier0 else if s = "tier_1" then .tier1
  else if s = "tier_2" then .tier2 else .default

inductive LoraTier where
  | max
  | standard
  | micro

def LoraTier.fromStr (s : String) : Option LoraTier :=
  if s = "max" then some .max else if s = "standard" then some .standard
  else if s = "micro" then some .micro else none

/-- What the router reads of an adapter. -/
structure AdapterInfo (F : Type*) where
  id : AdapterId
  stableId : Nat
  framework : Option String
  languages : List Nat
  tier : String
  scopePath : Option String
  loraTier : Option String
  versionWeight : F
  recommendedForMoe : Bool

structure PolicyOverrideFlags where
  allowList : Bool := false
  denyList : Bool := false
  trustState : Bool := false
  deriving DecidableEq

structure PolicyMask where
  allowed : List Bool
  digest : B3Hash
  overridesApplied : PolicyOverrideFlags

structure DecisionCandidate (F : Type*) where
  adapterIdx : Nat
  rawScore : F
  gateQ15 : Int

structure Decision (F : Type*) where
  indices : List Nat
  gatesQ15 : List Int
  entropy : F
  candidates : List (DecisionCandidate F)
  policyMaskDigestB3 : Option B3Hash
  policyOverridesApplied : Option PolicyOverrideFlags

def maxK : Nat := 8

def sanitizeK (k : Nat) : Nat := if k = 0 then 1 else if k > maxK then maxK else k

theorem sanitizeK_pos (k : Nat) : 0 < sanitizeK k := by
  unfold sanitizeK maxK
  split
  · exact Nat.one_pos
  · split <;> omega

/-- The orthogonality constraints are given by the penalty of each adapter index. -/
structure Router (F : Type*) where
  featureWeights : RouterWeights F
  k : Nat
  k_pos : 0 < k
  tau : F
  eps : F
  orthogonalConstraints : Option (Nat → F)
  orthogonalEnabled : Bool
  adaptiveRouting : Bool
  routingBias : F
  isMoeModel : Bool

variable {F : Type*}

section Scoring

variable (ops : FloatOps F)

def AdapterTier.boost : AdapterTier → F
  | .tier0 => ops.lit (3 / 10)
  | .tier1 => ops.lit (2 / 10)
  | .tier2 => ops.lit (1 / 10)
  | .default => ops.lit 0

def LoraTier.boost : LoraTier → F
  | .max => ops.lit (12 / 100)
  | .standard => ops.lit (6 / 100)
  | .micro => ops.lit 0

def FloatOps.sum (values : List F) : F := values.foldl ops.add (ops.lit 0)

def checkNumericsFrom : Nat → List F → Except String Unit
  | _, [] => .ok ()
  | index, value :: rest =>
    if ops.isFinite value then checkNumericsFrom (index + 1) rest
    else .error ("Non-finite numeric value at index " ++ toString index ++ ": " ++
      ops.display value)

def checkNumerics (values : List F) : Except String Unit := checkNumericsFrom ops 0 values

def validateRouterInputs (features priors : List F) : Except AosError Unit :=
  match checkNumerics ops features with
  | .error err => .error (.determinismViolation ("Non-finite router feature detected: " ++ err))
  | .ok () =>
    match checkNumerics ops priors with
    | .error err => .error (.determinismViolation ("Non-finite router prior detected: " ++ err))
    | .ok () => .ok ()

/-- A scope that some adapter has, allowed or not, pushes all other priors down. -/
def scopedPriors (priors : List F) (adapterInfo : List (AdapterInfo F)) :
    Option String → List F
  | none => priors
  | some hint =>
    if (priors.zip adapterInfo).any (·.2.scopePath = some hint) then
      (priors.zip adapterInfo).map (fun x =>
        if x.2.scopePath = some hint then x.1 else ops.lit (-1000000000)) ++
        priors.drop adapterInfo.length
    else priors

variable [LinearOrder F]

def detectedLanguage (features : List F) : Option Nat :=
  ((features.take 8).zipIdx.foldl (fun best x =>
    match best with
    | none => some x
    | some b => if b.1 ≤ x.1 then some x else some b) none).map Prod.snd

def languageAffinity (w : RouterWeights F) (features : List F) (info : AdapterInfo F)
    (score : F) : F :=
  match detectedLanguage features with
  | none => score
  | some lang =>
    let strength := features.getD lang (ops.lit 0)
    if lang ∈ info.languages ∧ ops.lit 0 < strength then
      ops.add score (ops.mul (ops.mul strength w.languageWeight) (ops.lit 2))
    else score

def frameworkAffinity (w : RouterWeights F) (features : List F) (info : AdapterInfo F)
    (score : F) : F :=
  let strength := ops.sum ((features.drop 8).take 3)
  if info.framework.isSome ∧ ops.lit 0 < strength then
    ops.add score (ops.mul (ops.mul strength w.frameworkWeight) (ops.lit (3 / 2)))
  else score

def computeAdapterFeatureScore (w : RouterWeights F) (features : List F)
    (info : AdapterInfo F) : F :=
  if features.length ≠ 21 ∧ features.length ≠ 22 ∧ features.length ≠ 25 then ops.lit 0
  else
    let feature := fun i => features.getD i (ops.lit 0)
    let score := frameworkAffinity ops w features info
      (languageAffinity ops w features info (ops.lit 0))
    let score := ops.add score (ops.mul (feature 11) w.symbolHitsWeight)
    let score := ops.add score (ops.mul (feature 12) w.pathTokensWeight)
    let verbStrength := ((features.drop 13).take 8).foldl max (ops.lit 0)
    let score := ops.add score (ops.mul verbStrength w.promptVerbWeight)
    let score := ops.add score ((AdapterTier.fromStr info.tier).boost ops)
    match info.loraTier with
    | none => score
    | some tier => ops.add score (((LoraTier.fromStr tier).map (·.boost ops)).getD (ops.lit 0))

def computeAdapterOrthogonalPenalty (r : Router F) (adapterIdx : Nat) : F :=
  if r.orthogonalEnabled then
    match r.orthogonalConstraints with
    | some penalty => ops.mul (penalty adapterIdx) r.featureWeights.orthogonalWeight
    | none => ops.lit 0
  else ops.lit 0

def computeScore (similarity bias : F) : F := ops.mul similarity bias

def clamp (lo hi x : F) : F := if x < lo then lo else if hi < x then hi else x

def combinedScore (r : Router F) (features : List F) (i : Nat) (prior : F)
    (info : AdapterInfo F) : F :=
  let feature := computeAdapterFeatureScore ops r.featureWeights features info
  let penalty := computeAdapterOrthogonalPenalty ops r i
  let score := computeScore ops (ops.sub (ops.add prior feature) penalty) r.routingBias
  let score := if r.isMoeModel && !info.recommendedForMoe then ops.mul score (ops.lit (8 / 10))
    else score
  let versionWeight := if ops.isFinite info.versionWeight then
      clamp (ops.lit 0) (ops.lit 2) info.versionWeight
    else ops.lit 1
  ops.mul score versionWeight

def adapterScore (r : Router F) (features : List F) (i : Nat) (prior : F)
    (info : AdapterInfo F) : Except AosError F :=
  if !ops.isFinite prior then
    .error (.determinismViolation ("Non-finite prior score for adapter " ++ toString i))
  else if !ops.isFinite (computeAdapterFeatureScore ops r.featureWeights features info) then
    .error (.determinismViolation ("Non-finite feature score for adapter " ++ toString i))
  else if !ops.isFinite (computeAdapterOrthogonalPenalty ops r i) then
    .error (.determinismViolation ("Non-finite orthogonal penalty for adapter " ++ toString i))
  else if !ops.isFinite (combinedScore ops r features i prior info) then
    .error (.determinismViolation ("Non-finite combined score for adapter " ++ toString i))
  else .ok (combinedScore ops r features i prior info)

/-- A prior, its adapter and whether the mask allows it. -/
abbrev Row (F : Type*) := F × AdapterInfo F × Bool

/-- The scores of the allowed adapters, by increasing index. -/
def scoreRows (r : Router F) (features : List F) :
    Nat → List (Row F) → Except AosError (List (Nat × F))
  | _, [] => .ok []
  | i, (prior, info, allowed) :: rest =>
    if allowed then do
      let score ← adapterScore ops r features i prior info
      let scores ← scoreRows r features (i + 1) rest
      return (i, score) :: scores
    else scoreRows r features (i + 1) rest

end Scoring

section Selection

variable [LinearOrder F] (ops : FloatOps F)

def sanitizeTau (tau : F) : F :=
  if !ops.isFinite tau then ops.lit 1 else if tau ≤ ops.lit 0 then ops.lit 1 else tau

def sanitizeEps (eps : F) : F :=
  if !ops.isFinite eps then ops.lit (2 / 100)
  else if eps < ops.lit 0 ∨ ops.lit 1 < eps then ops.lit (2 / 100)
  else eps

def newWithWeights (featureWeights : RouterWeights F) (k : Nat) (tau eps : F) : Router F where
  featureWeights
  k := sanitizeK k
  k_pos := sanitizeK_pos k
  tau := sanitizeTau ops tau
  eps := sanitizeEps ops eps
  orthogonalConstraints := none
  orthogonalEnabled := false
  adaptiveRouting := false
  routingBias := ops.lit 1
  isMoeModel := false

def stableIdAt (adapterInfo : List (AdapterInfo F)) (i : Nat) : Nat :=
  (adapterInfo[i]?).elim 0 (·.stableId)

def sortScoresDeterministic (adapterInfo : List (AdapterInfo F)) (scores : List (Nat × F)) :
    List (Nat × F) :=
  sortBy (fun s => toLex (OrderDual.toDual s.2, stableIdAt adapterInfo s.1)) scores

/-- Score descending, then the seeded tie breaker, then stable id. -/
def sortScoresAdaptive (adapterInfo : List (AdapterInfo F)) (tieBreakers : Nat → Nat)
    (scores : List (Nat × F)) : List (Nat × F) :=
  sortBy (fun s => toLex (OrderDual.toDual s.2,
    toLex (tieBreakers s.1, stableIdAt adapterInfo s.1))) scores

/-- Gate descending, score descending, stable id ascending, index ascending. -/
def sortCandidatesByQuantizedGateCanonical (adapterInfo : List (AdapterInfo F))
    (candidates : List (DecisionCandidate F)) : List (DecisionCandidate F) :=
  sortBy (fun c => toLex (OrderDual.toDual c.gateQ15, toLex (OrderDual.toDual c.rawScore,
    toLex (stableIdAt adapterInfo c.adapterIdx, c.adapterIdx)))) candidates

def emptyDecisionWithMask (policyMask : PolicyMask) : Decision F :=
  ⟨[], [], ops.lit 0, [], some policyMask.digest, some policyMask.overridesApplied⟩

def flooredGates (r : Router F) (scores : List F) : List F :=
  let gates := ops.deterministicSoftmax r.tau scores
  if r.tau = ops.lit 0 then gates
  else gates.map (max · (ops.div r.eps (ops.ofNat (max gates.length 1))))

def candidatesOf (topK : List (Nat × F)) (gates : List F) : List (DecisionCandidate F) :=
  (topK.zip gates).map fun x => ⟨x.1.1 % 2 ^ 16, x.1.2, ops.quantizeGate x.2⟩

def decisionOf (r : Router F) (adapterInfo : List (AdapterInfo F)) (policyMask : PolicyMask)
    (topK : List (Nat × F)) : Decision F :=
  let gates := flooredGates ops r (topK.map Prod.snd)
  let sumGates := ops.sum gates
  if sumGates ≤ ops.lit 0 ∨ gates.isEmpty then emptyDecisionWithMask ops policyMask
  else
    let gates := gates.map (ops.div · sumGates)
    let candidates := sortCandidatesByQuantizedGateCanonical adapterInfo
      (candidatesOf ops topK gates)
    { indices := candidates.map (·.adapterIdx)
      gatesQ15 := candidates.map (·.gateQ15)
      entropy := ops.computeEntropy gates
      candidates
      policyMaskDigestB3 := some policyMask.digest
      policyOverridesApplied := some policyMask.overridesApplied }

/-- A determinism context is given by the tie breakers its seed yields. -/
def routeWithAdapterInfoAndScopeWithCtx (r : Router F) (features priors : List F)
    (adapterInfo : List (AdapterInfo F)) (policyMask : PolicyMask) (scopeHint : Option String)
    (determinism : Option (Nat → Nat)) : Except AosError (Decision F) :=
  match validateRouterInputs ops features priors with
  | .error e => .error e
  | .ok () =>
    let priors := scopedPriors ops priors adapterInfo scopeHint
    if r.adaptiveRouting && determinism.isNone then
      .error (.config ("Adaptive routing configuration error: determinism context is required " ++
        "for seeded tie-breaking when adaptive routing is enabled. Provide a determinism " ++
        "context in the request or disable adaptive routing."))
    else if priors.length ≠ adapterInfo.length then .ok (emptyDecisionWithMask ops policyMask)
    else if policyMask.allowed.length ≠ adapterInfo.length then
      .ok (emptyDecisionWithMask ops policyMask)
    else
      match scoreRows ops r features 0 (priors.zip (adapterInfo.zip policyMask.allowed)) with
      | .error e => .error e
      | .ok scores =>
        if scores.isEmpty then .ok (emptyDecisionWithMask ops policyMask)
        else
          let sorted := match r.adaptiveRouting, determinism with
            | true, some tieBreakers => sortScoresAdaptive adapterInfo tieBreakers scores
            | _, _ => sortScoresDeterministic adapterInfo scores
          .ok (decisionOf ops r adapterInfo policyMask (sorted.take r.k))

end Selection

end AdapterOS.Routing
