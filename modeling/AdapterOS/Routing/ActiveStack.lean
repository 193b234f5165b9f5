import AdapterOS.Library.HashMap
import AdapterOS.Routing.RoutingLaw

/-! Routing by code features with an active stack. The stack takes away the priors of the other
adapters, and the scores decide who is selected. -/
namespace AdapterOS.Routing

open Library

inductive PromptVerb where
  | explain
  | implement
  | fix
  | refactor
  | test
  | document
  | review
  | unknown

/-- What the router reads of the code features. -/
structure CodeFeatures (F : Type*) where
  langOneHot : List F
  frameworkPrior : HashMap String F
  symbolHits : F
  pathTokens : List String
  promptVerb : PromptVerb
  attnEntropy : Option F

/-- The float minimum, which skips NaN and so is not the minimum of `total_cmp`. -/
structure FeatureOps (F : Type*) extends FloatOps F where
  minF : F → F → F

/-- A router with the ids of its active stack, if one is set. -/
structure StackRouter (F : Type*) extends Router F where
  activeStackAdapterIds : Option (List AdapterId)

variable {F : Type*}

def StackRouter.setActiveStack (r : StackRouter F) (adapterIds : Option (List AdapterId)) :
    StackRouter F :=
  { r with activeStackAdapterIds := adapterIds }

section Mask

variable (hash : List UInt8 → B3Hash)

def computePolicyMaskDigest (contextPolicyDigest : Option B3Hash) (adapterIds : List AdapterId)
    (allowedBits : List Bool) : B3Hash :=
  hash (B3Hash.asBytes (contextPolicyDigest.getD 0) ++
    adapterIds.flatMap (fun id => utf8 id ++ [0]) ++
    allowedBits.map fun b => if b then 1 else 0)

def PolicyMask.allowAll (adapterIds : List AdapterId) (contextPolicyDigest : Option B3Hash) :
    PolicyMask :=
  let allowed := List.replicate adapterIds.length true
  ⟨allowed, computePolicyMaskDigest hash contextPolicyDigest adapterIds allowed, {}⟩

end Mask

section Features

def PromptVerb.index : PromptVerb → Nat
  | .explain => 0
  | .implement => 1
  | .fix => 2
  | .refactor => 3
  | .test => 4
  | .document => 5
  | .review => 6
  | .unknown => 7

def promptVerbOneHot (ops : FloatOps F) (verb : PromptVerb) : List F :=
  (List.replicate 8 (ops.lit 0)).set verb.index (ops.lit 1)

variable [LinearOrder F] (ops : FeatureOps F)

def frameworkScores (prior : HashMap String F) : List F :=
  let top := (sortBy OrderDual.toDual (prior.items.map Prod.snd)).take 3
  top ++ List.replicate (3 - top.length) (ops.lit 0)

/-- The flat feature vector. There is none where the assertion on its length fails. -/
def CodeFeatures.toVector (cf : CodeFeatures F) : Option (List F) :=
  let vec := cf.langOneHot ++ frameworkScores ops cf.frameworkPrior ++
    [ops.minF (ops.div cf.symbolHits (ops.lit 10)) (ops.lit 1),
      ops.minF (ops.div (ops.ofNat cf.pathTokens.length) (ops.lit 5)) (ops.lit 1)] ++
    promptVerbOneHot ops.toFloatOps cf.promptVerb ++ [cf.attnEntropy.getD (ops.lit 0)]
  if vec.length = 22 then some vec else none

end Features

section Routing

variable [LinearOrder F] (hash : List UInt8 → B3Hash) (ops : FeatureOps F) (r : StackRouter F)

def filterByStack (info : List (AdapterInfo F)) : List Nat :=
  match r.activeStackAdapterIds with
  | some allowedIds => (info.zipIdx.filter (·.1.id ∈ allowedIds)).map Prod.snd
  | none => List.range info.length

/-- The prior of an adapter in the stack, boosted by its framework and by its language. -/
def memberPrior (cf : CodeFeatures F) (adapter : AdapterInfo F) : F :=
  let prior := match adapter.framework.bind cf.frameworkPrior.get? with
    | some boost => ops.add (ops.lit 1) (ops.mul boost (ops.lit (1 / 2)))
    | none => ops.lit 1
  match detectedLanguage cf.langOneHot with
  | some lang => if lang ∈ adapter.languages then ops.add prior (ops.lit (3 / 10)) else prior
  | none => prior

def codePrior (cf : CodeFeatures F) (allowedIndices : List Nat) (i : Nat)
    (adapter : AdapterInfo F) : F :=
  if i ∉ allowedIndices then ops.lit 0 else memberPrior ops cf adapter

def codePriors (cf : CodeFeatures F) (info : List (AdapterInfo F)) : List F :=
  info.zipIdx.map fun x => codePrior ops cf (filterByStack r info) x.2 x.1

/-- `none` where the feature vector's assertion fails. -/
def routeWithCodeFeatures (cf : CodeFeatures F) (info : List (AdapterInfo F)) :
    Option (Except AosError (Decision F)) :=
  (cf.toVector ops).map fun features =>
    routeWithAdapterInfoAndScopeWithCtx ops.toFloatOps r.toRouter features
      (codePriors ops r cf info) info (.allowAll hash (info.map (·.id)) none) none none

def dryRun (fromContext : String → CodeFeatures F) (previewText : String)
    (info : List (AdapterInfo F)) : Option (Except AosError (Decision F)) :=
  routeWithCodeFeatures hash ops r (fromContext previewText) info

end Routing

section Law

variable [LinearOrder F] {hash : List UInt8 → B3Hash} {ops : FeatureOps F} {r : StackRouter F}
  {cf : CodeFeatures F} {features : List F} {info : List (AdapterInfo F)} {d : Decision F}
  {ids : List AdapterId} {rows : List (Row F)} {a : AdapterInfo F}

def InStack (ids : List AdapterId) (info : List (AdapterInfo F)) (i : Nat) : Prop :=
  ∃ a ∈ info[i]?, a.id ∈ ids

instance (ids : List AdapterId) (info : List (AdapterInfo F)) :
    DecidablePred (InStack ids info) := fun i =>
  inferInstanceAs (Decidable (∃ a ∈ info[i]?, a.id ∈ ids))

/-- What an adapter scores: one outside the stack has prior zero and keeps everything else. -/
def stackScore (ops : FeatureOps F) (r : StackRouter F) (cf : CodeFeatures F) (features : List F)
    (ids : List AdapterId) (i : Nat) (a : AdapterInfo F) : F :=
  combinedScore ops.toFloatOps r.toRouter features i
    (if a.id ∈ ids then memberPrior ops cf a else ops.lit 0) a

def stackScores (ops : FeatureOps F) (r : StackRouter F) (cf : CodeFeatures F)
    (features : List F) (ids : List AdapterId) (info : List (AdapterInfo F)) : List (Nat × F) :=
  info.zipIdx.map fun x => (x.2, stackScore ops r cf features ids x.2 x.1)

def Preferred (info : List (AdapterInfo F)) (s t : Nat × F) : Prop :=
  toLex (toLex (OrderDual.toDual s.2, stableIdAt info s.1), s.1) <
    toLex (toLex (OrderDual.toDual t.2, stableIdAt info t.1), t.1)

instance (info : List (AdapterInfo F)) (s t : Nat × F) : Decidable (Preferred info s t) :=
  inferInstanceAs (Decidable (_ < _))

omit [LinearOrder F] in
theorem mem_filterByStack (hstack : r.activeStackAdapterIds = some ids) {i : Nat}
    (ha : info[i]? = some a) : i ∈ filterByStack r info ↔ a.id ∈ ids := by
  simp only [filterByStack, hstack, List.mem_map, List.mem_filter, decide_eq_true_eq, Prod.exists,
    exists_eq_right, List.mk_mem_zipIdx_iff_getElem?]
  grind

theorem codePrior_eq (hstack : r.activeStackAdapterIds = some ids) {i : Nat}
    (ha : info[i]? = some a) : codePrior ops cf (filterByStack r info) i a =
      if a.id ∈ ids then memberPrior ops cf a else ops.lit 0 := by
  simp only [codePrior, mem_filterByStack hstack ha, ite_not]

theorem adapterScore_eq {ops : FloatOps F} {r : Router F} {i : Nat} {prior s : F}
    (h : adapterScore ops r features i prior a = .ok s) :
    s = combinedScore ops r features i prior a := by
  unfold adapterScore at h
  split at h
  · cases h
  · split at h
    · cases h
    · split at h
      · cases h
      · split at h
        · cases h
        · exact (Except.ok.inj h).symm

theorem scoreRows_eq {ops : FloatOps F} {r : Router F} {n : Nat} {scores : List (Nat × F)}
    (hall : ∀ row ∈ rows, row.2.2 = true) (h : scoreRows ops r features n rows = .ok scores) :
    scores = (rows.zipIdx n).map fun x =>
      (x.2, combinedScore ops r features x.2 x.1.1 x.1.2.1) := by
  induction rows generalizing n scores with
  | nil =>
    cases h
    rfl
  | cons row rows ih =>
    obtain ⟨prior, a, allowed⟩ := row
    obtain ⟨hrow, hrows⟩ := List.forall_mem_cons.mp hall
    cases hrow
    simp only [scoreRows, if_true, bind_eq_ok] at h
    obtain ⟨s, hs, tail, htail, he⟩ := h
    cases he
    rw [adapterScore_eq hs, ih hrows htail]
    rfl

def stackRows (ops : FeatureOps F) (r : StackRouter F) (cf : CodeFeatures F)
    (info : List (AdapterInfo F)) : List (Row F) :=
  info.zipIdx.map fun x => (codePrior ops cf (filterByStack r info) x.2 x.1, x.1, true)

theorem lists_stackRows (hash : List UInt8 → B3Hash) (ops : FeatureOps F) (r : StackRouter F)
    (cf : CodeFeatures F) (info : List (AdapterInfo F)) :
    Lists (stackRows ops r cf info) (codePriors ops r cf info) info
      (.allowAll hash (info.map (·.id)) none) := by
  refine ⟨?_, ?_, ?_⟩
  · rw [stackRows, List.map_map]
    rfl
  all_goals grind [stackRows, List.map_map, List.zipIdx_map_fst, PolicyMask.allowAll,
    List.length_map, Function.comp_def, List.map_const', List.length_zipIdx]

theorem map_stackRows_eq (hstack : r.activeStackAdapterIds = some ids) :
    ((stackRows ops r cf info).zipIdx.map fun x =>
      (x.2, combinedScore ops.toFloatOps r.toRouter features x.2 x.1.1 x.1.2.1)) =
      stackScores ops r cf features ids info := by
  refine List.ext_getElem? ?_
  intro i
  cases ha : info[i]? with
  | none => simp [stackRows, stackScores, List.getElem?_zipIdx, ha]
  | some a =>
    simp [stackRows, stackScores, stackScore, List.getElem?_zipIdx, ha, codePrior_eq hstack ha]

theorem decision_of_route (hstack : r.activeStackAdapterIds = some ids)
    (hfeatures : cf.toVector ops = some features)
    (hroute : routeWithCodeFeatures hash ops r cf info = some (.ok d)) :
    d = decisionOf ops.toFloatOps r.toRouter info (.allowAll hash (info.map (·.id)) none)
      ((sortScoresDeterministic info (stackScores ops r cf features ids info)).take r.k) := by
  have hlists := lists_stackRows hash ops r cf info
  simp only [routeWithCodeFeatures, hfeatures, Option.map_some, Option.some_inj,
    routeWithAdapterInfoAndScopeWithCtx, scopedPriors, hlists.zip_eq] at hroute
  split at hroute
  · cases hroute
  · split at hroute
    · cases hroute
    · rename_i hmode
      have hdet : r.adaptiveRouting = false := by simpa using hmode
      split at hroute
      · rename_i hlen
        exact absurd (by simp [codePriors]) hlen
      · split at hroute
        · rename_i hlen
          exact absurd (by simp [PolicyMask.allowAll]) hlen
        · split at hroute
          · cases hroute
          · rename_i scores hscores
            have hall : ∀ row ∈ stackRows ops r cf info, row.2.2 = true := by
              intro row hrow
              obtain ⟨x, _, rfl⟩ := List.mem_map.mp hrow
              rfl
            rw [scoreRows_eq hall hscores, map_stackRows_eq hstack] at hroute
            split at hroute
            · rename_i hempty
              rw [List.isEmpty_iff.mp hempty]
              simp only [sortScoresDeterministic, sortBy, List.insertionSort_nil, List.take_nil,
                decisionOf_nil]
              exact (Except.ok.inj hroute).symm
            · simp only [hdet] at hroute
              exact (Except.ok.inj hroute).symm

theorem mem_indices_iff (hstack : r.activeStackAdapterIds = some ids)
    (hsmall : info.length ≤ 2 ^ 16) (hfeatures : cf.toVector ops = some features)
    (hroute : routeWithCodeFeatures hash ops r cf info = some (.ok d)) (hsome : d.indices ≠ [])
    (i : Nat) : i ∈ d.indices ↔ ∃ s ∈ (sortScoresDeterministic info
      (stackScores ops r cf features ids info)).take r.k, s.1 = i := by
  have hd := decision_of_route hstack hfeatures hroute
  have hpos : ops.lit 0 < ops.sum (flooredGates ops.toFloatOps r.toRouter
      (((sortScoresDeterministic info (stackScores ops r cf features ids info)).take r.k).map
        Prod.snd)) := by
    by_contra hle
    exact hsome (hd ▸ indices_eq_nil (not_lt.mp hle))
  have hindex : ∀ s ∈ (sortScoresDeterministic info
      (stackScores ops r cf features ids info)).take r.k, s.1 % 2 ^ 16 = s.1 := by
    intro s hs
    obtain ⟨x, hx, rfl⟩ := List.mem_map.mp (mem_sortBy.mp (List.mem_of_mem_take hs))
    have hlt := List.snd_lt_of_mem_zipIdx hx
    exact Nat.mod_eq_of_lt (by omega)
  grind [indices_perm]

theorem pairwise_stackScores :
    (stackScores ops r cf features ids info).Pairwise fun s t => s.1 < t.1 := by
  rw [stackScores, List.pairwise_map]
  have h : (info.zipIdx.map Prod.snd).Pairwise (· < ·) := by
    rw [List.zipIdx_map_snd]
    exact List.pairwise_lt_range'
  exact List.pairwise_map.mp h

theorem stackScores_inj {s t : Nat × F} (hs : s ∈ stackScores ops r cf features ids info)
    (ht : t ∈ stackScores ops r cf features ids info) (he : s.1 = t.1) : s = t := by
  obtain ⟨⟨a, i⟩, ha, rfl⟩ := List.mem_map.mp hs
  obtain ⟨⟨b, j⟩, hb, rfl⟩ := List.mem_map.mp ht
  cases he
  rw [List.mk_mem_zipIdx_iff_getElem?] at ha hb
  cases ha.symm.trans hb
  rfl

/-- Only members of the active stack are selected just when each adapter outside it has `k`
members that are preferred to it. -/
theorem selected_inStack_iff (hstack : r.activeStackAdapterIds = some ids)
    (hsmall : info.length ≤ 2 ^ 16) (hfeatures : cf.toVector ops = some features)
    (hroute : routeWithCodeFeatures hash ops r cf info = some (.ok d))
    (hsome : d.indices ≠ []) :
    (∀ i ∈ d.indices, InStack ids info i) ↔
      ∀ s ∈ stackScores ops r cf features ids info, ¬ InStack ids info s.1 →
        r.k ≤ (stackScores ops r cf features ids info).countP fun t =>
          InStack ids info t.1 ∧ Preferred info t s := by
  have hkey : sortScoresDeterministic info (stackScores ops r cf features ids info) =
      sortBy (fun s => toLex (toLex (OrderDual.toDual s.2, stableIdAt info s.1), s.1)) _ :=
    (sortBy_lex_eq pairwise_stackScores).symm
  have hinj : ∀ s ∈ stackScores ops r cf features ids info,
      ∀ t ∈ stackScores ops r cf features ids info,
      toLex (toLex (OrderDual.toDual s.2, stableIdAt info s.1), s.1) =
        toLex (toLex (OrderDual.toDual t.2, stableIdAt info t.1), t.1) → s = t := by
    intro s hs t ht he
    exact stackScores_inj hs ht (Prod.mk.inj (toLex_inj.mp he)).2
  have hselected : (∀ i ∈ d.indices, InStack ids info i) ↔
      ∀ s ∈ (sortScoresDeterministic info (stackScores ops r cf features ids info)).take r.k,
        InStack ids info s.1 := by grind [mem_indices_iff]
  rw [hselected, hkey]
  exact forall_mem_take_iff hinj

end Law

section Runs

def featureOps : FeatureOps ℚ := { rationalOps with minF := min }

def defaultWeights : RouterWeights ℚ :=
  ⟨27272728 / 100000000, 22727273 / 100000000, 18181819 / 100000000, 13636364 / 100000000,
    9090909 / 100000000, 4545455 / 100000000⟩

def stackRouter (k : Nat) : StackRouter ℚ :=
  { newWithWeights rationalOps defaultWeights k 1 (2 / 100) with
    activeStackAdapterIds := some ["member"] }

def rustFeatures : CodeFeatures ℚ :=
  ⟨[0, 1, 0, 0, 0, 0, 0, 0], AList.singleton "axum" 1, 0, [], .unknown, none⟩

def twoAdapters : List (AdapterInfo ℚ) :=
  [plainAdapter "member" 1 none, plainAdapter "other" 2 none]

def skilledAdapters : List (AdapterInfo ℚ) :=
  [plainAdapter "member" 1 none, ⟨"other", 2, some "axum", [1], "tier_0", none, none, 1, false⟩]

def selectedIndices (k : Nat) (info : List (AdapterInfo ℚ)) : Option (List Nat) :=
  ((routeWithCodeFeatures digitHash featureOps (stackRouter k) rustFeatures info).bind
    Except.toOption).map (·.indices)

theorem twoAdapters_member_selected :
    ∃ d, routeWithCodeFeatures digitHash featureOps (stackRouter 1) rustFeatures twoAdapters =
      some (.ok d) ∧ d.indices = [0] ∧ ∀ i ∈ d.indices, InStack ["member"] twoAdapters i := by
  have hrun : selectedIndices 1 twoAdapters = some [0] := by decide +kernel
  obtain ⟨d, hd, hindices⟩ := Option.map_eq_some_iff.mp hrun
  obtain ⟨result, hresult, hok⟩ := Option.bind_eq_some_iff.mp hd
  cases result with
  | error e => cases hok
  | ok d' =>
    cases hok
    refine ⟨d, hresult, hindices, ?_⟩
    have hvector : rustFeatures.toVector featureOps =
        some [0, 1, 0, 0, 0, 0, 0, 0, 1, 0, 0, 0, 0, 0, 0, 0, 0, 0, 0, 0, 1, 0] := by
      decide +kernel
    refine (selected_inStack_iff rfl (by decide) hvector hresult (by simp [hindices])).mpr ?_
    decide +kernel

/-- An adapter outside the stack is selected when the stack has fewer than `k` members, and when
its features outweigh the prior of a member. -/
theorem others_selected :
    selectedIndices 2 twoAdapters = some [0, 1] ∧ selectedIndices 1 skilledAdapters = some [1] ∧
      ¬ InStack ["member"] twoAdapters 1 ∧ ¬ InStack ["member"] skilledAdapters 1 := by
  refine ⟨by decide +kernel, by decide +kernel, by decide, by decide⟩

end Runs

end AdapterOS.Routing
