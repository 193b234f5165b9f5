import AdapterOS.Routing.Route
import Mathlib.Data.List.InsertIdx

/-! Which adapters the router selects: the best allowed ones, whatever order they are listed in. -/
namespace AdapterOS.Routing

open Library

variable {F : Type*} {ops : FloatOps F} {r : Router F} {features priors : List F}
  {info info' : List (AdapterInfo F)} {mask mask' : PolicyMask} {hint : Option String}
  {rows : List (Row F)} {row : Row F}

section Inputs

theorem checkNumericsFrom_ok_iff (ops : FloatOps F) (n : Nat) (values : List F) :
    checkNumericsFrom ops n values = .ok () ↔ ∀ v ∈ values, ops.isFinite v := by
  induction values generalizing n with
  | nil => simp [checkNumericsFrom]
  | cons v values ih =>
    by_cases hv : ops.isFinite v
    · simp [checkNumericsFrom, hv, ih]
    · simp [checkNumericsFrom, hv]

theorem validateRouterInputs_ok_iff : validateRouterInputs ops features priors = .ok () ↔
    (∀ v ∈ features, ops.isFinite v) ∧ ∀ v ∈ priors, ops.isFinite v := by
  grind [checkNumericsFrom_ok_iff, validateRouterInputs, checkNumerics]

/-- The three inputs of a call list the same adapters, row by row. -/
structure Lists (rows : List (Row F)) (priors : List F) (info : List (AdapterInfo F))
    (mask : PolicyMask) : Prop where
  priors_eq : priors = rows.map (·.1)
  info_eq : info = rows.map (·.2.1)
  allowed_eq : mask.allowed = rows.map (·.2.2)

theorem lists_zip (hp : priors.length = info.length) (hm : mask.allowed.length = info.length) :
    Lists (priors.zip (info.zip mask.allowed)) priors info mask := by
  have hz : (priors.zip (info.zip mask.allowed)).map Prod.snd = info.zip mask.allowed :=
    List.map_snd_zip (by simp [hp, hm])
  refine ⟨(List.map_fst_zip (by simp [hp, hm])).symm, ?_, ?_⟩
  · have h := congrArg (List.map Prod.fst) hz
    rw [List.map_map, List.map_fst_zip (Nat.le_of_eq hm.symm)] at h
    exact h.symm
  · have h := congrArg (List.map Prod.snd) hz
    rw [List.map_map, List.map_snd_zip (Nat.le_of_eq hm)] at h
    exact h.symm

theorem Lists.zip_eq (h : Lists rows priors info mask) :
    priors.zip (info.zip mask.allowed) = rows := by
  rw [h.priors_eq, h.info_eq, h.allowed_eq, List.zip_map', List.zip_map']
  exact List.map_id' rows

theorem Lists.eraseIdx (h : Lists rows priors info mask) (j : Nat)
    (hm : mask'.allowed = mask.allowed.eraseIdx j) :
    Lists (rows.eraseIdx j) (priors.eraseIdx j) (info.eraseIdx j) mask' := by
  refine ⟨?_, ?_, ?_⟩
  · rw [h.priors_eq, List.eraseIdx_map]
  · rw [h.info_eq, List.eraseIdx_map]
  · rw [hm, h.allowed_eq, List.eraseIdx_map]

def InScope (scope : String) (row : Row F) : Bool := row.2.1.scopePath = some scope

def scopeRow (ops : FloatOps F) (scope : String) (row : Row F) : Row F :=
  (if InScope scope row then row.1 else ops.lit (-1000000000), row.2)

def scopedRows (ops : FloatOps F) (rows : List (Row F)) : Option String → List (Row F)
  | none => rows
  | some scope => if rows.any (InScope scope) then rows.map (scopeRow ops scope) else rows

theorem Lists.scoped (h : Lists rows priors info mask) (ops : FloatOps F) (hint : Option String) :
    Lists (scopedRows ops rows hint) (scopedPriors ops priors info hint) info mask := by
  cases hint with
  | none => exact h
  | some scope =>
    have hz : priors.zip info = rows.map fun row => (row.1, row.2.1) := by
      rw [h.priors_eq, h.info_eq, List.zip_map']
    have hlen : priors.length ≤ info.length := by rw [h.priors_eq, h.info_eq]; simp
    have hany : ((priors.zip info).any fun x => decide (x.2.scopePath = some scope)) =
        rows.any (InScope scope) := by
      rw [hz, List.any_map]
      rfl
    simp only [scopedPriors, scopedRows, hany]
    split
    · refine ⟨?_, ?_, ?_⟩
      · grind [List.drop_eq_nil_of_le, List.map_congr_left, scopeRow, InScope]
      · rw [h.info_eq, List.map_map]
        rfl
      · rw [h.allowed_eq, List.map_map]
        rfl
    · exact h

theorem Lists.getElem? (h : Lists rows priors info mask) {i : Nat} {row : Row F}
    (hr : rows[i]? = some row) :
    priors[i]? = some row.1 ∧ info[i]? = some row.2.1 ∧ mask.allowed[i]? = some row.2.2 := by
  rw [h.priors_eq, h.info_eq, h.allowed_eq]
  simp [hr]

theorem Lists.row_of_allowed (h : Lists rows priors info mask) {j : Nat} {b : Bool}
    (hj : mask.allowed[j]? = some b) : ∃ row, rows[j]? = some row ∧ row.2.2 = b := by
  rw [h.allowed_eq, List.getElem?_map] at hj
  exact Option.map_eq_some_iff.mp hj

theorem stableId_inj (hids : (info.map (·.stableId)).Nodup) {i j : Nat} {a b : AdapterInfo F}
    (hi : info[i]? = some a) (hj : info[j]? = some b) (he : a.stableId = b.stableId) : i = j := by
  have hlt : i < (info.map (·.stableId)).length := by
    rw [List.length_map]
    exact (List.getElem?_eq_some_iff.mp hi).1
  refine (List.getElem?_inj hlt hids).mp ?_
  rw [List.getElem?_map, List.getElem?_map, hi, hj]
  exact congrArg some he

end Inputs

section Scores

theorem map_filter_zipIdx {β : Type*} (f : Row F → β) (rows : List (Row F)) (n : Nat) :
    ((rows.zipIdx n).filter (·.1.2.2)).map (fun x => f x.1) = (rows.filter (·.2.2)).map f := by
  conv_rhs => rw [← List.zipIdx_map_fst n rows]
  rw [List.filter_map, List.map_map]
  rfl

variable [LinearOrder F]

def rowScore (ops : FloatOps F) (r : Router F) (features : List F) (row : Row F) : F :=
  combinedScore ops { r with orthogonalEnabled := false } features 0 row.1 row.2.1

/-- No value that scoring the row goes through is NaN or infinite. -/
def Scorable (ops : FloatOps F) (r : Router F) (features : List F) (row : Row F) : Prop :=
  ops.isFinite row.1 ∧
    ops.isFinite (computeAdapterFeatureScore ops r.featureWeights features row.2.1) ∧
    ops.isFinite (ops.lit 0) ∧ ops.isFinite (rowScore ops r features row)

def rowScores (ops : FloatOps F) (r : Router F) (features : List F) (n : Nat)
    (rows : List (Row F)) : List (Nat × F) :=
  ((rows.zipIdx n).filter (·.1.2.2)).map fun x => (x.2, rowScore ops r features x.1)

theorem combinedScore_eq (hoff : r.orthogonalEnabled = false) (i : Nat) :
    combinedScore ops r features i row.1 row.2.1 = rowScore ops r features row := by
  simp [combinedScore, rowScore, computeAdapterOrthogonalPenalty, hoff]

theorem adapterScore_ok_iff (hoff : r.orthogonalEnabled = false) (i : Nat) (row : Row F) {s : F} :
    adapterScore ops r features i row.1 row.2.1 = .ok s ↔
      Scorable ops r features row ∧ s = rowScore ops r features row := by
  grind [computeAdapterOrthogonalPenalty, adapterScore, Scorable, combinedScore_eq]

theorem scoreRows_ok_iff (hoff : r.orthogonalEnabled = false) {n : Nat} {scores : List (Nat × F)} :
    scoreRows ops r features n rows = .ok scores ↔
      (∀ row ∈ rows, row.2.2 → Scorable ops r features row) ∧
        scores = rowScores ops r features n rows := by
  induction rows generalizing n scores with
  | nil => grind [scoreRows, rowScores]
  | cons row rows ih =>
    obtain ⟨prior, adapter, allowed⟩ := row
    cases allowed with
    | false => simpa [scoreRows, rowScores] using @ih (n + 1) scores
    | true =>
      have hrow : ∀ {s}, adapterScore ops r features n prior adapter = .ok s ↔ _ :=
        adapterScore_ok_iff hoff n (prior, adapter, true)
      simp only [scoreRows, if_true, List.forall_mem_cons, forall_const, bind_eq_ok, hrow, ih]
      constructor
      · rintro ⟨s, ⟨hok, rfl⟩, tail, ⟨hall, rfl⟩, h⟩
        exact ⟨⟨hok, hall⟩, (Except.ok.inj h).symm⟩
      · rintro ⟨⟨hok, hall⟩, rfl⟩
        exact ⟨_, ⟨hok, rfl⟩, _, ⟨hall, rfl⟩, rfl⟩

theorem mem_rowScores {i : Nat} {s : F} : (i, s) ∈ rowScores ops r features 0 rows ↔
    ∃ row, rows[i]? = some row ∧ row.2.2 = true ∧ s = rowScore ops r features row := by
  constructor
  · intro h
    obtain ⟨⟨row, j⟩, hx, he⟩ := List.mem_map.mp h
    grind
  · rintro ⟨row, hr, ha, rfl⟩
    have hz := List.mk_mem_zipIdx_iff_getElem?.mpr hr
    exact List.mem_map.mpr ⟨(row, i), List.mem_filter.mpr ⟨hz, ha⟩, rfl⟩

theorem length_rowScores :
    (rowScores ops r features 0 rows).length = (rows.map (·.2.2)).count true := by
  have h := congrArg List.length (map_filter_zipIdx id rows 0)
  rw [List.length_map, List.map_id] at h
  rw [rowScores, List.length_map, h, List.count, List.countP_map, List.countP_eq_length_filter]
  congr 2
  funext row
  simp

theorem nodup_rowScores : ((rowScores ops r features 0 rows).map Prod.fst).Nodup := by
  have hsub : ((rowScores ops r features 0 rows).map Prod.fst).Sublist
      (rows.zipIdx.map Prod.snd) := by
    rw [rowScores, List.map_map]
    exact List.filter_sublist.map _
  refine hsub.nodup ?_
  rw [List.zipIdx_map_snd]
  exact List.nodup_range'

end Scores

section Views

def scoreView (info : List (AdapterInfo F)) (s : Nat × F) : Option (AdapterInfo F) × F :=
  (info[s.1]?, s.2)

def candidateView (info : List (AdapterInfo F)) (c : DecisionCandidate F) :
    (Option (AdapterInfo F) × F) × Int :=
  ((info[c.adapterIdx]?, c.rawScore), c.gateQ15)

def stableIdOf (a : Option (AdapterInfo F)) : Nat := a.elim 0 (·.stableId)

def scoreRank (v : Option (AdapterInfo F) × F) : Lex (Fᵒᵈ × Nat) :=
  toLex (OrderDual.toDual v.2, stableIdOf v.1)

def candidateRank (v : (Option (AdapterInfo F) × F) × Int) : Lex (Intᵒᵈ × Lex (Fᵒᵈ × Nat)) :=
  toLex (OrderDual.toDual v.2, scoreRank v.1)

def Distinguished (views : List (Option (AdapterInfo F) × F)) : Prop :=
  ∀ x ∈ views, ∀ y ∈ views, scoreRank x = scoreRank y → x = y

theorem distinguished_rows (hids : (info.map (·.stableId)).Nodup)
    {f : Row F → F} (hrows : ∀ row ∈ rows, row.2.1 ∈ info) :
    Distinguished (rows.map fun row => (some row.2.1, f row)) := by
  intro x hx y hy he
  obtain ⟨a, ha, rfl⟩ := List.mem_map.mp hx
  obtain ⟨b, hb, rfl⟩ := List.mem_map.mp hy
  simp only [scoreRank, stableIdOf, Option.elim_some, toLex_inj, Prod.mk.injEq,
    OrderDual.toDual_inj] at he
  have hinfo := List.inj_on_of_nodup_map hids (hrows a ha) (hrows b hb) he.2
  rw [he.1, hinfo]

variable {gates : List F}

theorem map_candidateView_candidatesOf {topK : List (Nat × F)} (hsmall : ∀ s ∈ topK, s.1 < 2 ^ 16) :
    (candidatesOf ops topK gates).map (candidateView info) =
      ((topK.map (scoreView info)).zip gates).map fun x => (x.1, ops.quantizeGate x.2) := by
  rw [candidatesOf, List.map_map, List.zip_map_left, List.map_map]
  refine List.map_congr_left ?_
  rintro ⟨s, g⟩ hx
  have hs := hsmall s (List.of_mem_zip hx).1
  simp only [candidateView, scoreView, Function.comp_apply, Prod.map_apply, id_eq,
    Nat.mod_eq_of_lt hs]

theorem mem_fst_of_mem_candidates {views : List (Option (AdapterInfo F) × F)}
    {x : (Option (AdapterInfo F) × F) × Int}
    (h : x ∈ (views.zip gates).map fun y => (y.1, ops.quantizeGate y.2)) : x.1 ∈ views := by
  obtain ⟨y, hy, rfl⟩ := List.mem_map.mp h
  exact (List.of_mem_zip hy).1

theorem map_adapterIdx_candidatesOf {topK : List (Nat × F)} (hlen : gates.length = topK.length) :
    (candidatesOf ops topK gates).map (·.adapterIdx) = topK.map (·.1 % 2 ^ 16) := by
  rw [candidatesOf, List.map_map]
  conv_rhs => rw [← List.map_fst_zip (Nat.le_of_eq hlen.symm)]
  rw [List.map_map]
  rfl

variable [LinearOrder F]

theorem map_scoreView_rowScores :
    (rowScores ops r features 0 rows).map (scoreView (rows.map (·.2.1))) =
      (rows.filter (·.2.2)).map fun row => (some row.2.1, rowScore ops r features row) := by
  rw [← map_filter_zipIdx _ rows 0, rowScores, List.map_map]
  refine List.map_congr_left ?_
  rintro ⟨row, i⟩ hx
  have hr := List.mk_mem_zipIdx_iff_getElem?.mp (List.mem_filter.mp hx).1
  simp [scoreView, hr]

theorem map_take_sort_eq {scores scores' : List (Nat × F)} (k : Nat)
    (hd : Distinguished (scores.map (scoreView info)))
    (hperm : (scores.map (scoreView info)).Perm (scores'.map (scoreView info'))) :
    ((sortScoresDeterministic info scores).take k).map (scoreView info) =
      ((sortScoresDeterministic info' scores').take k).map (scoreView info') := by
  have hsorted : (sortScoresDeterministic info scores).map (scoreView info) =
      (sortScoresDeterministic info' scores').map (scoreView info') :=
    map_sortBy_eq scoreRank (fun _ _ h => h) (fun _ _ h => h) hd hperm
  rw [List.map_take, List.map_take, hsorted]

def selection (info : List (AdapterInfo F)) (d : Decision F) : List (Option AdapterId) × List Int :=
  (d.indices.map fun i => (info[i]?).map (·.id), d.gatesQ15)

theorem key_candidate_le {c d : DecisionCandidate F}
    (h : toLex (OrderDual.toDual c.gateQ15, toLex (OrderDual.toDual c.rawScore,
        toLex (stableIdAt info c.adapterIdx, c.adapterIdx))) ≤
      toLex (OrderDual.toDual d.gateQ15, toLex (OrderDual.toDual d.rawScore,
        toLex (stableIdAt info d.adapterIdx, d.adapterIdx)))) :
    candidateRank (candidateView info c) ≤ candidateRank (candidateView info d) := by
  simp only [candidateRank, scoreRank, candidateView, Prod.Lex.toLex_le_toLex] at h ⊢
  rcases h with h | ⟨hg, h | ⟨hs, h | ⟨hi, _⟩⟩⟩
  · exact .inl h
  · exact .inr ⟨hg, .inl h⟩
  · exact .inr ⟨hg, .inr ⟨hs, le_of_lt h⟩⟩
  · exact .inr ⟨hg, .inr ⟨hs, le_of_eq hi⟩⟩

theorem selection_decisionOf_eq {topK topK' : List (Nat × F)}
    (hsmall : ∀ s ∈ topK, s.1 < 2 ^ 16) (hsmall' : ∀ s ∈ topK', s.1 < 2 ^ 16)
    (hd : Distinguished (topK.map (scoreView info)))
    (hview : topK.map (scoreView info) = topK'.map (scoreView info')) :
    selection info (decisionOf ops r info mask topK) =
      selection info' (decisionOf ops r info' mask' topK') := by
  have hscores : topK.map Prod.snd = topK'.map Prod.snd := by
    have h := congrArg (List.map Prod.snd) hview
    rwa [List.map_map, List.map_map] at h
  unfold decisionOf
  rw [hscores]
  dsimp only
  split
  · rfl
  · set gates := (flooredGates ops r (topK'.map Prod.snd)).map
      (ops.div · (ops.sum (flooredGates ops r (topK'.map Prod.snd))))
    have hviews : (candidatesOf ops topK gates).map (candidateView info) =
        (candidatesOf ops topK' gates).map (candidateView info') := by
      rw [map_candidateView_candidatesOf hsmall, map_candidateView_candidatesOf hsmall', hview]
    have hinj : ∀ x ∈ (candidatesOf ops topK gates).map (candidateView info),
        ∀ y ∈ (candidatesOf ops topK gates).map (candidateView info),
          candidateRank x = candidateRank y → x = y := by
      intro x hx y hy he
      rw [map_candidateView_candidatesOf hsmall] at hx hy
      simp only [candidateRank, toLex_inj, Prod.mk.injEq, OrderDual.toDual_inj] at he
      have hfst := hd x.1 (mem_fst_of_mem_candidates hx) y.1 (mem_fst_of_mem_candidates hy) he.2
      exact Prod.ext hfst he.1
    have hsorted : (sortCandidatesByQuantizedGateCanonical info
          (candidatesOf ops topK gates)).map (candidateView info) =
        (sortCandidatesByQuantizedGateCanonical info'
          (candidatesOf ops topK' gates)).map (candidateView info') :=
      map_sortBy_eq candidateRank (fun _ _ => key_candidate_le) (fun _ _ => key_candidate_le)
        hinj (List.Perm.of_eq hviews)
    have hids := congrArg (List.map fun x => x.1.1.map (·.id)) hsorted
    have hgates := congrArg (List.map Prod.snd) hsorted
    simp only [List.map_map] at hids hgates
    simp only [selection, List.map_map]
    exact Prod.ext hids hgates

end Views

section Outcome

variable [LinearOrder F] {determinism : Option (Nat → Nat)} {d : Decision F}

def bestScores (ops : FloatOps F) (r : Router F) (features : List F)
    (info : List (AdapterInfo F)) (rows : List (Row F)) : List (Nat × F) :=
  (sortScoresDeterministic info (rowScores ops r features 0 rows)).take r.k

theorem decisionOf_nil :
    decisionOf ops r info mask ([] : List (Nat × F)) = emptyDecisionWithMask ops mask := by
  have hgates : flooredGates ops r ([] : List F) = [] := by
    have hsoft : ops.deterministicSoftmax r.tau [] = [] :=
      List.length_eq_zero_iff.mp (ops.softmax_length r.tau [])
    simp [flooredGates, hsoft]
  simp [decisionOf, hgates]

theorem route_ok_iff (hdet : r.adaptiveRouting = false) (hoff : r.orthogonalEnabled = false)
    (h : Lists rows priors info mask) :
    routeWithAdapterInfoAndScopeWithCtx ops r features priors info mask hint determinism = .ok d ↔
      ((∀ v ∈ features, ops.isFinite v) ∧ ∀ v ∈ priors, ops.isFinite v) ∧
        (∀ row ∈ scopedRows ops rows hint, row.2.2 → Scorable ops r features row) ∧
        d = decisionOf ops r info mask
          (bestScores ops r features info (scopedRows ops rows hint)) := by
  have hs := h.scoped ops hint
  have hpriors : (scopedPriors ops priors info hint).length = info.length := by
    rw [hs.priors_eq, hs.info_eq, List.length_map, List.length_map]
  have hmask : mask.allowed.length = info.length := by
    rw [hs.allowed_eq, hs.info_eq, List.length_map, List.length_map]
  rw [← validateRouterInputs_ok_iff]
  unfold routeWithAdapterInfoAndScopeWithCtx
  cases validateRouterInputs ops features priors with
  | error e => simp
  | ok u =>
    simp only [hdet, Bool.false_and, Bool.false_eq_true, if_false, hpriors, hmask, ne_eq,
      not_true_eq_false, hs.zip_eq, true_and]
    cases hscore : scoreRows ops r features 0 (scopedRows ops rows hint) with
    | error e =>
      have hn : ¬ ∀ row ∈ scopedRows ops rows hint, row.2.2 → Scorable ops r features row := by
        intro hall
        have hok : scoreRows ops r features 0 (scopedRows ops rows hint) = .ok _ :=
          (scoreRows_ok_iff hoff).mpr ⟨hall, rfl⟩
        rw [hscore] at hok
        cases hok
      simp only [reduceCtorEq, false_iff]
      exact fun hok => hn hok.1
    | ok scores =>
      obtain ⟨hall, rfl⟩ := (scoreRows_ok_iff hoff).mp hscore
      have hbest : bestScores ops r features info (scopedRows ops rows hint) =
          (sortScoresDeterministic info
            (rowScores ops r features 0 (scopedRows ops rows hint))).take r.k := rfl
      grind [sortScoresDeterministic, sortBy, decisionOf_nil]

end Outcome

end AdapterOS.Routing
