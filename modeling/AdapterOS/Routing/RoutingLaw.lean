import AdapterOS.Routing.SelectionLaw

/-! The selection law of the router in deterministic mode. -/
namespace AdapterOS.Routing

open Library

variable {F : Type*} [LinearOrder F] {ops : FloatOps F} {r : Router F} {features priors : List F}
  {info info' : List (AdapterInfo F)} {mask mask' : PolicyMask} {hint : Option String}
  {rows rows' : List (Row F)} {determinism : Option (Nat → Nat)} {d : Decision F}

section Laws

def Precedes (s : F) (a : AdapterInfo F) (t : F) (b : AdapterInfo F) : Prop :=
  t < s ∨ s = t ∧ a.stableId < b.stableId

/-- What a decision owes to the mask, to `k` and to the scores. -/
structure SelectionLaw (ops : FloatOps F) (r : Router F) (features priors : List F)
    (info : List (AdapterInfo F)) (mask : PolicyMask) (hint : Option String)
    (d : Decision F) : Prop where
  allowed : ∀ i ∈ d.indices, mask.allowed[i]? = some true
  distinct : d.indices.Nodup
  count : ∀ scores, scoreRows ops r features 0
      ((scopedPriors ops priors info hint).zip (info.zip mask.allowed)) = .ok scores →
    ops.lit 0 < ops.sum (flooredGates ops r
      (((sortScoresDeterministic info scores).take r.k).map Prod.snd)) →
    d.indices.length = min r.k (mask.allowed.count true)
  first : ∀ i ∈ d.indices, ∀ j, mask.allowed[j]? = some true → j ∉ d.indices → ∀ p a q b,
    (scopedPriors ops priors info hint)[i]? = some p → info[i]? = some a →
    (scopedPriors ops priors info hint)[j]? = some q → info[j]? = some b →
    Precedes (combinedScore ops r features i p a) a (combinedScore ops r features j q b) b

/-- A decision of the one call is a decision of the other, with the same ids, order and gates. -/
def SameSelection (info : List (AdapterInfo F)) (result : Except AosError (Decision F))
    (info' : List (AdapterInfo F)) (result' : Except AosError (Decision F)) : Prop :=
  ∀ d, result = .ok d → ∃ d', result' = .ok d' ∧ selection info' d' = selection info d

omit [LinearOrder F] in
theorem SameSelection.toOption_eq {result result' : Except AosError (Decision F)}
    {x : List (Option AdapterId) × List Int} (h : SameSelection info result info' result')
    (hx : result.toOption.map (selection info) = some x) :
    result'.toOption.map (selection info') = some x := by
  cases result with
  | error e => cases hx
  | ok d =>
    obtain ⟨d', hd', hsame⟩ := h d rfl
    rw [hd', ← hx]
    exact congrArg some hsame

/-- Selection, and its independence of the order and of masked-out adapters. -/
structure RoutingLaw (ops : FloatOps F) (r : Router F) (features priors : List F)
    (info : List (AdapterInfo F)) (mask : PolicyMask) (hint : Option String)
    (determinism : Option (Nat → Nat)) : Prop where
  selected : ∀ d, routeWithAdapterInfoAndScopeWithCtx ops r features priors info mask hint
      determinism = .ok d →
    SelectionLaw ops r features priors info mask hint d
  permuted : ∀ priors' info' mask', priors'.length = info'.length →
    mask'.allowed.length = info'.length →
    (priors.zip (info.zip mask.allowed)).Perm (priors'.zip (info'.zip mask'.allowed)) →
    SameSelection info
      (routeWithAdapterInfoAndScopeWithCtx ops r features priors info mask hint determinism) info'
      (routeWithAdapterInfoAndScopeWithCtx ops r features priors' info' mask' hint determinism)
  deleted : ∀ j mask', mask.allowed[j]? = some false →
    mask'.allowed = mask.allowed.eraseIdx j →
    SameSelection info
      (routeWithAdapterInfoAndScopeWithCtx ops r features priors info mask hint determinism)
      (info.eraseIdx j)
      (routeWithAdapterInfoAndScopeWithCtx ops r features (priors.eraseIdx j) (info.eraseIdx j)
        mask' hint determinism)

end Laws

section Selected

theorem length_flooredGates (scores : List F) :
    (flooredGates ops r scores).length = scores.length := by
  simp only [flooredGates]
  split <;> simp [ops.softmax_length]

theorem indices_perm {topK : List (Nat × F)}
    (hpos : ops.lit 0 < ops.sum (flooredGates ops r (topK.map Prod.snd))) :
    (decisionOf ops r info mask topK).indices.Perm (topK.map (·.1 % 2 ^ 16)) := by
  have hne : flooredGates ops r (topK.map Prod.snd) ≠ [] := by
    intro hnil
    rw [hnil] at hpos
    exact lt_irrefl _ hpos
  have hlen : ((flooredGates ops r (topK.map Prod.snd)).map
      (ops.div · (ops.sum (flooredGates ops r (topK.map Prod.snd))))).length = topK.length := by
    rw [List.length_map, length_flooredGates, List.length_map]
  simp only [decisionOf, not_le.mpr hpos, List.isEmpty_iff, hne, or_self, if_false]
  rw [← map_adapterIdx_candidatesOf hlen]
  exact (sortBy_perm _ _).map _

theorem indices_eq_nil {topK : List (Nat × F)}
    (hle : ops.sum (flooredGates ops r (topK.map Prod.snd)) ≤ ops.lit 0) :
    (decisionOf ops r info mask topK).indices = [] := by
  simp [decisionOf, hle, emptyDecisionWithMask]

theorem mem_bestScores {s : Nat × F} (h : s ∈ bestScores ops r features info rows) :
    s ∈ rowScores ops r features 0 rows :=
  mem_sortBy.mp (List.mem_of_mem_take h)

theorem lt_of_mem_bestScores {s : Nat × F} (h : s ∈ bestScores ops r features info rows) :
    s.1 < rows.length := by
  obtain ⟨row, hr, _⟩ := mem_rowScores.mp (mem_bestScores h)
  exact (List.getElem?_eq_some_iff.mp hr).1

theorem nodup_bestScores : ((bestScores ops r features info rows).map Prod.fst).Nodup := by
  refine ((List.take_sublist _ _).map _).nodup ?_
  exact ((sortBy_perm _ _).map _).nodup_iff.mpr nodup_rowScores

theorem length_bestScores :
    (bestScores ops r features info rows).length = min r.k ((rows.map (·.2.2)).count true) := by
  rw [bestScores, List.length_take, sortScoresDeterministic, length_sortBy, length_rowScores]

theorem indices_cases (ops : FloatOps F) (r : Router F) (features : List F)
    (info : List (AdapterInfo F)) (mask : PolicyMask) (hsize : rows.length ≤ 2 ^ 16) :
    (decisionOf ops r info mask (bestScores ops r features info rows)).indices = [] ∨
      (decisionOf ops r info mask (bestScores ops r features info rows)).indices.Perm
        ((bestScores ops r features info rows).map Prod.fst) := by
  have hmod : (bestScores ops r features info rows).map (·.1 % 2 ^ 16) =
      (bestScores ops r features info rows).map Prod.fst := by
    refine List.map_congr_left ?_
    intro s hs
    exact Nat.mod_eq_of_lt (Nat.lt_of_lt_of_le (lt_of_mem_bestScores hs) hsize)
  rcases le_or_gt (ops.sum (flooredGates ops r
    ((bestScores ops r features info rows).map Prod.snd))) (ops.lit 0) with hle | hpos
  · exact .inl (indices_eq_nil hle)
  · right
    rw [← hmod]
    exact indices_perm hpos

theorem precedes_of_best (hoff : r.orthogonalEnabled = false)
    (h : Lists rows priors info mask) (hids : (info.map (·.stableId)).Nodup) {i j : Nat} {s : F}
    {row : Row F} (hi : (i, s) ∈ bestScores ops r features info rows) (hj : rows[j]? = some row)
    (ha : row.2.2 = true)
    (hn : ∀ t, (j, t) ∉ bestScores ops r features info rows) {p q : F} {a b : AdapterInfo F}
    (hp : priors[i]? = some p) (hia : info[i]? = some a) (hq : priors[j]? = some q)
    (hjb : info[j]? = some b) :
    Precedes (combinedScore ops r features i p a) a (combinedScore ops r features j q b) b := by
  obtain ⟨top, htop, _, rfl⟩ := mem_rowScores.mp (mem_bestScores hi)
  obtain ⟨hp', hia', _⟩ := h.getElem? htop
  obtain ⟨hq', hjb', _⟩ := h.getElem? hj
  cases hp'.symm.trans hp
  cases hia'.symm.trans hia
  cases hq'.symm.trans hq
  cases hjb'.symm.trans hjb
  have hle := key_le_of_mem_take hi (mem_rowScores.mpr ⟨row, hj, ha, rfl⟩) (hn _)
  simp only [Prod.Lex.toLex_le_toLex, stableIdAt, hia, hjb, Option.elim_some,
    OrderDual.toDual_lt_toDual, OrderDual.toDual_inj] at hle
  rw [combinedScore_eq hoff, combinedScore_eq hoff]
  rcases hle with hlt | ⟨heq, hsid⟩
  · exact .inl hlt
  · refine .inr ⟨heq, lt_of_le_of_ne hsid ?_⟩
    intro he
    obtain rfl := stableId_inj hids hia hjb he
    exact hn _ hi

theorem selectionLaw_of_ok (hdet : r.adaptiveRouting = false)
    (hoff : r.orthogonalEnabled = false) (h : Lists rows priors info mask)
    (hsize : info.length ≤ 2 ^ 16) (hids : (info.map (·.stableId)).Nodup)
    (hd : routeWithAdapterInfoAndScopeWithCtx ops r features priors info mask hint determinism =
      .ok d) : SelectionLaw ops r features priors info mask hint d := by
  obtain ⟨_, _, rfl⟩ := (route_ok_iff hdet hoff h).mp hd
  have hs := h.scoped ops hint
  have hrows : (scopedRows ops rows hint).length ≤ 2 ^ 16 := by
    rwa [hs.info_eq, List.length_map] at hsize
  have hcases := indices_cases ops r features info mask hrows
  refine ⟨?_, ?_, ?_, ?_⟩
  · intro i hi
    rcases hcases with hnil | hperm
    · simp [hnil] at hi
    · obtain ⟨s, hs', rfl⟩ := List.mem_map.mp (hperm.mem_iff.mp hi)
      obtain ⟨row, hr, ha, _⟩ := mem_rowScores.mp (mem_bestScores hs')
      exact (hs.getElem? hr).2.2.trans (congrArg some ha)
  · rcases hcases with hnil | hperm
    · simp [hnil]
    · exact hperm.nodup_iff.mpr nodup_bestScores
  · intro scores hscores hpos
    rw [hs.zip_eq] at hscores
    obtain ⟨_, rfl⟩ := (scoreRows_ok_iff hoff).mp hscores
    have hperm : (decisionOf ops r info mask (bestScores ops r features info
        (scopedRows ops rows hint))).indices.Perm _ := indices_perm hpos
    rw [hperm.length_eq, List.length_map, hs.allowed_eq]
    exact length_bestScores
  · intro i hi j hj hn p a q b hp ha hq hb
    obtain ⟨row, hr, hallowed⟩ := hs.row_of_allowed hj
    grind [precedes_of_best]

end Selected

section Independence

/-- Calls whose allowed rows agree up to order select the same. -/
theorem sameSelection_of_rows (hdet : r.adaptiveRouting = false)
    (hoff : r.orthogonalEnabled = false) {priors' : List F}
    (h : Lists rows priors info mask) (h' : Lists rows' priors' info' mask')
    (hsize : info.length ≤ 2 ^ 16) (hsize' : info'.length ≤ 2 ^ 16)
    (hids : (info.map (·.stableId)).Nodup)
    (hfinite : (∀ v ∈ priors, ops.isFinite v) → ∀ v ∈ priors', ops.isFinite v)
    (hperm : ((scopedRows ops rows hint).filter (·.2.2)).Perm
      ((scopedRows ops rows' hint).filter (·.2.2))) :
    SameSelection info
      (routeWithAdapterInfoAndScopeWithCtx ops r features priors info mask hint determinism) info'
      (routeWithAdapterInfoAndScopeWithCtx ops r features priors' info' mask' hint
        determinism) := by
  intro d hd
  obtain ⟨⟨hfeatures, hpriors⟩, hall, rfl⟩ := (route_ok_iff hdet hoff h).mp hd
  have hs := h.scoped ops hint
  have hs' := h'.scoped ops hint
  have hall' : ∀ row ∈ scopedRows ops rows' hint, row.2.2 → Scorable ops r features row := by
    intro row hr ha
    have hmem := hperm.mem_iff.mpr (List.mem_filter.mpr ⟨hr, ha⟩)
    exact hall row (List.mem_filter.mp hmem).1 ha
  refine ⟨_, (route_ok_iff hdet hoff h').mpr ⟨⟨hfeatures, hfinite hpriors⟩, hall', rfl⟩, ?_⟩
  have hviews : ((rowScores ops r features 0 (scopedRows ops rows hint)).map (scoreView info)).Perm
      ((rowScores ops r features 0 (scopedRows ops rows' hint)).map (scoreView info')) := by
    rw [hs.info_eq, hs'.info_eq, map_scoreView_rowScores, map_scoreView_rowScores]
    exact hperm.map _
  have hdist : Distinguished
      ((rowScores ops r features 0 (scopedRows ops rows hint)).map (scoreView info)) := by
    rw [hs.info_eq, map_scoreView_rowScores]
    refine distinguished_rows hids ?_
    intro row hr
    rw [hs.info_eq]
    exact List.mem_map_of_mem (List.mem_filter.mp hr).1
  have hbest := map_take_sort_eq r.k hdist hviews
  symm
  refine selection_decisionOf_eq ?_ ?_ ?_ hbest
  · intro s hmem
    have hlt := lt_of_mem_bestScores hmem
    rw [hs.info_eq, List.length_map] at hsize
    omega
  · intro s hmem
    have hlt := lt_of_mem_bestScores hmem
    rw [hs'.info_eq, List.length_map] at hsize'
    omega
  · intro x hx y hy
    obtain ⟨s, hs, rfl⟩ := List.mem_map.mp hx
    obtain ⟨t, ht, rfl⟩ := List.mem_map.mp hy
    exact hdist _ (List.mem_map_of_mem (mem_bestScores hs)) _
      (List.mem_map_of_mem (mem_bestScores ht))

omit [LinearOrder F]

theorem scopedRows_perm (h : rows.Perm rows') :
    (scopedRows ops rows hint).Perm (scopedRows ops rows' hint) := by
  cases hint with
  | none => exact h
  | some scope =>
    simp only [scopedRows, h.any_eq]
    split <;> first | exact h.map _ | exact h

theorem scopedRows_eraseIdx {j : Nat} (hkeep : ∀ scope, hint = some scope →
      (rows.eraseIdx j).any (InScope scope) = rows.any (InScope scope)) :
    scopedRows ops (rows.eraseIdx j) hint = (scopedRows ops rows hint).eraseIdx j := by
  cases hint with
  | none => rfl
  | some scope =>
    simp only [scopedRows, hkeep scope rfl]
    split <;> simp [List.eraseIdx_map]

theorem filter_eraseIdx {j : Nat} {row : Row F} (hr : rows[j]? = some row) (ha : row.2.2 = false) :
    (rows.eraseIdx j).filter (·.2.2) = rows.filter (·.2.2) := by
  induction rows generalizing j with
  | nil => simp at hr
  | cons first rows ih =>
    cases j with
    | zero =>
      obtain rfl : first = row := by simpa using hr
      simp [ha]
    | succ j =>
      have htail : rows[j]? = some row := by simpa using hr
      simp [List.filter_cons, ih htail]

theorem allowed_scopedRows (ops : FloatOps F) (hint : Option String) {j : Nat} {row : Row F}
    (hr : rows[j]? = some row) :
    ∃ row', (scopedRows ops rows hint)[j]? = some row' ∧ row'.2.2 = row.2.2 := by
  cases hint with
  | none => exact ⟨row, hr, rfl⟩
  | some scope =>
    simp only [scopedRows]
    split <;> simp [hr, scopeRow]

end Independence

section HiddenScope

omit [LinearOrder F]

/-- The scope hint is met by one adapter only, which the mask excludes while it allows others. -/
def HiddenScope (info : List (AdapterInfo F)) (mask : PolicyMask) (hint : Option String) : Prop :=
  true ∈ mask.allowed ∧ ∃ (scope : String) (j : Nat) (a : AdapterInfo F),
    hint = some scope ∧ mask.allowed[j]? = some false ∧
    info[j]? = some a ∧ a.scopePath = some scope ∧
    ∀ (i : Nat) (b : AdapterInfo F), info[i]? = some b → b.scopePath = some scope → i = j

theorem any_eraseIdx {scope : String} {j : Nat}
    (hother : ∀ row, rows[j]? = some row → InScope scope row →
      ∃ i row', i ≠ j ∧ rows[i]? = some row' ∧ InScope scope row') :
    (rows.eraseIdx j).any (InScope scope) = rows.any (InScope scope) := by
  grind [List.getElem?_of_mem, List.mem_eraseIdx_iff_getElem?]

theorem filter_scopedRows_eraseIdx (h : Lists rows priors info mask)
    (hhidden : ¬ HiddenScope info mask hint) {j : Nat} (hj : mask.allowed[j]? = some false) :
    (scopedRows ops (rows.eraseIdx j) hint).filter (·.2.2) =
      (scopedRows ops rows hint).filter (·.2.2) := by
  obtain ⟨row, hr, ha⟩ := h.row_of_allowed hj
  by_cases hsome : true ∈ mask.allowed
  · have hkeep : ∀ scope, hint = some scope →
        (rows.eraseIdx j).any (InScope scope) = rows.any (InScope scope) := by
      intro scope hscope
      apply any_eraseIdx
      intro row' hr' hin
      by_contra hnone
      apply hhidden
      refine ⟨hsome, scope, j, row'.2.1, hscope, hj, (h.getElem? hr').2.1,
        of_decide_eq_true hin, ?_⟩
      intro i b hb hbscope
      by_contra hij
      rw [h.info_eq, List.getElem?_map] at hb
      obtain ⟨other, ho, rfl⟩ := Option.map_eq_some_iff.mp hb
      exact hnone ⟨i, other, hij, ho, decide_eq_true hbscope⟩
    rw [scopedRows_eraseIdx hkeep]
    obtain ⟨row', hr', ha'⟩ := allowed_scopedRows ops hint hr
    exact filter_eraseIdx hr' (ha'.trans ha)
  · -- With nothing allowed, no row passes the filter on either side.
    have hs := (h.scoped ops hint).allowed_eq
    have hmask : ({ mask with allowed := mask.allowed.eraseIdx j } : PolicyMask).allowed =
        mask.allowed.eraseIdx j := rfl
    have herase := ((h.eraseIdx j hmask).scoped ops hint).allowed_eq
    have hnil : ∀ {rows' : List (Row F)}, true ∉ rows'.map (·.2.2) → rows'.filter (·.2.2) = [] := by
      intro rows' hnone
      simpa using hnone
    grind [List.mem_of_mem_eraseIdx]

end HiddenScope

section Necessity

/-- Scores are the priors, gates are the scores, and their sum is the greatest. -/
def tellingOps (lo : F) : FloatOps F where
  lit _ := lo
  ofNat _ := lo
  display _ := ""
  isFinite _ := true
  add := max
  sub x _ := x
  mul x _ := x
  div x _ := x
  deterministicSoftmax _ scores := scores
  softmax_length _ _ := rfl
  computeEntropy _ := lo
  quantizeGate _ := 0

def tellingRouter (lo : F) : Router F where
  featureWeights := ⟨lo, lo, lo, lo, lo, lo⟩
  k := 1
  k_pos := Nat.one_pos
  tau := lo
  eps := lo
  orthogonalConstraints := none
  orthogonalEnabled := false
  adaptiveRouting := false
  routingBias := lo
  isMoeModel := false

theorem rowScore_telling (lo : F) (row : Row F) :
    rowScore (tellingOps lo) (tellingRouter lo) [] row = max row.1 lo := by
  simp [rowScore, combinedScore, computeScore, computeAdapterFeatureScore, tellingOps,
    tellingRouter]

theorem foldl_max_const {lo c : F} {scores : List F} (hle : lo ≤ c) (h : ∀ x ∈ scores, x = c)
    (hne : scores ≠ []) : scores.foldl max lo = c := by
  induction scores generalizing lo with
  | nil => exact absurd rfl hne
  | cons x scores ih =>
    obtain rfl := h x (by simp)
    rw [List.foldl_cons, max_eq_right hle]
    cases scores with
    | nil => rfl
    | cons y scores => exact ih le_rfl (fun y hy => h y (List.mem_cons_of_mem _ hy)) nofun

theorem sum_telling (lo : F) (scores : List F) :
    (tellingOps lo).sum (flooredGates (tellingOps lo) (tellingRouter lo) scores) =
      scores.foldl max lo := by
  simp [flooredGates, tellingOps, tellingRouter, FloatOps.sum]

theorem indices_telling_lowest {lo : F} (hall : ∀ row ∈ rows, row.2.2 → row.1 = lo) :
    (decisionOf (tellingOps lo) (tellingRouter lo) info mask
      (bestScores (tellingOps lo) (tellingRouter lo) [] info rows)).indices = [] := by
  apply indices_eq_nil
  have hlow : ∀ x ∈ (bestScores (tellingOps lo) (tellingRouter lo) [] info rows).map Prod.snd,
      x = lo := by
    intro x hx
    obtain ⟨⟨i, s⟩, hs, rfl⟩ := List.mem_map.mp hx
    obtain ⟨row, hr, ha, rfl⟩ := mem_rowScores.mp (mem_bestScores hs)
    rw [rowScore_telling, hall row (List.mem_of_getElem? hr) ha, max_self]
  by_cases hnil : (bestScores (tellingOps lo) (tellingRouter lo) [] info rows).map Prod.snd = []
  · rw [sum_telling, hnil]
    exact le_refl lo
  · rw [sum_telling, foldl_max_const le_rfl hlow hnil]
    exact le_refl lo

theorem indices_telling_higher {lo hi : F} (hlt : lo < hi) (hall : ∀ row ∈ rows, row.1 = hi)
    (hsome : ∃ row ∈ rows, row.2.2 = true) :
    (decisionOf (tellingOps lo) (tellingRouter lo) info mask
      (bestScores (tellingOps lo) (tellingRouter lo) [] info rows)).indices ≠ [] := by
  obtain ⟨row, hr, ha⟩ := hsome
  have hlen : 0 < (bestScores (tellingOps lo) (tellingRouter lo) [] info rows).length := by
    have hcount : 0 < (rows.map (·.2.2)).count true :=
      List.count_pos_iff.mpr (ha ▸ List.mem_map_of_mem hr)
    rw [length_bestScores]
    exact Nat.lt_min.mpr ⟨(tellingRouter lo).k_pos, hcount⟩
  have hhigh : ∀ x ∈ (bestScores (tellingOps lo) (tellingRouter lo) [] info rows).map Prod.snd,
      x = hi := by
    intro x hx
    obtain ⟨⟨i, s⟩, hs, rfl⟩ := List.mem_map.mp hx
    obtain ⟨row, hr, _, rfl⟩ := mem_rowScores.mp (mem_bestScores hs)
    rw [rowScore_telling, hall row (List.mem_of_getElem? hr), max_eq_left (le_of_lt hlt)]
  have hne : (bestScores (tellingOps lo) (tellingRouter lo) [] info rows).map Prod.snd ≠ [] := by
    rwa [← List.length_pos_iff, List.length_map]
  have hsum : (tellingOps lo).sum (flooredGates (tellingOps lo) (tellingRouter lo)
      ((bestScores (tellingOps lo) (tellingRouter lo) [] info rows).map Prod.snd)) = hi :=
    (sum_telling lo _).trans (foldl_max_const (le_of_lt hlt) hhigh hne)
  have hperm : (decisionOf (tellingOps lo) (tellingRouter lo) info mask (bestScores
      (tellingOps lo) (tellingRouter lo) [] info rows)).indices.Perm _ :=
    indices_perm (hsum.symm ▸ hlt)
  intro hnil
  have hlength := hperm.length_eq
  rw [hnil, List.length_map, List.length_nil] at hlength
  omega

theorem route_telling (lo : F) (h : Lists rows priors info mask) (hint : Option String)
    (determinism : Option (Nat → Nat)) :
    routeWithAdapterInfoAndScopeWithCtx (tellingOps lo) (tellingRouter lo) [] priors info mask hint
      determinism =
    .ok (decisionOf (tellingOps lo) (tellingRouter lo) info mask
      (bestScores (tellingOps lo) (tellingRouter lo) [] info
        (scopedRows (tellingOps lo) rows hint))) :=
  (route_ok_iff rfl rfl h).mpr ⟨⟨by simp, fun _ _ => rfl⟩, fun _ _ _ => ⟨rfl, rfl, rfl, rfl⟩, rfl⟩

section Rows

variable {scope : String} {j : Nat} {a : AdapterInfo F}
  (honly : ∀ (i : Nat) (b : AdapterInfo F), info[i]? = some b → b.scopePath = some scope → i = j)

include honly

omit [LinearOrder F] in
theorem Lists.index_of_inScope (h : Lists rows priors info mask)
    {i : Nat} {row : Row F} (hr : rows[i]? = some row) (hin : InScope scope row) : i = j :=
  honly i row.2.1 (h.getElem? hr).2.1 (of_decide_eq_true hin)

theorem lowest_of_hidden (lo : F) (h : Lists rows priors info mask)
    (hj : mask.allowed[j]? = some false) (haj : info[j]? = some a)
    (hscope : a.scopePath = some scope) :
    ∀ row ∈ scopedRows (tellingOps lo) rows (some scope), row.2.2 → row.1 = lo := by
  obtain ⟨hidden, hr, hmasked⟩ := h.row_of_allowed hj
  have hin : InScope scope hidden := by
    have he : hidden.2.1 = a := Option.some.inj ((h.getElem? hr).2.1.symm.trans haj)
    exact decide_eq_true (he ▸ hscope)
  have hany : rows.any (InScope scope) :=
    List.any_eq_true.mpr ⟨hidden, List.mem_of_getElem? hr, hin⟩
  intro row hrow hallowed
  simp only [scopedRows, hany, if_true] at hrow
  obtain ⟨row, hmem, rfl⟩ := List.mem_map.mp hrow
  obtain ⟨i, hi⟩ := List.getElem?_of_mem hmem
  have hout : ¬ InScope scope row := by
    intro hin'
    obtain rfl := Lists.index_of_inScope honly h hi hin'
    grind [scopeRow]
  simp [scopeRow, hout, tellingOps]

omit [LinearOrder F] in
theorem scopedRows_shown (h : Lists rows priors info mask) :
    scopedRows ops (rows.eraseIdx j) (some scope) = rows.eraseIdx j := by
  have hnone : (rows.eraseIdx j).any (InScope scope) = false := by
    rw [List.any_eq_false]
    intro row hr hin
    obtain ⟨i, hij, hi⟩ := List.mem_eraseIdx_iff_getElem?.mp hr
    exact hij (Lists.index_of_inScope honly h hi hin)
  simp [scopedRows, hnone]

end Rows

theorem not_routingLaw_of_hidden (hmask : mask.allowed.length = info.length) {lo hi : F}
    (hlt : lo < hi) (hhidden : HiddenScope info mask hint) :
    ¬ RoutingLaw (tellingOps lo) (tellingRouter lo) [] (info.map fun _ => hi) info mask hint
      determinism := by
  intro hlaw
  obtain ⟨hsome, scope, j, a, rfl, hj, haj, hscope, honly⟩ := hhidden
  have h : Lists ((info.map fun _ => hi).zip (info.zip mask.allowed)) (info.map fun _ => hi) info
      mask := lists_zip (List.length_map _) hmask
  obtain ⟨mask', hmask'⟩ : ∃ m : PolicyMask, m.allowed = mask.allowed.eraseIdx j :=
    ⟨{ mask with allowed := mask.allowed.eraseIdx j }, rfl⟩
  have herased := h.eraseIdx j hmask'
  obtain ⟨d', hd', hsame⟩ := hlaw.deleted j mask' hj hmask' _ (route_telling lo h _ _)
  obtain rfl := Except.ok.inj ((route_telling lo herased _ _).symm.trans hd')
  have hempty : (decisionOf (tellingOps lo) (tellingRouter lo) info mask _).indices = [] :=
    indices_telling_lowest (lowest_of_hidden honly lo h hj haj hscope)
  have hids := congrArg Prod.fst hsame
  simp only [selection, hempty, List.map_nil, List.map_eq_nil_iff] at hids
  refine indices_telling_higher hlt ?_ ?_ hids
  · intro row hr
    rw [scopedRows_shown honly h] at hr
    have hprior := (List.of_mem_zip (List.mem_of_mem_eraseIdx hr)).1
    obtain ⟨_, _, he⟩ := List.mem_map.mp hprior
    exact he.symm
  · rw [scopedRows_shown honly h]
    obtain ⟨i, hi⟩ := List.getElem?_of_mem hsome
    obtain ⟨row, hr, hallowed⟩ := h.row_of_allowed hi
    grind [List.mem_eraseIdx_iff_getElem?]

end Necessity

/-- The router selects the best allowed adapters, and does so whatever the order and whatever the
mask excludes, exactly when no excluded adapter alone meets the scope hint. -/
theorem routingLaw_iff [Nontrivial F] (hint : Option String) (hsize : info.length ≤ 2 ^ 16)
    (hids : (info.map (·.stableId)).Nodup) (hmask : mask.allowed.length = info.length) :
    (∀ (ops : FloatOps F) (r : Router F) (features priors : List F)
        (determinism : Option (Nat → Nat)), r.adaptiveRouting = false →
        r.orthogonalEnabled = false → priors.length = info.length →
        RoutingLaw ops r features priors info mask hint determinism) ↔
      ¬ HiddenScope info mask hint := by
  constructor
  · intro hlaw hhidden
    obtain ⟨lo, hi, hlt⟩ := exists_pair_lt F
    exact not_routingLaw_of_hidden hmask hlt hhidden (hlaw _ _ _ _ none rfl rfl (List.length_map _))
  · intro hhidden ops r features priors determinism hdet hoff hpriors
    have h := lists_zip hpriors hmask
    refine ⟨?_, ?_, ?_⟩
    · intro d hd
      exact selectionLaw_of_ok hdet hoff h hsize hids hd
    · intro priors' info' mask' hpriors' hmask' hperm
      have h' := lists_zip hpriors' hmask'
      have hlength : info'.length = info.length := by
        rw [h.info_eq, h'.info_eq, List.length_map, List.length_map, hperm.length_eq]
      refine sameSelection_of_rows hdet hoff h h' hsize (hlength ▸ hsize) hids ?_
        ((scopedRows_perm hperm).filter _)
      obtain ⟨⟩ := h'
      obtain ⟨⟩ := h
      grind
    · intro j mask' hj hallowed
      have h' := h.eraseIdx j hallowed
      grind [sameSelection_of_rows, List.Perm.of_eq, filter_scopedRows_eraseIdx,
        List.mem_of_mem_eraseIdx]

/-- Exact arithmetic, gates in equal shares. -/
def rationalOps : FloatOps ℚ where
  lit := id
  ofNat n := n
  display x := toString x
  isFinite _ := true
  add := (· + ·)
  sub := (· - ·)
  mul := (· * ·)
  div := (· / ·)
  deterministicSoftmax _ scores := scores.map fun _ => 1 / (scores.length : ℚ)
  softmax_length _ _ := by simp
  computeEntropy _ := 0
  quantizeGate g := (g * 32767 + 1 / 2).floor

def plainRouter : Router ℚ :=
  newWithWeights rationalOps ⟨0, 0, 0, 0, 0, 0⟩ 1 1 (2 / 100)

def plainAdapter (id : AdapterId) (stableId : Nat) (scopePath : Option String) : AdapterInfo ℚ :=
  ⟨id, stableId, none, [], "default", scopePath, none, 1, false⟩

def threeAdapters : List (AdapterInfo ℚ) :=
  [plainAdapter "general" 1 none, plainAdapter "strong" 2 none,
    plainAdapter "billing" 3 (some "billing/invoices")]

theorem threeAdapters_unscoped :
    RoutingLaw rationalOps plainRouter [] [2 / 10, 9 / 10, 5 / 10] threeAdapters
      ⟨[true, true, false], 0, {}⟩ none none := by
  have hhidden : ¬ HiddenScope threeAdapters ⟨[true, true, false], 0, {}⟩ none := by
    rintro ⟨_, _, _, _, hhint, _⟩
    cases hhint
  exact (routingLaw_iff none (by decide) (by decide) rfl).mpr hhidden _ _ _ _ _ rfl rfl rfl

/-- The first adapter is selected for its id, the second one for its prior. -/
theorem maskedScope_changes_selection : let hint := some "billing/invoices"
    let route := fun priors info allowed => routeWithAdapterInfoAndScopeWithCtx rationalOps
      plainRouter [] priors info ⟨allowed, 0, {}⟩ hint none
    (threeAdapters.map (·.stableId)).Nodup ∧
      (route [2 / 10, 9 / 10, 5 / 10] threeAdapters [true, true, false]).toOption.map
        (selection threeAdapters) = some ([some "general"], [32767]) ∧
      (route [2 / 10, 9 / 10] (threeAdapters.eraseIdx 2) [true, true]).toOption.map
        (selection (threeAdapters.eraseIdx 2)) = some ([some "strong"], [32767]) ∧
      ¬ RoutingLaw rationalOps plainRouter [] [2 / 10, 9 / 10, 5 / 10] threeAdapters
        ⟨[true, true, false], 0, {}⟩ hint none := by
  intro hint route
  have hmasked : (route [2 / 10, 9 / 10, 5 / 10] threeAdapters [true, true, false]).toOption.map
      (selection threeAdapters) = some ([some "general"], [32767]) := by decide +kernel
  have hdeleted : (route [2 / 10, 9 / 10] (threeAdapters.eraseIdx 2) [true, true]).toOption.map
      (selection (threeAdapters.eraseIdx 2)) = some ([some "strong"], [32767]) := by decide +kernel
  refine ⟨by decide, hmasked, hdeleted, ?_⟩
  intro hlaw
  have hsame := (hlaw.deleted 2 ⟨[true, true], 0, {}⟩ rfl rfl).toOption_eq hmasked
  have habsurd := hsame.symm.trans hdeleted
  revert habsurd
  decide

end AdapterOS.Routing
