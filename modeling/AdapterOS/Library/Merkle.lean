import AdapterOS.Library.Encoding
import Mathlib.Data.Nat.Log

/-! Merkle trees over any digests, with the last node of an odd level paired with itself. -/
namespace Library.Merkle

variable {δ : Type*} {parent : δ × δ → δ} {level other siblings : List δ} {leaf : δ}
  {fuel height index : Nat} {node sibling : δ}

def pairs : List δ → List (δ × δ)
  | left :: right :: rest => (left, right) :: pairs rest
  | [left] => [(left, left)]
  | [] => []

def levelUp (parent : δ × δ → δ) (level : List δ) : List δ := (pairs level).map parent

def climb (parent : δ × δ → δ) : Nat → List δ → List δ
  | 0, level => level
  | fuel + 1, level => if level.length > 1 then climb parent fuel (levelUp parent level) else level

def join (node : δ) (index : Nat) (sibling : δ) : δ × δ :=
  if index % 2 = 0 then (node, sibling) else (sibling, node)

def neighbour (length index : Nat) : Nat :=
  if index % 2 = 0 then (if index + 1 < length then index + 1 else index) else index - 1

def walk (parent : δ × δ → δ) : δ → Nat → List δ → δ
  | node, _, [] => node
  | node, index, sibling :: siblings =>
    walk parent (parent (join node index sibling)) (index / 2) siblings

def treePairs (parent : δ × δ → δ) : Nat → List δ → List (δ × δ)
  | 0, _ => []
  | height + 1, level => pairs level ++ treePairs parent height (levelUp parent level)

/-- All pairs that a walk hashes. -/
def walkPairs (parent : δ × δ → δ) : δ → Nat → List δ → List (δ × δ)
  | _, _, [] => []
  | node, index, sibling :: siblings =>
    join node index sibling ::
      walkPairs parent (parent (join node index sibling)) (index / 2) siblings

theorem length_pairs (level : List δ) : (pairs level).length = (level.length + 1) / 2 := by
  induction level using pairs.induct with
  | case1 left right rest ih =>
    simp only [pairs, List.length_cons, ih]
    omega
  | case2 left => simp [pairs]
  | case3 => simp [pairs]

@[simp] theorem length_levelUp (parent : δ × δ → δ) (level : List δ) :
    (levelUp parent level).length = (level.length + 1) / 2 := by
  simp [levelUp, length_pairs]

theorem mem_of_mem_pairs {p : δ × δ} (h : p ∈ pairs level) : p.1 ∈ level ∧ p.2 ∈ level := by
  induction level using pairs.induct with
  | case1 left right rest ih =>
    rcases List.mem_cons.mp h with rfl | h
    · simp
    · obtain ⟨h1, h2⟩ := ih h
      exact ⟨by simp [h1], by simp [h2]⟩
  | case2 left =>
    rw [pairs, List.mem_singleton] at h
    subst h
    simp
  | case3 => simp [pairs] at h

theorem eq_of_pairs_eq (hlen : level.length = other.length) (h : pairs level = pairs other) :
    level = other := by
  induction level using pairs.induct generalizing other with
  | case1 left right rest ih =>
    match other with
    | [] => simp at hlen
    | [_] => simp at hlen
    | left' :: right' :: rest' => grind [pairs]
  | case2 left =>
    match other with
    | [] => simp at hlen
    | [left'] =>
      simp only [pairs, List.cons.injEq, Prod.mk.injEq] at h
      rw [h.1.1]
    | _ :: _ :: _ => simp at hlen
  | case3 =>
    cases other with
    | nil => rfl
    | cons _ _ => simp at hlen

theorem neighbour_lt {length : Nat} (h : index < length) : neighbour length index < length := by
  unfold neighbour
  split
  · split <;> omega
  · omega

theorem neighbour_add_two (length index : Nat) :
    neighbour (length + 2) (index + 2) = neighbour length index + 2 := by
  unfold neighbour
  split_ifs <;> omega

theorem getElem?_pairs (hnode : level[index]? = some node)
    (hsibling : level[neighbour level.length index]? = some sibling) :
    (pairs level)[index / 2]? = some (join node index sibling) := by
  induction level using pairs.induct generalizing index with
  | case1 left right rest ih =>
    match index with
    | 0 =>
      obtain rfl : left = node := by simpa using hnode
      obtain rfl : right = sibling := by simpa [neighbour] using hsibling
      rfl
    | 1 =>
      obtain rfl : right = node := by simpa using hnode
      obtain rfl : left = sibling := by simpa [neighbour] using hsibling
      rfl
    | index + 2 =>
      rw [List.length_cons, List.length_cons, neighbour_add_two] at hsibling
      have hrest := ih (by simpa using hnode) (by simpa using hsibling)
      have hhalf : (index + 2) / 2 = index / 2 + 1 := by omega
      have hside : join node (index + 2) sibling = join node index sibling := by
        simp [join]
      rw [hhalf, hside]
      exact hrest
  | case2 left =>
    have hlt := (List.getElem?_eq_some_iff.mp hnode).1
    obtain rfl : index = 0 := by simpa using hlt
    obtain rfl : left = node := by simpa using hnode
    obtain rfl : left = sibling := by simpa [neighbour] using hsibling
    rfl
  | case3 => simp at hnode

theorem getElem?_levelUp (parent : δ × δ → δ) (hnode : level[index]? = some node)
    (hsibling : level[neighbour level.length index]? = some sibling) :
    (levelUp parent level)[index / 2]? = some (parent (join node index sibling)) := by
  rw [levelUp, List.getElem?_map, getElem?_pairs hnode hsibling, Option.map_some]

theorem iterate_levelUp_length (parent : δ × δ → δ) (hpos : level ≠ [])
    (hle : level.length ≤ 2 ^ height) : ((levelUp parent)^[height] level).length = 1 := by
  induction height generalizing level with
  | zero =>
    have := List.length_pos_iff.mpr hpos
    simp only [Function.iterate_zero, id]
    omega
  | succ height ih => grind [List.length_pos_iff, Function.iterate_succ_apply, length_levelUp]

theorem climb_eq_iterate (parent : δ × δ → δ) (hfuel : level.length ≤ fuel + 1) :
    climb parent fuel level = (levelUp parent)^[Nat.clog 2 level.length] level := by
  induction fuel generalizing level with
  | zero =>
    have : Nat.clog 2 level.length = 0 := Nat.clog_of_right_le_one hfuel 2
    rw [this]
    rfl
  | succ fuel ih =>
    by_cases hlen : level.length > 1
    · have hup : (levelUp parent level).length ≤ fuel + 1 := by
        rw [length_levelUp]
        omega
      simp only [climb, if_pos hlen]
      rw [ih hup, length_levelUp, Nat.clog_of_two_le (by omega) hlen]
      rfl
    · have : Nat.clog 2 level.length = 0 := Nat.clog_of_right_le_one (by omega) 2
      simp only [climb, if_neg hlen, this]
      rfl

theorem treePairs_mono (parent : δ × δ → δ) {lower upper : Nat} (h : lower ≤ upper)
    (level : List δ) : treePairs parent lower level ⊆ treePairs parent upper level := by
  induction lower generalizing upper level with
  | zero => simp [treePairs]
  | succ lower ih =>
    obtain ⟨upper, rfl⟩ : ∃ u, upper = u + 1 := ⟨upper - 1, by omega⟩
    exact List.append_subset.mpr ⟨List.subset_append_left _ _,
      List.subset_append_of_subset_right _ (ih (by omega) _)⟩

theorem iterate_levelUp_pairs (parent : δ × δ → δ) (steps height : Nat) (level : List δ) :
    treePairs parent height ((levelUp parent)^[steps] level) ⊆
      treePairs parent (steps + height) level := by
  induction steps generalizing level with
  | zero => simp
  | succ steps ih =>
    intro p hp
    rw [Nat.add_right_comm]
    exact List.mem_append_right _ (ih (levelUp parent level) hp)

theorem iterate_succ_parent {node : δ} (steps : Nat)
    (h : node ∈ (levelUp parent)^[steps + 1] level) :
    ∃ p ∈ treePairs parent (steps + 1) level, node = parent p := by
  rw [Function.iterate_succ_apply'] at h
  obtain ⟨p, hp, rfl⟩ := List.mem_map.mp h
  refine ⟨p, iterate_levelUp_pairs parent steps 1 level ?_, rfl⟩
  simpa [treePairs] using hp

theorem walk_append (node : δ) (index : Nat) (first second : List δ) :
    walk parent node index (first ++ second) =
      walk parent (walk parent node index first) (index / 2 ^ first.length) second := by
  induction first generalizing node index with
  | nil => simp [walk]
  | cons sibling first ih =>
    simp only [List.cons_append, walk, ih, List.length_cons]
    rw [Nat.div_div_eq_div_mul, Nat.pow_succ']

theorem walkPairs_append (node : δ) (index : Nat) (first second : List δ) :
    walkPairs parent node index (first ++ second) = walkPairs parent node index first ++
      walkPairs parent (walk parent node index first) (index / 2 ^ first.length) second := by
  induction first generalizing node index with
  | nil => simp [walk, walkPairs]
  | cons sibling first ih =>
    simp only [List.cons_append, walk, walkPairs, ih, List.length_cons]
    rw [Nat.div_div_eq_div_mul, Nat.pow_succ']

theorem walk_eq_parent (parent : δ × δ → δ) (leaf : δ) (index : Nat) (hne : siblings ≠ []) :
    ∃ p ∈ walkPairs parent leaf index siblings, walk parent leaf index siblings = parent p := by
  induction siblings generalizing leaf index with
  | nil => exact absurd rfl hne
  | cons sibling siblings ih =>
    by_cases hrest : siblings = []
    · subst hrest
      exact ⟨join leaf index sibling, by simp [walkPairs], rfl⟩
    · obtain ⟨p, hp, hw⟩ := ih _ _ hrest
      exact ⟨p, List.mem_cons_of_mem _ hp, hw⟩

theorem mem_of_mem_join {p : δ × δ} (h : join node index sibling = p) :
    node = p.1 ∨ node = p.2 := by
  subst h
  simp only [join]
  split
  · exact Or.inl rfl
  · exact Or.inr rfl

/-- A walk that ends in the tree, as many levels up as it has siblings, began at a leaf: each
step's pair must be the pair of the tree, whoever chose the siblings. -/
theorem mem_of_walk (index : Nat) (siblings : List δ) (hfree : CollisionFree parent
      (treePairs parent siblings.length level ++ walkPairs parent leaf index siblings))
    (hwalk : walk parent leaf index siblings ∈ (levelUp parent)^[siblings.length] level) :
    leaf ∈ level := by
  induction siblings generalizing leaf index level with
  | nil => exact hwalk
  | cons sibling siblings ih =>
    have hup : parent (join leaf index sibling) ∈ levelUp parent level := by
      refine ih _ (hfree.mono ?_) hwalk
      grind [treePairs, walkPairs]
    obtain ⟨p, hp, heq⟩ := List.mem_map.mp hup
    have hmine : join leaf index sibling ∈ treePairs parent (sibling :: siblings).length level ++
        walkPairs parent leaf index (sibling :: siblings) := by
      simp [walkPairs]
    have htree : p ∈ treePairs parent (sibling :: siblings).length level ++
        walkPairs parent leaf index (sibling :: siblings) := by
      simp [treePairs, hp]
    have hsame := (hfree.eq_iff htree hmine).mp heq
    obtain ⟨h1, h2⟩ := mem_of_mem_pairs hp
    rcases mem_of_mem_join hsame.symm with hl | hl
    · exact hl ▸ h1
    · exact hl ▸ h2

theorem eq_of_iterate_eq (height : Nat) (hlen : level.length = other.length)
    (hfree : CollisionFree parent (treePairs parent height level ++ treePairs parent height other))
    (h : (levelUp parent)^[height] level = (levelUp parent)^[height] other) : level = other := by
  induction height generalizing level other with
  | zero => exact h
  | succ height ih =>
    have hup : levelUp parent level = levelUp parent other := by
      refine ih (by simp [hlen]) (hfree.mono ?_) h
      intro p hp
      simp only [treePairs, List.mem_append] at hp ⊢
      tauto
    refine eq_of_pairs_eq hlen (hfree.map_eq ?_ ?_ hup)
    · intro p hp
      simp [treePairs, hp]
    · intro p hp
      simp [treePairs, hp]

end Library.Merkle
