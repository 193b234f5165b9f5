import Mathlib.Data.List.AList
import Mathlib.Data.List.Induction

/-! Hash maps as Mathlib's association lists without repeated keys. The list order stands for
one iteration order; nothing stated here depends on it. -/
namespace Library

universe u v

abbrev HashMap (κ : Type u) (ν : Type v) := AList (fun _ : κ => ν)

/-- A set is a map to nothing. -/
abbrev HashSet (κ : Type u) := HashMap κ Unit

/-- An order in which a map is walked; a program that walks it fixes none. -/
structure Iteration (α : Type*) where
  visit : List α → List α
  perm : ∀ l, (visit l).Perm l

def Iteration.asListed {α : Type*} : Iteration α := ⟨id, fun _ => .refl _⟩

@[simp] theorem Iteration.mem_visit {α : Type*} (o : Iteration α) {a : α} {l : List α} :
    a ∈ o.visit l ↔ a ∈ l :=
  (o.perm l).mem_iff

end Library

namespace AList

open Library

universe u v

variable {κ : Type u} {ν : Type v} {m : HashMap κ ν} {k j : κ} {v : ν} {ks : List κ}

def items (m : HashMap κ ν) : List (κ × ν) := m.entries.map (fun e => (e.1, e.2))

theorem items_keys (m : HashMap κ ν) : m.items.map Prod.fst = m.keys := by
  simp [items, keys, List.keys, Function.comp_def]

theorem notMem_of_eq_empty (h : m = ∅) : k ∉ m := h ▸ notMem_empty k

theorem items_nodup (m : HashMap κ ν) : m.items.Nodup := by
  have hk : (m.items.map Prod.fst).Nodup := by
    rw [items_keys]
    exact m.keys_nodup
  exact hk.of_map

variable [DecidableEq κ]

attribute [grind =] mem_insert mem_erase

def get? (m : HashMap κ ν) (k : κ) : Option ν := m.lookup k

def eraseAll (m : HashMap κ ν) (ks : List κ) : HashMap κ ν := ks.foldl (fun m k => m.erase k) m

@[simp, grind =] theorem get?_empty (k : κ) : (∅ : HashMap κ ν).get? k = none := rfl

theorem mem_iff_get? : k ∈ m ↔ ∃ v, m.get? k = some v := by
  rw [← lookup_isSome, Option.isSome_iff_exists]
  rfl

theorem get?_eq_none : m.get? k = none ↔ k ∉ m := lookup_eq_none

@[grind →] theorem mem_of_get? (h : m.get? k = some v) : k ∈ m := mem_iff_get?.mpr ⟨v, h⟩

theorem mem_items : (k, v) ∈ m.items ↔ m.get? k = some v := by
  have he : m.get? k = some v ↔ (⟨k, v⟩ : Sigma fun _ => ν) ∈ m.entries := mem_lookup_iff
  grind [items]

@[grind =] theorem get?_insert (m : HashMap κ ν) (k j : κ) (v : ν) :
    (m.insert k v).get? j = if j = k then some v else m.get? j := by
  split
  · subst j; exact lookup_insert m
  · exact lookup_insert_ne ‹_›

@[grind =] theorem get?_erase (m : HashMap κ ν) (k j : κ) :
    (m.erase k).get? j = if j = k then none else m.get? j := by
  split
  · subst j; exact lookup_erase k m
  · exact lookup_erase_ne ‹_›

theorem get?_insert_self (m : HashMap κ ν) (k : κ) (v : ν) : (m.insert k v).get? k = some v :=
  lookup_insert m

theorem get?_insert_ne (h : j ≠ k) : (m.insert k v).get? j = m.get? j := lookup_insert_ne h

theorem get?_erase_ne (h : j ≠ k) : (m.erase k).get? j = m.get? j := lookup_erase_ne h

theorem items_insert (m : HashMap κ ν) (k : κ) (v : ν) :
    (m.insert k v).items = (k, v) :: (m.erase k).items := rfl

theorem items_erase_perm (h : m.get? k = some v) : m.items.Perm ((k, v) :: (m.erase k).items) := by
  grind [mem_items, List.perm_ext_iff_of_nodup, items_nodup]

private theorem kerase_eq_filter {l : List (Sigma fun _ : κ => ν)} (h : l.NodupKeys) (k : κ) :
    l.kerase k = l.filter fun e => e.1 ≠ k := by
  induction l with
  | nil => rfl
  | cons e l ih => grind [List.kerase_cons_eq, List.filter_eq_self, List.kerase_cons_ne]

theorem items_erase (m : HashMap κ ν) (k : κ) :
    (m.erase k).items = m.items.filter fun e => e.1 ≠ k := by
  have hk : (m.erase k).entries = m.entries.filter fun e => e.1 ≠ k :=
    kerase_eq_filter m.nodupKeys k
  simp only [items, hk, List.filter_map, Function.comp_def]

theorem items_erase_of_notMem (h : k ∉ m) : (m.erase k).items = m.items := by
  have hall : ∀ e ∈ m.items, e.1 ≠ k := by
    rintro ⟨j, v⟩ he rfl
    exact h (mem_of_get? (mem_items.mp he))
  rw [items_erase, List.filter_eq_self.mpr (by simpa using hall)]

theorem items_eraseAll (m : HashMap κ ν) (ks : List κ) :
    (m.eraseAll ks).items = m.items.filter fun e => e.1 ∉ ks := by
  induction ks generalizing m with
  | nil => simp [eraseAll]
  | cons k ks ih =>
    change ((m.erase k).eraseAll ks).items = _
    rw [ih, items_erase, List.filter_filter]
    refine List.filter_congr ?_
    intro e _
    simp [Bool.and_comm]

@[grind =] theorem get?_eraseAll (m : HashMap κ ν) (ks : List κ) (j : κ) :
    (m.eraseAll ks).get? j = if j ∈ ks then none else m.get? j := by
  induction ks generalizing m with
  | nil => simp [eraseAll]
  | cons k ks ih =>
    change ((m.erase k).eraseAll ks).get? j = _
    rw [ih, get?_erase]
    by_cases h : j = k <;> simp [h]

def retain (m : HashMap κ ν) (keep : κ → ν → Bool) : HashMap κ ν :=
  m.eraseAll ((m.items.filter fun e => !keep e.1 e.2).map Prod.fst)

@[grind =] theorem get?_retain (m : HashMap κ ν) (keep : κ → ν → Bool) (k : κ) :
    (m.retain keep).get? k = (m.get? k).filter (keep k) := by
  rw [retain, get?_eraseAll]
  cases hget : m.get? k with
  | none => simp
  | some v =>
    have hdropped : k ∈ (m.items.filter fun e => !keep e.1 e.2).map Prod.fst ↔
        keep k v = false := by
      simp only [List.mem_map, List.mem_filter, Prod.exists, mem_items, Bool.not_eq_eq_eq_not,
        Bool.not_true, exists_and_right, exists_eq_right]
      grind
    grind

@[grind =] theorem mem_eraseAll : j ∈ m.eraseAll ks ↔ j ∉ ks ∧ j ∈ m := by
  rw [mem_iff_get?, get?_eraseAll, mem_iff_get?]
  split <;> simp_all

end AList

namespace Library.HashMap

universe u v

variable {κ : Type u} {ν : Type v} [DecidableEq κ] {k : κ} {v : ν} {es : List (κ × ν)}

def collect (es : List (κ × ν)) : HashMap κ ν :=
  es.foldl (fun m e => m.insert e.1 e.2) ∅

private theorem get?_foldl_insert (hn : (es.map Prod.fst).Nodup) (m : HashMap κ ν) (k : κ) :
    (es.foldl (fun m e => m.insert e.1 e.2) m).get? k =
      ((es.find? (fun e => e.1 = k)).map Prod.snd).or (m.get? k) := by
  induction es generalizing m with
  | nil => simp
  | cons e es ih => grind

theorem mem_collect : k ∈ collect es ↔ k ∈ es.map Prod.fst := by
  suffices h : ∀ m : HashMap κ ν, k ∈ es.foldl (fun m e => m.insert e.1 e.2) m ↔
      k ∈ m ∨ k ∈ es.map Prod.fst by
    rw [collect, h]
    simp
  induction es with
  | nil => simp
  | cons e es ih => grind

theorem get?_collect (hn : (es.map Prod.fst).Nodup) :
    (collect es).get? k = some v ↔ (k, v) ∈ es := by
  rw [collect, get?_foldl_insert hn]
  simp only [AList.get?_empty, Option.or_none, Option.map_eq_some_iff]
  constructor
  · grind
  · intro hm
    have hs : (es.find? (fun e => e.1 = k)).isSome := by
      rw [List.find?_isSome]
      exact ⟨_, hm, by simp⟩
    obtain ⟨⟨a, b⟩, hf⟩ := Option.isSome_iff_exists.mp hs
    have hk := List.find?_some hf
    have hm' := List.mem_of_find?_eq_some hf
    simp only [decide_eq_true_eq] at hk
    subst a
    refine ⟨_, hf, ?_⟩
    exact congrArg Prod.snd (List.inj_on_of_nodup_map hn hm' hm rfl)

theorem get?_collect_zipIdx {l : List κ} {i : Nat} :
    (collect l.zipIdx).get? k = some i ↔ l[i]? = some k ∧ ∀ j, l[j]? = some k → j ≤ i := by
  induction l using List.reverseRecOn with
  | nil => simp [collect]
  | append_singleton l x ih => grind [collect]

end Library.HashMap
