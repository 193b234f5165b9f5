import Mathlib.Algebra.BigOperators.Group.List.Basic
import Mathlib.Algebra.Order.Ring.Nat
import Mathlib.Data.List.Nodup

/-! A cache of bounded length that gives up its least recently used entry, and what its operations
do to a weight that is summed over the entries. -/
namespace Library

universe u v

section Lists

variable {α : Type u} {p : α → Bool} {l : List α} {a : α}

theorem perm_cons_eraseP (h : l.find? p = some a) : (a :: l.eraseP p).Perm l := by
  induction l with
  | nil => cases h
  | cons b l ih =>
    by_cases hb : p b
    · rw [List.find?_cons_of_pos hb] at h
      cases h
      rw [List.eraseP_cons_of_pos hb]
    · rw [List.find?_cons_of_neg hb] at h
      rw [List.eraseP_cons_of_neg hb]
      exact (List.Perm.swap b a _).trans ((ih h).cons b)

theorem eraseP_eq_self (h : l.find? p = none) : l.eraseP p = l :=
  List.eraseP_of_forall_not fun a ha => List.find?_eq_none.mp h a ha

theorem perm_cons_dropLast (h : l.getLast? = some a) : (a :: l.dropLast).Perm l := by
  conv_rhs => rw [← List.dropLast_append_getLast? a h]
  exact (List.perm_append_singleton a _).symm

end Lists

/-- The entries, most recently used first, under different keys. -/
structure Lru (κ : Type u) (ν : Type v) where
  entries : List (κ × ν)
  capacity : Nat
  capacity_pos : 0 < capacity
  nodup : (entries.map Prod.fst).Nodup
  length_le : entries.length ≤ capacity

namespace Lru

variable {κ : Type u} {ν : Type v} {c : Lru κ ν} {k : κ} {v : ν} {e : κ × ν} {f : κ × ν → Nat}

def new (capacity : Nat) (h : 0 < capacity) : Lru κ ν :=
  ⟨[], capacity, h, List.nodup_nil, Nat.zero_le _⟩

/-- What is left of a cache. -/
def keep (c : Lru κ ν) (rest : List (κ × ν)) (h : rest.Sublist c.entries) : Lru κ ν where
  entries := rest
  capacity := c.capacity
  capacity_pos := c.capacity_pos
  nodup := (h.map _).nodup c.nodup
  length_le := Nat.le_trans h.length_le c.length_le

/-- What is left of a cache behind a new first entry. -/
def attach (c : Lru κ ν) (k : κ) (v : ν) (rest : List (κ × ν)) (h : rest.Sublist c.entries)
    (hk : k ∉ rest.map Prod.fst) (hroom : rest.length < c.capacity) : Lru κ ν where
  entries := (k, v) :: rest
  capacity := c.capacity
  capacity_pos := c.capacity_pos
  nodup := List.nodup_cons.mpr ⟨hk, (h.map _).nodup c.nodup⟩
  length_le := hroom

theorem notMem_of_perm {rest : List (κ × ν)} (h : (e :: rest).Perm c.entries) :
    e.1 ∉ rest.map Prod.fst := by
  have hnodup := (h.map Prod.fst).nodup_iff.mpr c.nodup
  exact (List.nodup_cons.mp hnodup).1

theorem length_lt_of_perm {rest : List (κ × ν)} (h : (e :: rest).Perm c.entries) :
    rest.length < c.capacity :=
  Nat.lt_of_lt_of_le (Nat.lt_succ_self _) (Nat.le_trans (Nat.le_of_eq h.length_eq) c.length_le)

def clear (c : Lru κ ν) : Lru κ ν := c.keep [] (List.nil_sublist _)

def popLru (c : Lru κ ν) : Option (κ × ν) × Lru κ ν :=
  (c.entries.getLast?, c.keep c.entries.dropLast (List.dropLast_sublist _))

variable [DecidableEq κ]

def find? (c : Lru κ ν) (k : κ) : Option (κ × ν) := c.entries.find? (·.1 = k)

theorem of_find?_some (h : c.find? k = some e) : e ∈ c.entries ∧ e.1 = k :=
  ⟨List.mem_of_find?_eq_some h, by simpa using List.find?_some h⟩

theorem notMem_of_find?_none (h : c.find? k = none) : k ∉ c.entries.map Prod.fst := by
  intro hk
  obtain ⟨e, he, rfl⟩ := List.mem_map.mp hk
  have hne := List.find?_eq_none.mp h e he
  simp at hne

theorem find?_of_mem (h : e ∈ c.entries) : c.find? e.1 = some e := by
  cases hf : c.find? e.1 with
  | none => exact absurd (List.mem_map_of_mem h) (notMem_of_find?_none hf)
  | some d =>
    obtain ⟨hd, hkey⟩ := of_find?_some hf
    rw [List.inj_on_of_nodup_map c.nodup hd h hkey]

def rest (c : Lru κ ν) (k : κ) : List (κ × ν) := c.entries.eraseP (·.1 = k)

theorem rest_sublist (c : Lru κ ν) (k : κ) : (c.rest k).Sublist c.entries := List.eraseP_sublist

theorem perm_cons_rest (h : c.find? k = some e) : (e :: c.rest k).Perm c.entries :=
  perm_cons_eraseP h

theorem key_notMem_rest (h : c.find? k = some e) : k ∉ (c.rest k).map Prod.fst := by
  have hk := notMem_of_perm (perm_cons_rest h)
  rwa [(of_find?_some h).2] at hk

theorem mem_rest {d : κ × ν} (h : d ∈ c.entries) (hne : d.1 ≠ k) : d ∈ c.rest k :=
  (List.mem_eraseP_of_neg (by simpa using hne)).mpr h

def pop (c : Lru κ ν) (k : κ) : Option ν × Lru κ ν :=
  ((c.find? k).map Prod.snd, c.keep (c.rest k) (c.rest_sublist k))

theorem pop_of_mem (h : e ∈ c.entries) : (c.pop e.1).1 = some e.2 := by
  rw [pop, find?_of_mem h]
  rfl

def get (c : Lru κ ν) (k : κ) : Option ν × Lru κ ν :=
  match h : c.find? k with
  | none => (none, c)
  | some e => (some e.2, c.attach k e.2 (c.rest k) (c.rest_sublist k) (key_notMem_rest h)
      (length_lt_of_perm (perm_cons_rest h)))

/-- The entry that had the key, or that had to make room, is handed back. -/
def push (c : Lru κ ν) (k : κ) (v : ν) : Option (κ × ν) × Lru κ ν :=
  match h : c.find? k with
  | some e => (some (k, e.2), c.attach k v (c.rest k) (c.rest_sublist k) (key_notMem_rest h)
      (length_lt_of_perm (perm_cons_rest h)))
  | none =>
    if hroom : c.entries.length < c.capacity then
      (none, c.attach k v c.entries (List.Sublist.refl _) (notMem_of_find?_none h) hroom)
    else
      (c.entries.getLast?, c.attach k v c.entries.dropLast (List.dropLast_sublist _)
        (fun hk => notMem_of_find?_none h ((List.dropLast_sublist _).map _ |>.subset hk)) (by
          have hpos := c.capacity_pos
          have hle := c.length_le
          rw [List.length_dropLast]
          omega))

def weight (f : κ × ν → Nat) (c : Lru κ ν) : Nat := (c.entries.map f).sum

section Weight

omit [DecidableEq κ] in
theorem weight_of_perm {l : List (κ × ν)} (h : (e :: l).Perm c.entries) :
    f e + (l.map f).sum = weight f c := by
  rw [weight, ← (h.map f).sum_eq, List.map_cons, List.sum_cons]

omit [DecidableEq κ] in
omit [DecidableEq κ] in
theorem weight_popLru (c : Lru κ ν) : c.popLru.1.elim 0 f + weight f c.popLru.2 = weight f c := by
  cases h : c.entries.getLast? with
  | none =>
    have hnil := List.getLast?_eq_none_iff.mp h
    simp [popLru, weight, keep, hnil]
  | some e =>
    have hw := @weight_of_perm _ _ c e f _ (perm_cons_dropLast h)
    simpa [popLru, weight, keep, h] using hw

variable {g : ν → Nat}

theorem weight_pop (c : Lru κ ν) (k : κ) :
    (c.pop k).1.elim 0 g + weight (fun e => g e.2) (c.pop k).2 = weight (fun e => g e.2) c := by
  cases h : c.find? k with
  | none =>
    have hself : c.rest k = c.entries := eraseP_eq_self h
    simp [pop, weight, keep, h, hself]
  | some e =>
    have hw := @weight_of_perm _ _ c e (fun e => g e.2) _ (perm_cons_rest h)
    simpa [pop, weight, keep, h] using hw

theorem weight_get (c : Lru κ ν) (k : κ) :
    weight (fun e => g e.2) (c.get k).2 = weight (fun e => g e.2) c := by
  unfold get
  split
  · rfl
  · rename_i e h
    have hw := @weight_of_perm _ _ c e (fun e => g e.2) _ (perm_cons_rest h)
    simpa [weight, attach] using hw

theorem weight_push (c : Lru κ ν) (k : κ) (v : ν) :
    (c.push k v).1.elim 0 (fun e => g e.2) + weight (fun e => g e.2) (c.push k v).2 =
      weight (fun e => g e.2) c + g v := by
  unfold push
  split
  · rename_i e h
    have hw := @weight_of_perm _ _ c e (fun e => g e.2) _ (perm_cons_rest h)
    rw [← hw]
    simp only [Option.elim_some, weight, attach, List.map_cons, List.sum_cons]
    omega
  · split
    · simp only [Option.elim_none, weight, attach, List.map_cons, List.sum_cons]
      omega
    · have hw := @weight_popLru _ _ (fun e => g e.2) c
      rw [← hw]
      simp only [weight, attach, popLru, keep, List.map_cons, List.sum_cons]
      omega

end Weight

end Lru

end Library
