import AdapterOS.Library.HashMap
import Mathlib.Data.List.DropRight
import Mathlib.Data.List.Infix

/-! The last elements of a growing list, and how often a word occurs in it. -/
namespace Library

section Last

variable {α : Type*} {l s : List α} {m n : Nat}

theorem length_rtake (l : List α) (n : Nat) : (l.rtake n).length = min n l.length := by
  rw [List.rtake, List.length_drop]
  omega

theorem rtake_suffix (l : List α) (n : Nat) : l.rtake n <:+ l := List.drop_suffix _ _

theorem eq_rtake (hs : s <:+ l) (hlen : s.length = min n l.length) : s = l.rtake n := by
  have hlen : s.length = (l.rtake n).length := by rw [hlen, length_rtake]
  exact (List.suffix_of_suffix_length_le hs (rtake_suffix l n) hlen.le).eq_of_length hlen

theorem rtake_rtake (h : m ≤ n) : (l.rtake n).rtake m = l.rtake m := by
  apply eq_rtake ((rtake_suffix _ m).trans (rtake_suffix l n))
  rw [length_rtake, length_rtake]
  omega

theorem rtake_rtake_append (l s : List α) (n : Nat) :
    (l.rtake n ++ s).rtake n = (l ++ s).rtake n := by
  have hsuffix : l.rtake n ++ s <:+ l ++ s := by
    obtain ⟨front, hfront⟩ := rtake_suffix l n
    exact ⟨front, by rw [← List.append_assoc, hfront]⟩
  grind [eq_rtake, rtake_suffix, length_rtake]

theorem suffix_rtake_iff (h : s.length ≤ n) : s <:+ l.rtake n ↔ s <:+ l := by
  constructor
  · intro hs
    exact hs.trans (rtake_suffix l n)
  · intro hs
    apply List.suffix_of_suffix_length_le hs (rtake_suffix l n)
    rw [length_rtake]
    exact le_min h hs.length_le

end Last

section Words

variable {α : Type*} [DecidableEq α] {g w : List α} {n : Nat}

/-- How often `g` starts in `w`; occurrences may overlap, and the empty word starts everywhere. -/
def occurrences (g w : List α) : Nat := w.tails.countP fun t => g <+: t

def factors (n : Nat) (w : List α) : List (List α) :=
  (List.range (w.length - n + 1)).map fun start => (w.drop start).take n

omit [DecidableEq α] in
theorem factors_cons {a : α} (h : n ≤ w.length) :
    factors n (a :: w) = (a :: w).take n :: factors n w := by
  have hlen : (a :: w).length - n + 1 = (w.length - n + 1) + 1 := by
    rw [List.length_cons]
    omega
  rw [factors, hlen, List.range_succ_eq_map, List.map_cons, List.map_map]
  rfl

omit [DecidableEq α] in
theorem length_of_mem_factors (hn : n ≤ w.length) (h : g ∈ factors n w) : g.length = n := by
  simp only [factors, List.mem_map, List.mem_range] at h
  obtain ⟨start, hstart, rfl⟩ := h
  rw [List.length_take, List.length_drop]
  omega

theorem occurrences_cons {a : α} :
    occurrences g (a :: w) = occurrences g w + if g <+: a :: w then 1 else 0 := by
  simp [occurrences, List.countP_cons]

theorem occurrences_eq_zero (h : w.length < g.length) : occurrences g w = 0 := by
  rw [occurrences, List.countP_eq_zero]
  intro t ht
  have hlen := ((List.mem_tails t w).mp ht).length_le
  intro hg
  have := (of_decide_eq_true hg).length_le
  omega

theorem count_factors (h : g.length ≤ w.length) :
    (factors g.length w).count g = occurrences g w := by
  induction w with
  | nil =>
    obtain rfl : g = [] := List.length_eq_zero_iff.mp (by simpa using h)
    simp [factors, occurrences]
  | cons a w ih =>
    grind [List.prefix_iff_eq_take, occurrences_cons, factors_cons, factors, occurrences_eq_zero]

end Words

section Counting

variable {κ : Type*} [DecidableEq κ] {l : List κ} {k : κ} {t : Nat}

def HashMap.tallyOf (l : List κ) : HashMap κ Nat :=
  l.foldl (fun counts k => counts.insert k ((counts.get? k).getD 0 + 1)) ∅

variable [BEq κ] [LawfulBEq κ]

theorem HashMap.get?_tallyOf (l : List κ) (k : κ) :
    (tallyOf l).get? k = if k ∈ l then some (l.count k) else none := by
  induction l using List.reverseRecOn with
  | nil => simp [tallyOf]
  | append_singleton l a ih => grind [tallyOf]

theorem lt_max?_iff {l : List Nat} : t < l.max?.getD 0 ↔ ∃ x ∈ l, t < x := by
  cases hmax : l.max? with
  | none => simp [List.max?_eq_none_iff.mp hmax]
  | some m => grind [List.max?_eq_some_iff]

theorem le_max? {l : List Nat} {x : Nat} (hx : x ∈ l) : x ≤ l.max?.getD 0 := by
  by_contra h
  exact lt_irrefl _ (lt_max?_iff.mpr ⟨x, hx, not_le.mp h⟩)

theorem HashMap.lt_max_tallyOf :
    t < ((tallyOf l).items.map Prod.snd).max?.getD 0 ↔ ∃ k, t < l.count k := by
  rw [lt_max?_iff]
  constructor
  · grind [AList.mem_items, get?_tallyOf]
  · rintro ⟨k, ht⟩
    have hk : k ∈ l := List.count_pos_iff.mp (by omega)
    refine ⟨l.count k, List.mem_map.mpr ⟨(k, l.count k), ?_, rfl⟩, ht⟩
    rw [AList.mem_items, get?_tallyOf, if_pos hk]

end Counting

end Library
