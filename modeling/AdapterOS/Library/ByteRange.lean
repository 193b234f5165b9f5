import Mathlib.Algebra.BigOperators.Group.List.Basic
import Mathlib.Algebra.Order.Ring.Nat

/-! Byte ranges, and how many ranges of a list cover a byte. Splitting, merging and reordering
ranges leave the count alone, and a count of at most one is pairwise disjointness. -/
namespace Library

structure ByteRange where
  offset : Nat
  size : Nat
  deriving DecidableEq, Repr

namespace ByteRange

variable {r t : ByteRange} {rs ts : List ByteRange} {b : Nat}

def stop (r : ByteRange) : Nat := r.offset + r.size

@[simp] theorem stop_mk (offset size : Nat) : stop ⟨offset, size⟩ = offset + size := rfl

def Covers (r : ByteRange) (b : Nat) : Prop := r.offset ≤ b ∧ b < r.stop

def Disjoint (r t : ByteRange) : Prop := ∀ b, ¬ (r.Covers b ∧ t.Covers b)

def cover (b : Nat) (r : ByteRange) : Nat := if r.offset ≤ b ∧ b < r.stop then 1 else 0

def coverage (b : Nat) (rs : List ByteRange) : Nat := (rs.map (cover b)).sum

@[simp] theorem coverage_nil : coverage b [] = 0 := rfl

@[simp] theorem coverage_cons : coverage b (r :: rs) = cover b r + coverage b rs := by
  simp [coverage]

@[simp] theorem coverage_append : coverage b (rs ++ ts) = coverage b rs + coverage b ts := by
  simp [coverage]

theorem coverage_perm (h : rs.Perm ts) : coverage b rs = coverage b ts :=
  (h.map (cover b)).sum_eq

theorem cover_split (b offset size rest : Nat) :
    cover b ⟨offset, size⟩ + cover b ⟨offset + size, rest⟩ = cover b ⟨offset, size + rest⟩ := by
  unfold cover stop
  by_cases hb : b < offset + size
  · grind
  · grind

theorem cover_le_one : cover b r ≤ 1 := by
  unfold cover
  split <;> omega

theorem cover_of_size_zero {offset : Nat} : cover b ⟨offset, 0⟩ = 0 := by
  have hb : ¬ (offset ≤ b ∧ b < stop ⟨offset, 0⟩) := by
    rw [stop_mk]
    omega
  exact if_neg hb

theorem coverage_keep (rs : List ByteRange) (offset size : Nat) :
    coverage b (if size > 0 then rs ++ [⟨offset, size⟩] else rs) =
      coverage b rs + cover b ⟨offset, size⟩ := by
  split
  · simp
  · obtain rfl : size = 0 := by omega
    rw [cover_of_size_zero, Nat.add_zero]

theorem mem_keep {offset size : Nat} (h : r ∈ if size > 0 then rs ++ [⟨offset, size⟩] else rs) :
    r ∈ rs ∨ r = ⟨offset, size⟩ := by
  split at h
  · simpa using h
  · exact Or.inl h

theorem coverage_eq_zero (h : ∀ r ∈ rs, ¬ r.Covers b) : coverage b rs = 0 := by
  induction rs with
  | nil => rfl
  | cons r rs ih =>
    have hr : cover b r = 0 := if_neg (h r (by simp))
    rw [coverage_cons, hr, ih (fun t ht => h t (by simp [ht]))]

theorem coverage_pos (hr : r ∈ rs) (hb : r.Covers b) : 0 < coverage b rs := by
  have hone : cover b r = 1 := if_pos hb
  obtain ⟨front, back, rfl⟩ := List.append_of_mem hr
  rw [coverage_append, coverage_cons]
  omega

theorem pairwise_disjoint (h : ∀ b, coverage b rs ≤ 1) : rs.Pairwise Disjoint := by
  induction rs with
  | nil => exact .nil
  | cons r rs ih =>
    refine List.pairwise_cons.mpr ⟨?_, ih ?_⟩
    · rintro t ht b ⟨hr, hb⟩
      have hone : cover b r = 1 := if_pos hr
      have hpos := coverage_pos ht hb
      have hle := h b
      rw [coverage_cons] at hle
      omega
    · intro b
      have hle := h b
      rw [coverage_cons] at hle
      omega

end ByteRange

end Library
