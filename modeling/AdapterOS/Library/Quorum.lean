import Mathlib.Data.List.Nodup
import Mathlib.Data.List.Perm.Subperm

/-! Votes of the members of a group, and when more than half of them have approved. -/
namespace Library

/-- A vote as it is cast; the voter need not be a member. -/
structure Ballot (α : Type*) where
  voter : α
  approve : Bool
  deriving DecidableEq

variable {α : Type*} [DecidableEq α] {members : List α} {cast cast' : List (Ballot α)} {m : α}

def approving (members : List α) (cast : List (Ballot α)) : List α :=
  members.filter fun m => ⟨m, true⟩ ∈ cast

def Majority (members : List α) (cast : List (Ballot α)) : Prop :=
  members.length < 2 * (approving members cast).length

instance : Decidable (Majority members cast) := inferInstanceAs (Decidable (_ < _))

theorem mem_approving : m ∈ approving members cast ↔ m ∈ members ∧ ⟨m, true⟩ ∈ cast := by
  rw [approving, List.mem_filter, decide_eq_true_eq]

theorem approving_nodup (hm : members.Nodup) : (approving members cast).Nodup := hm.filter _

theorem approving_subperm (hm : members.Nodup) (cast : List (Ballot α)) :
    ((approving members cast).map fun m => (⟨m, true⟩ : Ballot α)).Subperm cast := by
  refine List.subperm_of_subset ((approving_nodup hm).map ?_) ?_
  · intro m m' h
    exact congrArg Ballot.voter h
  · intro b hb
    obtain ⟨m, hmem, rfl⟩ := List.mem_map.mp hb
    exact (mem_approving.mp hmem).2

theorem length_approving_le (hm : members.Nodup) (cast : List (Ballot α)) :
    (approving members cast).length ≤ cast.length := by
  have h := (approving_subperm hm cast).length_le
  rwa [List.length_map] at h

/-- As many members have approved as votes were cast, just when each vote is an approval of a member
that has cast no other. -/
theorem length_approving_eq_iff (hm : members.Nodup) :
    (approving members cast).length = cast.length ↔
      (∀ b ∈ cast, b.approve = true ∧ b.voter ∈ members) ∧ (cast.map Ballot.voter).Nodup := by
  constructor
  · intro h
    have hperm : ((approving members cast).map fun m => (⟨m, true⟩ : Ballot α)).Perm cast := by
      refine (approving_subperm hm cast).perm_of_length_le (Nat.le_of_eq ?_)
      rw [List.length_map, h]
    refine ⟨?_, ?_⟩
    · intro b hb
      obtain ⟨m, hmem, rfl⟩ := List.mem_map.mp (hperm.mem_iff.mpr hb)
      exact ⟨rfl, (mem_approving.mp hmem).1⟩
    · rw [← (hperm.map Ballot.voter).nodup_iff, List.map_map]
      exact (List.map_id _).symm ▸ approving_nodup hm
  · rintro ⟨hall, hnodup⟩
    refine Nat.le_antisymm (length_approving_le hm cast) ?_
    have hsub : (cast.map Ballot.voter).Subperm (approving members cast) := by
      refine List.subperm_of_subset hnodup ?_
      intro m hmem
      obtain ⟨b, hb, rfl⟩ := List.mem_map.mp hmem
      obtain ⟨happrove, hmember⟩ := hall b hb
      refine mem_approving.mpr ⟨hmember, ?_⟩
      rw [← happrove]
      exact hb
    have hlength := hsub.length_le
    rwa [List.length_map] at hlength

theorem Majority.mono (h : Majority members cast) (hsub : cast ⊆ cast') :
    Majority members cast' := by
  have hle : (approving members cast).length ≤ (approving members cast').length := by
    refine (List.monotone_filter_right members ?_).length_le
    intro m hmem
    rw [decide_eq_true_eq] at hmem ⊢
    exact hsub hmem
  unfold Majority at h ⊢
  omega

theorem Majority.half_lt (hm : members.Nodup) (h : Majority members cast) :
    members.length / 2 < cast.length := by
  have hle := length_approving_le hm cast
  unfold Majority at h
  omega

theorem majority_iff_of_length (hm : members.Nodup)
    (hlength : cast.length = members.length / 2 + 1) :
    Majority members cast ↔
      (∀ b ∈ cast, b.approve = true ∧ b.voter ∈ members) ∧ (cast.map Ballot.voter).Nodup := by
  rw [← length_approving_eq_iff hm]
  have hle := length_approving_le hm cast
  unfold Majority
  omega

end Library
