import Mathlib.Data.List.Perm.Lattice

/-! A table of records with secondary indexes: under a value, an index has the keys of the records
that have the value. -/
namespace Library

variable {ι κ ρ ω : Type*} {value : ι → ρ → Option ω} {records records' : κ → Option ρ}
  {indexed indexed' : ι → ω → κ → Prop} {n : ι} {v : ω} {k : κ} {ids : List κ} {all : List ρ}

def IndexExact (value : ι → ρ → Option ω) (records : κ → Option ρ)
    (indexed : ι → ω → κ → Prop) : Prop :=
  ∀ n v k, indexed n v k ↔ ∃ a, records k = some a ∧ value n a = some v

theorem IndexExact.change (h : IndexExact value records indexed)
    (hrecords : ∀ j, j ≠ k → records' j = records j)
    (hindexed : ∀ n v j, j ≠ k → (indexed' n v j ↔ indexed n v j))
    (hat : ∀ n v, indexed' n v k ↔ ∃ a, records' k = some a ∧ value n a = some v) :
    IndexExact value records' indexed' := by
  intro n v j
  by_cases hj : j = k
  · rw [hj]
    exact hat n v
  · rw [hindexed n v j hj, hrecords j hj]
    exact h n v j

theorem IndexExact.loaded_perm [DecidableEq ω] (h : IndexExact value records indexed)
    (keyOf : ρ → κ) (hkey : ∀ k a, records k = some a → keyOf a = k) (hids : ids.Nodup)
    (hmem : ∀ k, k ∈ ids ↔ indexed n v k) (hall : all.Nodup)
    (hin : ∀ a, a ∈ all ↔ ∃ k, records k = some a) :
    (ids.filterMap records).Perm (all.filter fun a => value n a = some v) := by
  have hnodup : (ids.filterMap records).Nodup := by
    refine hids.filterMap ?_
    intro j k a hj hk
    rw [Option.mem_def] at hj hk
    rw [← hkey j a hj, ← hkey k a hk]
  rw [List.perm_ext_iff_of_nodup hnodup (hall.filter _)]
  intro a
  rw [List.mem_filterMap, List.mem_filter, hin, decide_eq_true_eq]
  constructor
  · rintro ⟨k, hk, ha⟩
    obtain ⟨a', ha', hvalue⟩ := (h n v k).mp ((hmem k).mp hk)
    rw [ha, Option.some.injEq] at ha'
    exact ⟨⟨k, ha⟩, ha' ▸ hvalue⟩
  · rintro ⟨⟨k, ha⟩, hvalue⟩
    exact ⟨k, (hmem k).mpr ((h n v k).mpr ⟨a, ha, hvalue⟩), ha⟩

theorem head?_of_perm_filter {loaded : List ρ} {p : ρ → Bool} (h : loaded.Perm (all.filter p)) :
    (∀ a, loaded.head? = some a → a ∈ all ∧ p a) ∧ (loaded.head?.isSome ↔ ∃ a ∈ all, p a) := by
  refine ⟨?_, ?_⟩
  · intro a ha
    have hmem := h.mem_iff.mp (List.mem_of_mem_head? ha)
    exact List.mem_filter.mp hmem
  · have hsome : loaded.head?.isSome ↔ ∃ a, a ∈ loaded := by
      rw [List.isSome_head?]
      exact ⟨List.exists_mem_of_ne_nil loaded, fun ⟨_, ha⟩ => List.ne_nil_of_mem ha⟩
    rw [hsome]
    refine exists_congr ?_
    intro a
    rw [h.mem_iff, List.mem_filter]

end Library
