import AdapterOS.Library.Run
import AdapterOS.Storage.IndexMaintenance

/-! The query by tenant and state. Its index has a colon inside the value, and the id is read off
after the third colon of a key. -/
namespace AdapterOS.Storage

open Library

namespace AdapterRepository

variable {o : Iteration String} {kv : KvBackend} {adapter : AdapterKv} {c : Call}
  {calls : List Call} {t : String}

def Call.KeyColonFree : Call → Prop
  | .create adapter | .update adapter => ColonFree adapter.keyId
  | .delete _ _ => True

instance : DecidablePred Call.KeyColonFree
  | .create adapter => inferInstanceAs (Decidable (ColonFree adapter.keyId))
  | .update adapter => inferInstanceAs (Decidable (ColonFree adapter.keyId))
  | .delete _ _ => inferInstanceAs (Decidable True)

theorem wellShaped_create (h : WellShaped kv) (hkey : ColonFree adapter.keyId) :
    WellShaped (create adapter kv).1 := by
  unfold create
  dsimp only
  split_ifs
  · exact h
  · exact (h.insert (.adapter adapter hkey)).updateIndexes hkey

theorem wellShaped_update (h : WellShaped kv) (hkey : ColonFree adapter.keyId) :
    WellShaped (update adapter kv).1 := by
  unfold update
  split
  · exact h
  · split
    · exact h
    · dsimp only
      refine WellShaped.updateIndexes ?_ hkey
      have hinsert := h.insert (.adapter adapter hkey)
      split_ifs
      · exact hinsert.erase _
      · exact hinsert

theorem wellShaped_delete (h : WellShaped kv) (t id : String) :
    WellShaped (delete o t id kv).1 := by
  unfold delete
  split
  · exact h
  · exact h
  · next a _ =>
    dsimp only
    have herased : WellShaped (if a.legacyPrimaryKey ≠ a.primaryKey then
        (kv.erase a.primaryKey).erase a.legacyPrimaryKey else kv.erase a.primaryKey) := by
      split_ifs
      · exact (h.erase _).erase _
      · exact h.erase _
    generalize (if a.legacyPrimaryKey ≠ a.primaryKey then
      (kv.erase a.primaryKey).erase a.legacyPrimaryKey else kv.erase a.primaryKey) = kv'
      at herased ⊢
    split_ifs
    · exact herased.removeFromIndexes
    · exact herased

theorem wellShaped_step (h : WellShaped kv) (hc : c.KeyColonFree) : WellShaped (step o kv c) := by
  cases c with
  | create adapter => exact wellShaped_create h hc
  | update adapter => exact wellShaped_update h hc
  | delete t id => exact wellShaped_delete h t id

theorem wellShaped_run (o : Iteration String) (hcalls : ∀ c ∈ calls, c.KeyColonFree) :
    WellShaped (run (step o) ∅ calls) :=
  run_invariant_of_forall (fun _ _ h hc => wellShaped_step h hc) wellShaped_empty hcalls

theorem listByState_eq_nil (h : WellShaped kv) (ht : ColonFree t) (s : String) :
    listByState o t s kv = [] := by
  unfold listByState loadAdapters
  rw [List.filterMap_eq_nil_iff]
  intro id hid
  rw [queryIndex, List.mem_filterMap] at hid
  obtain ⟨key, hkey, hentity⟩ := hid
  obtain ⟨-, rest, hrest⟩ := mem_scanPrefix.mp hkey
  have hcolon : ":".toList = [':'] := by decide
  have htext : key.toList = "index".toList ++ ':' :: (AdapterIndex.byTenantState.name.toList ++
        ':' :: (t.toList ++ ':' :: (s.toList ++ ':' :: rest))) := by
    rw [← hrest, toList_indexPrefix]
    simp only [String.toList_append, hcolon, List.append_assoc, List.cons_append, List.nil_append]
  rw [entityOf_eq (AdapterIndex.colonFree_name _) ht htext, Option.some.injEq] at hentity
  cases ha : record kv id with
  | none => exact ha
  | some a =>
    have hfree := h.colonFree ha
    grind [ColonFree, String.toList_ofList]

/-- After any calls the query answers rightly just when it has nothing to find. -/
theorem listByState_exact_iff (o : Iteration String) (hcalls : ∀ c ∈ calls, c.KeyColonFree)
    (ht : ColonFree t) (s : String) :
    (listByState o t s (run (step o) ∅ calls)).Perm
        ((allStored o (run (step o) ∅ calls)).filter fun a => a.tenantId = t ∧ a.currentState = s) ↔
      ∀ a ∈ allStored o (run (step o) ∅ calls), ¬ (a.tenantId = t ∧ a.currentState = s) := by
  rw [listByState_eq_nil (wellShaped_run o hcalls) ht s, List.nil_perm, List.filter_eq_nil_iff]
  simp only [decide_eq_true_eq]

def sampleAdapter : AdapterKv where
  id := "uuid-1"
  tenantId := "tenant-a"
  tier := "warm"
  hashB3 := "h1"
  adapterId := some "adapter-123"
  active := 1
  currentState := "unloaded"
  pinned := 0
  parentId := none
  lifecycleState := "active"
  contentHashB3 := some "c1"

theorem listByState_of_other_tenant : ColonFree "tenant-b" ∧
      (listByState .asListed "tenant-b" "unloaded"
          (run (step .asListed) ∅ [.create sampleAdapter])).Perm
        ((allStored .asListed (run (step .asListed) ∅ [.create sampleAdapter])).filter
          fun a => a.tenantId = "tenant-b" ∧ a.currentState = "unloaded") :=
  ⟨by decide, (listByState_exact_iff .asListed (by decide) (by decide) "unloaded").mpr
    (by decide)⟩

/-- The only adapter is not in the list of its own tenant and state. -/
theorem listByState_misses_adapter :
    (∀ c ∈ [Call.create sampleAdapter], c.KeyColonFree) ∧ ColonFree "tenant-a" ∧
      allStored .asListed (run (step .asListed) ∅ [.create sampleAdapter]) = [sampleAdapter] ∧
      listByState .asListed "tenant-a" "unloaded"
        (run (step .asListed) ∅ [.create sampleAdapter]) = [] ∧
      ¬ (listByState .asListed "tenant-a" "unloaded"
          (run (step .asListed) ∅ [.create sampleAdapter])).Perm
        ((allStored .asListed (run (step .asListed) ∅ [.create sampleAdapter])).filter
          fun a => a.tenantId = "tenant-a" ∧ a.currentState = "unloaded") := by
  have hcalls : ∀ c ∈ [Call.create sampleAdapter], c.KeyColonFree := by decide
  have hfree : ColonFree "tenant-a" := by decide
  have hall : allStored .asListed (run (step .asListed) ∅ [.create sampleAdapter]) =
      [sampleAdapter] := by
    decide
  have hnil :=
    listByState_eq_nil (o := .asListed) (wellShaped_run .asListed hcalls) hfree "unloaded"
  refine ⟨hcalls, hfree, hall, hnil, ?_⟩
  rw [hall, hnil]
  decide

end AdapterRepository

end AdapterOS.Storage
