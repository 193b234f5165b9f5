import AdapterOS.Library.SecondaryIndex
import AdapterOS.Storage.StateQuery

/-! The queries by one field. They are right as long as the indexes have what the records say. -/
namespace AdapterOS.Storage

open Library

def AdapterKv.texts (a : AdapterKv) : List String :=
  [a.id, a.tenantId, a.tier, a.hashB3, a.currentState, a.lifecycleState] ++ a.adapterId.toList ++
    a.parentId.toList ++ a.contentHashB3.toList

def AdapterKv.NoColon (a : AdapterKv) : Prop := ∀ text ∈ a.texts, ColonFree text

instance (a : AdapterKv) : Decidable a.NoColon :=
  inferInstanceAs (Decidable (∀ text ∈ a.texts, ColonFree text))

def AdapterIndex.Plain (n : AdapterIndex) : Prop :=
  n ≠ byTenantState ∧ n ≠ byActive ∧ n ≠ byPinned

instance (n : AdapterIndex) : Decidable n.Plain :=
  inferInstanceAs (Decidable (n ≠ .byTenantState ∧ n ≠ .byActive ∧ n ≠ .byPinned))

variable {o : Iteration String} {kv kv' : KvBackend} {n : AdapterIndex} {v e key : String}
  {a adapter old : AdapterKv}

theorem AdapterKv.NoColon.id (h : a.NoColon) : ColonFree a.id := by
  refine h _ ?_
  simp [AdapterKv.texts]

theorem AdapterKv.NoColon.keyId (h : a.NoColon) : ColonFree a.keyId := by
  unfold AdapterKv.keyId
  cases hid : a.adapterId with
  | none => exact h.id
  | some id =>
    refine h _ ?_
    simp [AdapterKv.texts, hid]

theorem AdapterKv.NoColon.value (h : a.NoColon) (hn : n.Plain) (hv : n.value a = some v) :
    ColonFree v := by
  refine h v ?_
  unfold AdapterKv.texts
  cases n with
  | byTenantState => exact absurd rfl hn.1
  | byActive => exact absurd rfl hn.2.1
  | byPinned => exact absurd rfl hn.2.2
  | _ =>
    simp only [AdapterIndex.value, Option.some.injEq] at hv
    simp [hv]

/-- The store is well shaped, each adapter is under its own id, and the indexes are exact. -/
structure Consistent (kv : KvBackend) : Prop where
  shape : WellShaped kv
  keyed : ∀ e a, record kv e = some a → a.keyId = e ∧ a.NoColon
  exact : IndexExact AdapterIndex.value (record kv) (Indexed kv)

theorem consistent_empty : Consistent ∅ where
  shape := wellShaped_empty
  keyed := by
    intro e a h
    cases h
  exact := by
    intro n v e
    constructor
    · intro h
      exact absurd h.2 (AList.notMem_empty _)
    · rintro ⟨a, ha, -⟩
      cases ha

namespace Consistent

theorem shows_of_record (h : Consistent kv) (ha : record kv e = some a) (n : AdapterIndex) :
    Shows kv n e (n.value a) := by
  intro v
  rw [h.exact n v e, ha]
  simp

theorem shows_none (h : Consistent kv) (hnone : record kv e = none) (n : AdapterIndex) :
    Shows kv n e none := by
  intro v
  rw [h.exact n v e, hnone]
  simp

theorem colonFree_of_indexed (h : Consistent kv) (hn : n.Plain) (v e : String)
    (hindexed : Indexed kv n v e) : ColonFree v := by
  obtain ⟨a, ha, hv⟩ := (h.exact n v e).mp hindexed
  exact (h.keyed e a ha).2.value hn hv

theorem change (h : Consistent kv) (hshape : WellShaped kv')
    (hrecords : ∀ e', e' ≠ e → record kv' e' = record kv e')
    (hindexed : ∀ n v e', e' ≠ e → (Indexed kv' n v e' ↔ Indexed kv n v e'))
    (hkeyed : ∀ a, record kv' e = some a → a.keyId = e ∧ a.NoColon)
    (hshows : ∀ n, Shows kv' n e ((record kv' e).bind n.value)) : Consistent kv' where
  shape := hshape
  keyed := by
    intro e' a ha
    by_cases he : e' = e
    · subst he
      exact hkeyed a ha
    · rw [hrecords e' he] at ha
      exact h.keyed e' a ha
  exact := by
    refine h.exact.change hrecords hindexed ?_
    intro n v
    rw [hshows n v, Option.bind_eq_some_iff]

end Consistent

namespace AdapterRepository

section Queries

theorem mem_allStored (h : Consistent kv) : a ∈ allStored o kv ↔ ∃ e, record kv e = some a := by
  unfold allStored
  simp only [List.mem_filterMap, Iteration.mem_visit]
  constructor
  · rintro ⟨key, -, ha⟩
    cases hget : kv.get? key with
    | none => simp [stored?, hget] at ha
    | some value =>
      cases h.shape key value hget with
      | adapter a' he => exact ⟨_, ha⟩
      | entry n v he => simp [stored?, hget] at ha
  · rintro ⟨e, ha⟩
    have hget := h.shape.get?_adapterKey e
    rw [ha, Option.map_some] at hget
    exact ⟨adapterKey e, AList.mem_keys.mpr (AList.mem_of_get? hget), ha⟩

theorem nodup_allStored (h : Consistent kv) : (allStored o kv).Nodup := by
  have hkeys : (o.visit kv.keys).Nodup := (o.perm kv.keys).nodup_iff.mpr kv.keys_nodup
  have hkey : ∀ key a, stored? kv key = some a → key = adapterKey a.keyId := by
    intro key a ha
    cases hget : kv.get? key with
    | none => simp [stored?, hget] at ha
    | some value =>
      cases h.shape key value hget with
      | adapter a' he =>
        rw [(h.keyed _ a ha).1]
      | entry n v he => simp [stored?, hget] at ha
  refine hkeys.filterMap ?_
  intro key key' a ha ha'
  rw [hkey key a ha, hkey key' a ha']

theorem load_perm (h : Consistent kv) (hn : n.Plain) (v : String) :
    (loadAdapters (queryIndex o n.name v kv) kv).Perm
      ((allStored o kv).filter fun a => n.value a = some v) :=
  h.exact.loaded_perm AdapterKv.keyId (fun e a ha => (h.keyed e a ha).1)
    (h.shape.nodup_queryIndex (h.colonFree_of_indexed hn))
    (fun _ => h.shape.mem_queryIndex (h.colonFree_of_indexed hn)) (nodup_allStored h)
    (fun _ => mem_allStored h)

def Finds (found : Option AdapterKv) (all : List AdapterKv) (p : AdapterKv → Prop) : Prop :=
  (∀ a, found = some a → a ∈ all ∧ p a) ∧ (found.isSome ↔ ∃ a ∈ all, p a)

/-- The queries give what a scan of the stored adapters would give. -/
structure QueriesExact (o : Iteration String) (kv : KvBackend) : Prop where
  byTenant : ∀ t, (listByTenant o t kv).Perm ((allStored o kv).filter fun a => a.tenantId = t)
  byTier : ∀ t tier, (listByTier o t tier kv).Perm
    ((allStored o kv).filter fun a => a.tier = tier ∧ a.tenantId = t)
  byHash : ∀ hash, Finds (findByHash o hash kv) (allStored o kv) fun a => a.hashB3 = hash
  byContentHash : ∀ hash,
    Finds (findByContentHash o hash kv) (allStored o kv) fun a => a.contentHashB3 = some hash

theorem finds_of_perm {loaded all : List AdapterKv} {p : AdapterKv → Prop} [DecidablePred p]
    (h : loaded.Perm (all.filter fun a => p a)) : Finds loaded.head? all p := by
  have hhead := head?_of_perm_filter h
  simp only [decide_eq_true_eq] at hhead
  exact hhead

theorem queriesExact_of_consistent (h : Consistent kv) (o : Iteration String) :
    QueriesExact o kv where
  byTenant := by
    intro t
    have hload := load_perm (o := o) (n := .byTenant) h (by decide) t
    simp only [AdapterIndex.value, Option.some.injEq] at hload
    exact hload
  byTier := by
    intro t tier
    have hload := (load_perm (o := o) (n := .byTier) h (by decide) tier).filter
      fun a => a.tenantId = t
    rw [List.filter_filter] at hload
    simp only [AdapterIndex.value, Option.some.injEq] at hload
    simp only [Bool.decide_and, Bool.and_comm]
    exact hload
  byHash := by
    intro hash
    have hload := load_perm (o := o) (n := .byHash) h (by decide) hash
    simp only [AdapterIndex.value, Option.some.injEq] at hload
    exact finds_of_perm hload
  byContentHash := by
    intro hash
    exact finds_of_perm (load_perm (n := .byContentHash) h (by decide) hash)

end Queries

section Steps

theorem get_eq (h : Consistent kv) (t id : String) :
    get o t id kv = .ok ((record kv id).filter fun a => a.tenantId = t) := by
  have hget := h.shape.get?_adapterKey id
  have hfind : (candidateKeys o id kv).findSome? kv.get? = (record kv id).map .adapter := by
    unfold candidateKeys
    cases ha : record kv id with
    | some a => grind
    | none =>
      have hnil : queryIndex o AdapterIndex.byAdapterId.name id kv = [] := by
        rw [List.eq_nil_iff_forall_not_mem]
        intro e he
        rw [h.shape.mem_queryIndex (h.colonFree_of_indexed (by decide)), h.exact] at he
        obtain ⟨a, he, hid⟩ := he
        have hkey : a.keyId = id := by
          rw [AdapterKv.keyId, show a.adapterId = some id from hid, Option.getD_some]
        rw [← (h.keyed e a he).1, hkey, ha] at he
        cases he
      grind
  unfold get
  rw [hfind]
  cases record kv id with
  | none => rfl
  | some a =>
    by_cases ht : a.tenantId = t
    · simp [StoredValue.deserialize, ht, Option.filter, bind, Except.bind, pure, Except.pure]
    · simp [StoredValue.deserialize, ht, Option.filter, bind, Except.bind, pure, Except.pure]

theorem consistent_put {old : Option AdapterKv} (h : Consistent kv) (ha : adapter.NoColon)
    (hold : ∀ o, old = some o → o.keyId = adapter.keyId)
    (hshows : ∀ n, Shows
      (updateIndexes adapter old (kv.insert adapter.primaryKey (.adapter adapter)))
      n adapter.keyId (n.value adapter)) :
    Consistent (updateIndexes adapter old (kv.insert adapter.primaryKey (.adapter adapter))) := by
  have hkey := ha.keyId
  have hself : record (updateIndexes adapter old
      (kv.insert adapter.primaryKey (.adapter adapter))) adapter.keyId = some adapter := by
    rw [record_updateIndexes, AdapterKv.primaryKey, record_insert, if_pos rfl]
  refine h.change (e := adapter.keyId) ?_ ?_ ?_ ?_ ?_
  · exact (h.shape.insert (.adapter adapter hkey)).updateIndexes hkey
  · intro e he
    rw [record_updateIndexes, AdapterKv.primaryKey, record_insert, if_neg he]
  · intro n v e he
    rw [indexed_updateIndexes_ne hkey hold he]
    exact indexed_insert_adapterKey
  · intro a hrecord
    rw [hself, Option.some.injEq] at hrecord
    exact hrecord ▸ ⟨rfl, ha⟩
  · intro n
    rw [hself, Option.bind_some]
    exact hshows n

theorem consistent_create (h : Consistent kv) (ha : adapter.NoColon) :
    Consistent (create adapter kv).1 := by
  unfold create
  dsimp only
  split_ifs with hconflict
  · exact h
  · have hnone : record kv adapter.keyId = none := by
      have habsent : adapterKey adapter.keyId ∉ kv := fun hmem => hconflict (Or.inl hmem)
      have hget := h.shape.get?_adapterKey adapter.keyId
      rw [AList.get?_eq_none.mpr habsent] at hget
      exact Option.map_eq_none_iff.mp hget.symm
    refine consistent_put h ha ?_ (shows_updateIndexes_new ha.keyId ?_)
    · intro o ho
      cases ho
    · intro n v
      rw [AdapterKv.primaryKey, indexed_insert_adapterKey]
      exact h.shows_none hnone n v

theorem record_of_storedUnder (h : Consistent kv) (hkey : old.keyId = adapter.keyId)
    (hstored : storedUnder adapter kv = some (key, .adapter old)) :
    key = adapter.primaryKey ∧ record kv adapter.keyId = some old := by
  have hat : ∀ e, kv.get? (adapterKey e) = some (.adapter old) → record kv e = some old := by
    intro e hget
    simp [record, stored?, hget]
  obtain ⟨⟩ := h
  grind [storedUnder, Option.map_eq_some_iff, AdapterKv.legacyPrimaryKey, AdapterKv.primaryKey]

theorem consistent_update (h : Consistent kv) (ha : adapter.NoColon)
    (hkept : ∀ key old, storedUnder adapter kv = some (key, .adapter old) →
      old.id = adapter.id ∧ old.adapterId = adapter.adapterId ∧ KeepsFields old adapter) :
    Consistent (update adapter kv).1 := by
  unfold update
  cases hstored : storedUnder adapter kv with
  | none => exact h
  | some found =>
    obtain ⟨storedKey, value⟩ := found
    cases value with
    | one => exact h
    | adapter old =>
      obtain ⟨hid, hadapterId, hkeep⟩ := hkept storedKey old hstored
      have hkeyId : old.keyId = adapter.keyId := by
        rw [AdapterKv.keyId, AdapterKv.keyId, hid, hadapterId]
      obtain ⟨hkey, hrecord⟩ := record_of_storedUnder h hkeyId hstored
      simp only [StoredValue.deserialize, hkey, ne_eq, not_true_eq_false, if_false]
      refine consistent_put h ha ?_ (shows_updateIndexes ha.keyId hkeyId hadapterId hkeep ?_)
      · intro o ho
        cases ho
        exact hkeyId
      · intro n v
        rw [AdapterKv.primaryKey, indexed_insert_adapterKey]
        exact h.shows_of_record hrecord n v

def eraseKeys (a : AdapterKv) (kv : KvBackend) : KvBackend :=
  if a.legacyPrimaryKey ≠ a.primaryKey then (kv.erase a.primaryKey).erase a.legacyPrimaryKey
  else kv.erase a.primaryKey

theorem record_eraseKeys (hlegacy : a.id = a.keyId ∨ record kv a.id = none) (e : String) :
    record (eraseKeys a kv) e = if e = a.keyId then none else record kv e := by
  grind [eraseKeys, AdapterKv.legacyPrimaryKey, AdapterKv.primaryKey, record_erase]

theorem indexed_eraseKeys : Indexed (eraseKeys a kv) n v e ↔ Indexed kv n v e := by
  unfold eraseKeys AdapterKv.legacyPrimaryKey AdapterKv.primaryKey
  split_ifs
  · rw [indexed_erase_adapterKey, indexed_erase_adapterKey]
  · exact indexed_erase_adapterKey

theorem wellShaped_eraseKeys (h : WellShaped kv) : WellShaped (eraseKeys a kv) := by
  unfold eraseKeys
  split_ifs
  · exact (h.erase _).erase _
  · exact h.erase _

theorem mem_indexEntityIds : e ∈ a.indexEntityIds ↔ e = a.keyId ∨ e = a.id := by
  unfold AdapterKv.indexEntityIds
  split_ifs with hne
  · simp
  · rw [not_not] at hne
    rw [List.mem_singleton, hne, or_self]

theorem consistent_drop (h : Consistent kv) (hrecord : record kv a.keyId = some a)
    (hlegacy : a.id = a.keyId ∨ record kv a.id = none) :
    Consistent (removeFromIndexes a (eraseKeys a kv)) := by
  have hfree := (h.keyed a.keyId a hrecord).2
  have hids : ∀ e ∈ a.indexEntityIds, ColonFree e := by
    intro e he
    rcases mem_indexEntityIds.mp he with rfl | rfl
    · exact hfree.keyId
    · exact hfree.id
  have hgone : record (removeFromIndexes a (eraseKeys a kv)) a.keyId = none := by
    rw [record_removeFromIndexes, record_eraseKeys hlegacy, if_pos rfl]
  refine h.change (e := a.keyId) (wellShaped_eraseKeys h.shape).removeFromIndexes ?_ ?_ ?_ ?_
  · intro e he
    rw [record_removeFromIndexes, record_eraseKeys hlegacy, if_neg he]
  · intro n v e he
    rw [indexed_removeFromIndexes hids, indexed_eraseKeys]
    refine and_iff_right_of_imp ?_
    rintro hindexed ⟨hmem, -⟩
    obtain ⟨a', ha', -⟩ := (h.exact n v e).mp hindexed
    grind [mem_indexEntityIds]
  · intro a' ha'
    rw [hgone] at ha'
    cases ha'
  · intro n v
    rw [hgone, indexed_removeFromIndexes hids, indexed_eraseKeys, h.shows_of_record hrecord n v]
    simp [mem_indexEntityIds]

theorem consistent_delete (h : Consistent kv) {t id : String}
    (hlegacy : ∀ a, get o t id kv = .ok (some a) →
      a.legacyPrimaryKey = a.primaryKey ∨ a.legacyPrimaryKey ∉ kv) :
    Consistent (delete o t id kv).1 := by
  unfold delete
  cases hget : get o t id kv with
  | error e => exact h
  | ok found =>
    cases found with
    | none => exact h
    | some a =>
      have hrecord : record kv id = some a := by
        rw [get_eq h, Except.ok.injEq, Option.filter_eq_some_iff] at hget
        exact hget.1
      have hvalue := h.shape.get?_adapterKey id
      rw [hrecord, Option.map_some] at hvalue
      have hkey := (h.keyed id a hrecord).1
      rw [← hkey] at hrecord hvalue
      have hstored : a.primaryKey ∈ kv := AList.mem_of_get? hvalue
      have hnone : a.id = a.keyId ∨ record kv a.id = none := by
        rcases hlegacy a hget with hsame | habsent
        · exact Or.inl (adapterKey_inj.mp hsame)
        · have hlost : kv.get? (adapterKey a.id) = none := AList.get?_eq_none.mpr habsent
          rw [h.shape.get?_adapterKey a.id] at hlost
          exact Or.inr (Option.map_eq_none_iff.mp hlost)
      simp only [hstored, decide_true, Bool.true_or, if_true]
      exact consistent_drop h hrecord hnone

end Steps

section Runs

variable {c : Call} {calls : List Call}

def Call.NoColon : Call → Prop
  | .create adapter | .update adapter => adapter.NoColon
  | .delete _ _ => True

instance : DecidablePred Call.NoColon
  | .create adapter => inferInstanceAs (Decidable adapter.NoColon)
  | .update adapter => inferInstanceAs (Decidable adapter.NoColon)
  | .delete _ _ => inferInstanceAs (Decidable True)

def SameIds (kv : KvBackend) : Call → Prop
  | .update adapter => ∀ key old, storedUnder adapter kv = some (key, .adapter old) →
      old.id = adapter.id ∧ old.adapterId = adapter.adapterId
  | _ => True

/-- What the indexes rely on: an update keeps the tenant, the hash and that there is a content hash,
and a deletion finds nothing under the old key of the adapter but the adapter. -/
def IndexSafe (o : Iteration String) (kv : KvBackend) : Call → Prop
  | .create _ => True
  | .update adapter => ∀ key old, storedUnder adapter kv = some (key, .adapter old) →
      KeepsFields old adapter
  | .delete t id => ∀ a, get o t id kv = .ok (some a) →
      a.legacyPrimaryKey = a.primaryKey ∨ a.legacyPrimaryKey ∉ kv

theorem consistent_step (h : Consistent kv) (hfree : c.NoColon) (hids : SameIds kv c)
    (hsafe : IndexSafe o kv c) : Consistent (step o kv c) := by
  cases c with
  | create adapter => exact consistent_create h hfree
  | update adapter =>
    refine consistent_update h hfree ?_
    intro key old hstored
    obtain ⟨hid, hadapterId⟩ := hids key old hstored
    exact ⟨hid, hadapterId, hsafe key old hstored⟩
  | delete t id => exact consistent_delete h hsafe

/-- In every state of a run whose calls the indexes can follow, the queries are exact. -/
theorem queries_exact (o : Iteration String)
    (hcalls : Guarded (step o) (fun kv c => (c.NoColon ∧ SameIds kv c) ∧ IndexSafe o kv c) ∅
      calls) :
    Always (step o) (QueriesExact o) ∅ calls :=
  always_of_guarded (I := Consistent) (fun _ _ h hc => consistent_step h hc.1.1 hc.1.2 hc.2)
    (fun _ h => queriesExact_of_consistent h o) consistent_empty hcalls

def loadedAdapter : AdapterKv :=
  { sampleAdapter with currentState := "loaded", contentHashB3 := some "c2" }

def movedAdapter : AdapterKv := { sampleAdapter with tenantId := "tenant-b" }

theorem storedUnder_loadedAdapter :
    storedUnder loadedAdapter (step .asListed ∅ (.create sampleAdapter)) =
      some ("adapter:adapter-123", .adapter sampleAdapter) := by
  decide

theorem storedUnder_movedAdapter :
    storedUnder movedAdapter (step .asListed ∅ (.create sampleAdapter)) =
      some ("adapter:adapter-123", .adapter sampleAdapter) := by
  decide

theorem queries_exact_after_load : Always (step .asListed) (QueriesExact .asListed) ∅
      [.create sampleAdapter, .update loadedAdapter] := by
  refine queries_exact .asListed ⟨⟨⟨?_, trivial⟩, trivial⟩, ⟨⟨?_, ?_⟩, ?_⟩, trivial⟩
  · decide
  · decide
  · intro key old hstored
    rw [storedUnder_loadedAdapter] at hstored
    cases hstored
    decide
  · intro key old hstored
    rw [storedUnder_loadedAdapter] at hstored
    cases hstored
    exact ⟨rfl, rfl, by decide⟩

/-- The index by tenant does not follow the adapter to its new tenant. -/
theorem moved_adapter_not_listed : Guarded (step .asListed) (fun kv c => c.NoColon ∧ SameIds kv c) ∅
        [.create sampleAdapter, .update movedAdapter] ∧
      allStored .asListed (run (step .asListed) ∅ [.create sampleAdapter, .update movedAdapter]) =
        [movedAdapter] ∧
      listByTenant .asListed "tenant-b"
        (run (step .asListed) ∅ [.create sampleAdapter, .update movedAdapter]) = [] ∧
      ¬ QueriesExact .asListed
        (run (step .asListed) ∅ [.create sampleAdapter, .update movedAdapter]) := by
  have hall : allStored .asListed
      (run (step .asListed) ∅ [.create sampleAdapter, .update movedAdapter]) = [movedAdapter] := by
    decide +kernel
  have hnew : listByTenant .asListed "tenant-b"
      (run (step .asListed) ∅ [.create sampleAdapter, .update movedAdapter]) = [] := by
    decide +kernel
  refine ⟨⟨⟨?_, trivial⟩, ⟨?_, ?_⟩, trivial⟩, hall, hnew, ?_⟩
  · decide
  · decide
  · intro key old hstored
    rw [storedUnder_movedAdapter] at hstored
    cases hstored
    decide
  · intro h
    have hmoved := h.byTenant "tenant-b"
    rw [hall, hnew] at hmoved
    revert hmoved
    decide

end Runs

end AdapterRepository

end AdapterOS.Storage
