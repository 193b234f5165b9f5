import AdapterOS.Library.Encoding
import AdapterOS.Storage.AdapterRepository

/-! What the keys of the store say: the records and the index entries behind the texts. -/
namespace AdapterOS.Storage

open Library

def ColonFree (text : String) : Prop := ':' ∉ text.toList

instance (text : String) : Decidable (ColonFree text) :=
  inferInstanceAs (Decidable (':' ∉ text.toList))

section Texts

variable {name name' v v' e e' key : String} {rest : List Char}

theorem toList_indexKey (name v e : String) : (indexKey name v e).toList =
      "index".toList ++ ':' :: (name.toList ++ ':' :: (v.toList ++ ':' :: e.toList)) := by
  have htext : "index:".toList = "index".toList ++ [':'] := by decide
  have hcolon : ":".toList = [':'] := by decide
  simp only [indexKey, String.toList_append, htext, hcolon, List.append_assoc, List.cons_append,
    List.nil_append]

theorem toList_indexPrefix (name v : String) : (indexPrefix name v).toList =
      "index".toList ++ ':' :: (name.toList ++ ':' :: (v.toList ++ [':'])) := by
  have htext : "index:".toList = "index".toList ++ [':'] := by decide
  have hcolon : ":".toList = [':'] := by decide
  simp only [indexPrefix, String.toList_append, htext, hcolon, List.append_assoc, List.cons_append,
    List.nil_append]

theorem toList_adapterKey (e : String) :
    (adapterKey e).toList = "adapter".toList ++ ':' :: e.toList := by
  have htext : "adapter:".toList = "adapter".toList ++ [':'] := by decide
  simp only [adapterKey, String.toList_append, htext, List.append_assoc, List.cons_append,
    List.nil_append]

theorem colon_notMem_index : ':' ∉ "index".toList := by decide

theorem colon_notMem_adapter : ':' ∉ "adapter".toList := by decide

theorem indexKey_inj (hname : ColonFree name) (hname' : ColonFree name') (he : ColonFree e)
    (he' : ColonFree e') (h : indexKey name v e = indexKey name' v' e') :
    name = name' ∧ v = v' ∧ e = e' := by
  have htext := congrArg String.toList h
  rw [toList_indexKey, toList_indexKey] at htext
  obtain ⟨-, hafter⟩ := sep_append_inj colon_notMem_index colon_notMem_index htext
  obtain ⟨hn, hrest⟩ := sep_append_inj hname hname' hafter
  obtain ⟨hv, hid⟩ := append_sep_inj he he' hrest
  exact ⟨String.toList_inj.mp hn, String.toList_inj.mp hv, String.toList_inj.mp hid⟩

theorem adapterKey_inj : adapterKey e = adapterKey e' ↔ e = e' := by
  refine ⟨?_, congrArg adapterKey⟩
  intro h
  have htext := congrArg String.toList h
  rw [toList_adapterKey, toList_adapterKey] at htext
  exact String.toList_inj.mp (sep_append_inj colon_notMem_adapter colon_notMem_adapter htext).2

theorem adapterKey_ne_indexKey : adapterKey e ≠ indexKey name v e' := by
  intro h
  have htext := congrArg String.toList h
  rw [toList_adapterKey, toList_indexKey] at htext
  have hsame := (sep_append_inj colon_notMem_adapter colon_notMem_index htext).1
  exact absurd hsame (by decide)

theorem not_indexPrefix_adapterKey : ¬ (indexPrefix name v).toList <+: (adapterKey e).toList := by
  rw [toList_indexPrefix, toList_adapterKey]
  intro h
  have hsame := (sep_isPrefix_split colon_notMem_index colon_notMem_adapter h).1
  exact absurd hsame (by decide)

theorem indexPrefix_indexKey (name v e : String) :
    (indexPrefix name v).toList <+: (indexKey name v e).toList := by
  rw [toList_indexPrefix, toList_indexKey]
  refine ⟨e.toList, ?_⟩
  simp only [List.append_assoc, List.cons_append, List.nil_append]

theorem name_eq_of_indexPrefix (hname : ColonFree name) (hname' : ColonFree name')
    (h : (indexPrefix name v).toList <+: (indexKey name' v' e).toList) : name = name' := by
  rw [toList_indexPrefix, toList_indexKey] at h
  have hafter := (sep_isPrefix_split colon_notMem_index colon_notMem_index h).2
  exact String.toList_inj.mp (sep_isPrefix_split hname hname' hafter).1

theorem value_eq_of_indexPrefix (hname : ColonFree name) (hv : ColonFree v') (he : ColonFree e)
    (h : (indexPrefix name v).toList <+: (indexKey name v' e).toList) : v = v' := by
  rw [toList_indexPrefix, toList_indexKey] at h
  have hafter := (sep_isPrefix_split colon_notMem_index colon_notMem_index h).2
  have hrest := (sep_isPrefix_split hname hname hafter).2
  exact String.toList_inj.mp (sep_isPrefix_last hv he hrest)

theorem entityOf_eq (hname : ColonFree name) (hv : ColonFree v) (hkey : key.toList =
      "index".toList ++ ':' :: (name.toList ++ ':' :: (v.toList ++ ':' :: rest))) :
    entityOf key = some (String.ofList rest) := by
  have hparts : key.toList.splitOn ':' =
      "index".toList :: name.toList :: v.toList :: rest.splitOn ':' := by
    rw [hkey, splitOn_sep colon_notMem_index, splitOn_sep hname, splitOn_sep hv]
  grind [List.splitOn_ne_nil, List.length_pos_iff, List.length_cons, entityOf,
    List.intercalate_splitOn]

theorem entityOf_indexKey (hname : ColonFree name) (hv : ColonFree v) :
    entityOf (indexKey name v e) = some e := by
  rw [entityOf_eq hname hv (toList_indexKey name v e), String.ofList_toList]

end Texts

section View

variable {kv : KvBackend} {n n' : AdapterIndex} {v v' e e' : String}
  {a : AdapterKv} {value : StoredValue}

theorem AdapterIndex.colonFree_name (n : AdapterIndex) : ColonFree n.name := by
  cases n <;> decide

theorem AdapterIndex.name_inj (h : n.name = n'.name) : n = n' := by
  revert h
  cases n <;> cases n' <;> decide

def record (kv : KvBackend) (e : String) : Option AdapterKv :=
  AdapterRepository.stored? kv (adapterKey e)

def Indexed (kv : KvBackend) (n : AdapterIndex) (v e : String) : Prop :=
  ColonFree e ∧ indexKey n.name v e ∈ kv

theorem indexKey_name_inj (he : ColonFree e) (he' : ColonFree e') :
    indexKey n.name v e = indexKey n'.name v' e' ↔ n = n' ∧ v = v' ∧ e = e' := by
  constructor
  · intro h
    obtain ⟨hn, hrest⟩ := indexKey_inj n.colonFree_name n'.colonFree_name he he' h
    exact ⟨AdapterIndex.name_inj hn, hrest⟩
  · rintro ⟨rfl, rfl, rfl⟩
    rfl

theorem record_insert (kv : KvBackend) (a : AdapterKv) (e e' : String) :
    record (kv.insert (adapterKey e) (.adapter a)) e' =
      if e' = e then some a else record kv e' := by
  unfold record AdapterRepository.stored?
  rw [AList.get?_insert]
  split_ifs with hkey he he
  · rfl
  · exact absurd (adapterKey_inj.mp hkey) he
  · exact absurd (congrArg adapterKey he) hkey
  · rfl

theorem record_erase (kv : KvBackend) (e e' : String) :
    record (kv.erase (adapterKey e)) e' = if e' = e then none else record kv e' := by
  unfold record AdapterRepository.stored?
  rw [AList.get?_erase]
  split_ifs with hkey he he
  · rfl
  · exact absurd (adapterKey_inj.mp hkey) he
  · exact absurd (congrArg adapterKey he) hkey
  · rfl

@[simp] theorem record_addToIndex : record (addToIndex n.name v e kv) e' = record kv e' := by
  unfold record AdapterRepository.stored? addToIndex
  rw [AList.get?_insert_ne adapterKey_ne_indexKey]

@[simp] theorem record_removeFromIndex :
    record (removeFromIndex n.name v e kv) e' = record kv e' := by
  unfold record AdapterRepository.stored? removeFromIndex
  rw [AList.get?_erase_ne adapterKey_ne_indexKey]

theorem indexed_insert_adapterKey :
    Indexed (kv.insert (adapterKey e') value) n v e ↔ Indexed kv n v e := by
  unfold Indexed
  rw [AList.mem_insert]
  have hne : indexKey n.name v e ≠ adapterKey e' := adapterKey_ne_indexKey.symm
  simp only [hne, false_or]

theorem indexed_erase_adapterKey : Indexed (kv.erase (adapterKey e')) n v e ↔ Indexed kv n v e := by
  unfold Indexed
  rw [AList.mem_erase]
  have hne : indexKey n.name v e ≠ adapterKey e' := adapterKey_ne_indexKey.symm
  simp only [ne_eq, hne, not_false_eq_true, true_and]

theorem indexed_addToIndex (he : ColonFree e) : Indexed (addToIndex n.name v e kv) n' v' e' ↔
      (n' = n ∧ v' = v ∧ e' = e) ∨ Indexed kv n' v' e' := by
  grind [Indexed, addToIndex, indexKey_name_inj]

theorem indexed_removeFromIndex (he : ColonFree e) :
    Indexed (removeFromIndex n.name v e kv) n' v' e' ↔
      ¬ (n' = n ∧ v' = v ∧ e' = e) ∧ Indexed kv n' v' e' := by
  grind [Indexed, removeFromIndex, indexKey_name_inj]

end View

section Shape

variable {o : Iteration String} {kv : KvBackend} {n : AdapterIndex} {v e key : String}
  {a : AdapterKv} {value : StoredValue}

/-- What can be under a key. -/
inductive Shape : String → StoredValue → Prop where
  | adapter {e : String} (a : AdapterKv) (he : ColonFree e) : Shape (adapterKey e) (.adapter a)
  | entry {e : String} (n : AdapterIndex) (v : String) (he : ColonFree e) :
      Shape (indexKey n.name v e) .one

def WellShaped (kv : KvBackend) : Prop := ∀ key value, kv.get? key = some value → Shape key value

theorem wellShaped_empty : WellShaped ∅ := by
  intro key value h
  cases h

theorem WellShaped.insert (h : WellShaped kv) (hnew : Shape key value) :
    WellShaped (kv.insert key value) := by
  intro k w hget
  rw [AList.get?_insert] at hget
  split_ifs at hget with hk
  · cases hget
    rw [hk]
    exact hnew
  · exact h k w hget

theorem WellShaped.erase (h : WellShaped kv) (key : String) : WellShaped (kv.erase key) := by
  intro k w hget
  rw [AList.get?_erase] at hget
  split_ifs at hget
  exact h k w hget

theorem WellShaped.colonFree (h : WellShaped kv) (ha : record kv e = some a) : ColonFree e := by
  unfold record AdapterRepository.stored? at ha
  cases hget : kv.get? (adapterKey e) with
  | none =>
    rw [hget] at ha
    cases ha
  | some value =>
    generalize hkey : adapterKey e = key at hget
    cases h key value hget with
    | adapter a he => exact adapterKey_inj.mp hkey ▸ he
    | entry n v he => exact absurd hkey adapterKey_ne_indexKey

theorem WellShaped.get?_adapterKey (h : WellShaped kv) (e : String) :
    kv.get? (adapterKey e) = (record kv e).map .adapter := by
  unfold record AdapterRepository.stored?
  cases hget : kv.get? (adapterKey e) with
  | none => rfl
  | some value =>
    generalize hkey : adapterKey e = key at hget
    cases h key value hget with
    | adapter a he => rfl
    | entry n v he => exact absurd hkey adapterKey_ne_indexKey

theorem mem_scanPrefix {text : String} :
    key ∈ scanPrefix o text kv ↔ key ∈ kv ∧ text.toList <+: key.toList := by
  rw [scanPrefix, List.mem_filter, Iteration.mem_visit, AList.mem_keys, List.isPrefixOf_iff_prefix]

variable (h : WellShaped kv) (hvalues : ∀ v' e, Indexed kv n v' e → ColonFree v')

include h hvalues

theorem WellShaped.indexKey_of_scan (hkey : key ∈ scanPrefix o (indexPrefix n.name v) kv) :
    ∃ e, key = indexKey n.name v e ∧ Indexed kv n v e ∧ entityOf key = some e := by
  obtain ⟨hmem, htext⟩ := mem_scanPrefix.mp hkey
  obtain ⟨value, hget⟩ := AList.mem_iff_get?.mp hmem
  cases h key value hget with
  | adapter a he => exact absurd htext not_indexPrefix_adapterKey
  | @entry e n' v' he =>
    have hname := name_eq_of_indexPrefix n.colonFree_name n'.colonFree_name htext
    obtain rfl := AdapterIndex.name_inj hname
    have hv' := hvalues v' e ⟨he, hmem⟩
    obtain rfl := value_eq_of_indexPrefix n.colonFree_name hv' he htext
    exact ⟨e, rfl, ⟨he, hmem⟩, entityOf_indexKey n.colonFree_name hv'⟩

theorem WellShaped.mem_queryIndex : e ∈ queryIndex o n.name v kv ↔ Indexed kv n v e := by
  rw [queryIndex, List.mem_filterMap]
  constructor
  · rintro ⟨key, hkey, hentity⟩
    obtain ⟨e', -, hindexed, hentity'⟩ := h.indexKey_of_scan hvalues hkey
    rw [hentity, Option.some.injEq] at hentity'
    exact hentity' ▸ hindexed
  · intro hindexed
    refine ⟨indexKey n.name v e, ?_, ?_⟩
    · exact mem_scanPrefix.mpr ⟨hindexed.2, indexPrefix_indexKey n.name v e⟩
    · exact entityOf_indexKey n.colonFree_name (hvalues v e hindexed)

theorem WellShaped.nodup_queryIndex : (queryIndex o n.name v kv).Nodup := by
  have hkeys : (scanPrefix o (indexPrefix n.name v) kv).Nodup :=
    ((o.perm kv.keys).nodup_iff.mpr kv.keys_nodup).filter _
  -- a key is made up again from the id that was read off it
  have hback : (queryIndex o n.name v kv).map (indexKey n.name v) =
      scanPrefix o (indexPrefix n.name v) kv := by
    rw [queryIndex, List.map_filterMap]
    calc (scanPrefix o (indexPrefix n.name v) kv).filterMap
          (fun key => (entityOf key).map (indexKey n.name v))
        = (scanPrefix o (indexPrefix n.name v) kv).filterMap some := by
          refine List.filterMap_congr ?_
          intro key hkey
          obtain ⟨e, rfl, -, hentity⟩ := h.indexKey_of_scan hvalues hkey
          rw [hentity, Option.map_some]
      _ = _ := List.filterMap_some
  rw [← hback] at hkeys
  exact hkeys.of_map

end Shape

section Removal

variable {o : Iteration String} {name id : String} {entries : List IndexEntry} {x : IndexEntry}

structure IndexEntry where
  name : String
  value : String
  entity : String
  deriving DecidableEq

namespace IndexEntry

def key (x : IndexEntry) : String := indexKey x.name x.value x.entity

/-- The text of an entry starts with a name and ends in an id, whether or not they are its own. -/
def Resembles (x : IndexEntry) (name id : String) : Prop :=
  name.toList <+: x.name.toList ++ ':' :: (x.value.toList ++ ':' :: x.entity.toList) ∧
    ':' :: id.toList <:+ x.key.toList

end IndexEntry

def addEntries (entries : List IndexEntry) : KvBackend :=
  entries.foldl (fun kv x => addToIndex x.name x.value x.entity kv) ∅

theorem mem_addEntries {key : String} :
    key ∈ addEntries entries ↔ ∃ x ∈ entries, x.key = key := by
  have hfold : ∀ kv : KvBackend,
      key ∈ entries.foldl (fun kv x => addToIndex x.name x.value x.entity kv) kv ↔
        (∃ x ∈ entries, x.key = key) ∨ key ∈ kv := by
    induction entries with
    | nil => simp
    | cons x entries ih =>
      intro kv
      rw [List.foldl_cons, ih, addToIndex, AList.mem_insert, List.exists_mem_cons_iff, eq_comm,
        or_left_comm, or_assoc]
      rfl
  simpa [addEntries] using hfold ∅

theorem mem_removeAllFromIndex (hx : x ∈ entries) :
    x.key ∈ removeAllFromIndex o name id (addEntries entries) ↔ ¬ x.Resembles name id := by
  have hmem : x.key ∈ addEntries entries := mem_addEntries.mpr ⟨x, hx, rfl⟩
  have hname : ("index:" ++ name).toList <+: x.key.toList ↔
      name.toList <+: x.name.toList ++ ':' :: (x.value.toList ++ ':' :: x.entity.toList) := by
    rw [IndexEntry.key, toList_indexKey, String.toList_append,
      show "index:".toList = "index".toList ++ [':'] by decide, List.append_assoc,
      List.prefix_append_right_inj]
    exact List.prefix_cons_inj ':'
  rw [removeAllFromIndex, AList.mem_eraseAll, List.mem_filter, mem_scanPrefix, hname]
  simp [hmem, IndexEntry.Resembles]

theorem resembles_own (x : IndexEntry) : x.Resembles x.name x.entity := by
  refine ⟨List.prefix_append _ _, ?_⟩
  rw [IndexEntry.key, toList_indexKey]
  exact ⟨"index".toList ++ ':' :: (x.name.toList ++ ':' :: x.value.toList), by simp⟩

theorem resembles_iff (hname : ColonFree name) (hid : ColonFree id) (hx : ColonFree x.entity) :
    x.Resembles name id ↔ name.toList <+: x.name.toList ∧ x.entity = id := by
  constructor
  · rintro ⟨hstart, r, hr⟩
    have hcolon : x.name.toList ++ [':'] <+:
        x.name.toList ++ ':' :: (x.value.toList ++ ':' :: x.entity.toList) :=
      ⟨x.value.toList ++ ':' :: x.entity.toList, by simp⟩
    refine ⟨?_, ?_⟩
    · rcases List.prefix_or_prefix_of_prefix hstart hcolon with h | h
      · rcases List.prefix_concat_iff.mp h with h | h
        · exact absurd (h ▸ by simp) hname
        · exact h
      · exact absurd (h.subset (by simp)) hname
    · rw [IndexEntry.key, toList_indexKey, ← List.cons_append, ← List.append_assoc,
        ← List.cons_append, ← List.append_assoc] at hr
      exact String.toList_inj.mp (append_sep_inj hid hx hr).2.symm
  · rintro ⟨hstart, rfl⟩
    exact ⟨hstart.trans (List.prefix_append _ _), (resembles_own x).2⟩

/-- Exactly the entries of the index and the id go if and only if no entry of another index or
another id has a text that starts with the name and ends in the id. Among texts without colons
these are the entries of the id in an index with a longer name. -/
theorem removeAll_exact_iff (o : Iteration String) (name id : String) (entries : List IndexEntry) :
    ((∀ x ∈ entries, x.key ∈ removeAllFromIndex o name id (addEntries entries) ↔
        ¬ (x.name = name ∧ x.entity = id)) ↔
      ∀ x ∈ entries, x.Resembles name id → x.name = name ∧ x.entity = id) ∧
    (ColonFree name → ColonFree id → ∀ x ∈ entries, ColonFree x.entity →
      (x.Resembles name id ↔ name.toList <+: x.name.toList ∧ x.entity = id)) := by
  refine ⟨forall₂_congr ?_, fun hname hid x _ hx => resembles_iff hname hid hx⟩
  intro x hx
  rw [mem_removeAllFromIndex hx, not_iff_not]
  refine ⟨Iff.mp, fun h => ⟨h, ?_⟩⟩
  rintro ⟨rfl, rfl⟩
  exact resembles_own x

theorem removeAll_takes_longer_name :
    let x : IndexEntry := ⟨"adapters_by_tenant_state", "t:warm", "a"⟩
    x.key ∉ removeAllFromIndex .asListed "adapters_by_tenant" "a" (addEntries [x]) ∧
      x.name ≠ "adapters_by_tenant" := by
  decide

end Removal

end AdapterOS.Storage
