import AdapterOS.Storage.IndexKeys

/-! What the maintenance of the indexes does to the records and to the entries of one adapter. -/
namespace AdapterOS.Storage

variable {kv : KvBackend} {n n' : AdapterIndex} {v w e e' : String} {x : Option String}
  {adapter : AdapterKv} {old : Option AdapterKv} {shouldAddNew : Bool} {P : KvBackend → Prop}

section Preserved

theorem updateIndex_preserves (hadd : ∀ kv v, P kv → P (addToIndex n.name v e kv))
    (hremove : ∀ kv v, P kv → P (removeFromIndex n.name v e kv)) (h : P kv) :
    P (updateIndex n.name e kv x w) := by
  cases x with
  | none => exact hadd _ _ h
  | some old =>
    unfold updateIndex
    simp only
    split_ifs
    · exact hadd _ _ (hremove _ _ h)
    · exact hadd _ _ h

theorem maintain_preserves (hadd : ∀ kv v, P kv → P (addToIndex n.name v adapter.keyId kv))
    (hremove : ∀ kv v e, e = adapter.keyId ∨ (∃ a, old = some a ∧ e = a.keyId) → P kv →
      P (removeFromIndex n.name v e kv)) (h : P kv) :
    P (AdapterIndex.maintain shouldAddNew adapter old kv n) := by
  have hsame := fun kv v => hremove kv v adapter.keyId (Or.inl rfl)
  have hnew : ∀ value, P (n.addWhenNew shouldAddNew adapter.keyId value kv) := by
    intro value
    unfold AdapterIndex.addWhenNew
    split_ifs
    · exact hadd _ _ h
    · exact h
  have hoptional : P (n.followOptional shouldAddNew adapter.keyId adapter old kv) := by
    unfold AdapterIndex.followOptional
    grind
  cases n with
  | byTenant => exact hnew _
  | byHash => exact hnew _
  | byContentHash => exact hoptional
  | byAdapterId => exact hoptional
  | byParent =>
    unfold AdapterIndex.maintain AdapterIndex.followParent
    simp only
    split
    · exact updateIndex_preserves hadd hsame h
    · refine hremove _ _ _ ?_ h
      cases old with
      | none => exact Or.inl rfl
      | some o => exact Or.inr ⟨o, rfl, rfl⟩
    · exact h
  | byState => exact updateIndex_preserves hadd hsame h
  | byTenantState => exact updateIndex_preserves hadd hsame h
  | byTier => exact updateIndex_preserves hadd hsame h
  | byLifecycleState => exact updateIndex_preserves hadd hsame h
  | byActive => exact updateIndex_preserves hadd hsame h
  | byPinned => exact updateIndex_preserves hadd hsame h

theorem foldl_preserves {α : Type*} {f : KvBackend → α → KvBackend} (l : List α)
    (hf : ∀ kv a, P kv → P (f kv a)) (h : P kv) : P (l.foldl f kv) := by
  induction l generalizing kv with
  | nil => exact h
  | cons a l ih => exact ih (hf kv a h)

theorem dropEntry_preserves (hremove : ∀ kv v, P kv → P (removeFromIndex n.name v e kv))
    (h : P kv) : P (AdapterIndex.dropEntry adapter e kv n) := by
  unfold AdapterIndex.dropEntry
  split
  · exact hremove _ _ h
  · exact h

theorem removeFromIndexes_preserves
    (hremove : ∀ n kv v e, P kv → P (removeFromIndex (AdapterIndex.name n) v e kv)) (h : P kv) :
    P (removeFromIndexes adapter kv) := by
  refine foldl_preserves _ ?_ h
  intro kv e hkv
  refine foldl_preserves _ ?_ hkv
  intro kv n hkv
  exact dropEntry_preserves (fun kv v => hremove n kv v e) hkv

theorem updateIndexes_preserves
    (hadd : ∀ n kv v, P kv → P (addToIndex (AdapterIndex.name n) v adapter.keyId kv))
    (hremove : ∀ n kv v e, P kv → P (removeFromIndex (AdapterIndex.name n) v e kv)) (h : P kv) :
    P (updateIndexes adapter old kv) := by
  unfold updateIndexes
  refine foldl_preserves _ ?_ ?_
  · intro kv n hkv
    exact maintain_preserves (hadd n) (fun kv v e _ => hremove n kv v e) hkv
  · cases old with
    | none => exact h
    | some o =>
      simp only
      split_ifs
      · exact removeFromIndexes_preserves hremove h
      · exact h

end Preserved

section Records

@[simp] theorem record_updateIndexes : record (updateIndexes adapter old kv) e = record kv e := by
  refine updateIndexes_preserves (P := fun kv' => record kv' e = record kv e) ?_ ?_ rfl
  · intro n kv' v h
    rw [record_addToIndex, h]
  · intro n kv' v e' h
    rw [record_removeFromIndex, h]

@[simp] theorem record_removeFromIndexes :
    record (removeFromIndexes adapter kv) e = record kv e := by
  refine removeFromIndexes_preserves (P := fun kv' => record kv' e = record kv e) ?_ rfl
  intro n kv' v e' h
  rw [record_removeFromIndex, h]

theorem WellShaped.updateIndexes (h : WellShaped kv) (hkey : ColonFree adapter.keyId) :
    WellShaped (updateIndexes adapter old kv) := by
  refine updateIndexes_preserves (P := WellShaped) ?_ ?_ h
  · intro n kv v h
    exact h.insert (.entry n v hkey)
  · intro n kv v e h
    exact h.erase _

theorem WellShaped.removeFromIndexes (h : WellShaped kv) :
    WellShaped (removeFromIndexes adapter kv) := by
  refine removeFromIndexes_preserves (P := WellShaped) ?_ h
  intro n kv v e h
  exact h.erase _

end Records

section Entries

def Shows (kv : KvBackend) (n : AdapterIndex) (e : String) (x : Option String) : Prop :=
  ∀ v, Indexed kv n v e ↔ x = some v

theorem Shows.add (h : Shows kv n e none) (he : ColonFree e) :
    Shows (addToIndex n.name v e kv) n e (some v) := by
  intro w
  rw [indexed_addToIndex he, h w]
  simp [eq_comm]

theorem Shows.add_same (h : Shows kv n e (some v)) (he : ColonFree e) :
    Shows (addToIndex n.name v e kv) n e (some v) := by
  intro w
  rw [indexed_addToIndex he, h w]
  simp [eq_comm]

theorem Shows.remove (h : Shows kv n e (some v)) (he : ColonFree e) :
    Shows (removeFromIndex n.name v e kv) n e none := by
  intro w
  rw [indexed_removeFromIndex he, h w]
  simp [eq_comm]

theorem Shows.updateIndex (h : Shows kv n e x) (he : ColonFree e) :
    Shows (updateIndex n.name e kv x v) n e (some v) := by
  cases x with
  | none => exact h.add he
  | some old =>
    unfold Storage.updateIndex
    simp only
    split_ifs with hne
    · exact (h.remove he).add he
    · rw [not_not] at hne
      subst hne
      exact h.add_same he

theorem Shows.followParent (h : Shows kv .byParent adapter.keyId (old.bind AdapterKv.parentId))
    (he : ColonFree adapter.keyId) (hkey : ∀ o, old = some o → o.keyId = adapter.keyId) :
    Shows (AdapterIndex.followParent adapter.keyId adapter old kv) .byParent adapter.keyId
      adapter.parentId := by
  unfold AdapterIndex.followParent
  cases hp : adapter.parentId with
  | some parent => exact h.updateIndex he
  | none =>
    cases old with
    | none => exact h
    | some o =>
      rw [Option.bind_some] at h
      simp only [Option.bind_some, Option.map_some, Option.getD_some]
      cases ho : o.parentId with
      | none =>
        rw [ho] at h
        exact h
      | some parent =>
        rw [ho] at h
        rw [hkey o rfl]
        exact h.remove he

theorem Shows.maintain_new (h : Shows kv n adapter.keyId none) (he : ColonFree adapter.keyId) :
    Shows (AdapterIndex.maintain true adapter none kv n) n adapter.keyId (n.value adapter) := by
  have hoptional : Shows (n.followOptional true adapter.keyId adapter none kv) n adapter.keyId
      (n.value adapter) := by
    unfold AdapterIndex.followOptional
    cases hv : n.value adapter with
    | none => exact h
    | some v => exact h.add he
  cases n with
  | byTenant => exact h.add he
  | byHash => exact h.add he
  | byContentHash => exact hoptional
  | byAdapterId => exact hoptional
  | byParent =>
    refine Shows.followParent h he ?_
    intro o ho
    cases ho
  | byState => exact h.updateIndex he
  | byTenantState => exact h.updateIndex he
  | byTier => exact h.updateIndex he
  | byLifecycleState => exact h.updateIndex he
  | byActive => exact h.updateIndex he
  | byPinned => exact h.updateIndex he

/-- The fields that an update of the indexes takes to be what they were; a content hash may come and
change, but not go. -/
structure KeepsFields (old adapter : AdapterKv) : Prop where
  tenantId : old.tenantId = adapter.tenantId
  hashB3 : old.hashB3 = adapter.hashB3
  contentHashB3 : adapter.contentHashB3 = none → old.contentHashB3 = none

theorem Shows.followOptional {o : AdapterKv} (h : Shows kv n adapter.keyId (n.value o))
    (he : ColonFree adapter.keyId) (hkey : o.keyId = adapter.keyId)
    (hkept : n.value adapter = none → n.value o = none) :
    Shows (n.followOptional false adapter.keyId adapter (some o) kv) n adapter.keyId
      (n.value adapter) := by
  unfold AdapterIndex.followOptional
  cases hv : n.value adapter with
  | none =>
    rw [hkept hv] at h
    exact h
  | some v =>
    simp only [Bool.false_eq_true, if_false]
    split_ifs with hne
    · cases ho : n.value o with
      | none =>
        rw [ho] at h
        exact h.add he
      | some w =>
        rw [ho] at h
        rw [hkey]
        exact (h.remove he).add he
    · rw [not_not] at hne
      rw [hne] at h
      exact h

theorem Shows.maintain_update {o : AdapterKv} (h : Shows kv n adapter.keyId (n.value o))
    (he : ColonFree adapter.keyId) (hkey : o.keyId = adapter.keyId)
    (hid : o.adapterId = adapter.adapterId) (hkeep : KeepsFields o adapter) :
    Shows (AdapterIndex.maintain false adapter (some o) kv n) n adapter.keyId
      (n.value adapter) := by
  cases n with
  | byTenant =>
    have hvalue : AdapterIndex.byTenant.value o = AdapterIndex.byTenant.value adapter :=
      congrArg some hkeep.tenantId
    rw [hvalue] at h
    exact h
  | byHash =>
    have hvalue : AdapterIndex.byHash.value o = AdapterIndex.byHash.value adapter :=
      congrArg some hkeep.hashB3
    rw [hvalue] at h
    exact h
  | byContentHash => exact h.followOptional he hkey hkeep.contentHashB3
  | byAdapterId => exact h.followOptional he hkey fun hnone => hid.trans hnone
  | byParent =>
    refine Shows.followParent h he ?_
    intro o' ho
    cases ho
    exact hkey
  | byState => exact h.updateIndex he
  | byTenantState => exact h.updateIndex he
  | byTier => exact h.updateIndex he
  | byLifecycleState => exact h.updateIndex he
  | byActive => exact h.updateIndex he
  | byPinned => exact h.updateIndex he

end Entries

section Whole

theorem AdapterIndex.mem_all (n : AdapterIndex) : n ∈ AdapterIndex.all := by
  cases n <;> decide

theorem AdapterIndex.nodup_all : AdapterIndex.all.Nodup := by decide

theorem indexed_maintain_ne (he : ColonFree adapter.keyId)
    (hold : ∀ o, old = some o → o.keyId = adapter.keyId) (hne : n' ≠ n ∨ e' ≠ adapter.keyId) :
    Indexed (AdapterIndex.maintain shouldAddNew adapter old kv n) n' v e' ↔ Indexed kv n' v e' := by
  have hother : ∀ w, ¬ (n' = n ∧ v = w ∧ e' = adapter.keyId) := by
    rintro w ⟨hn, -, hkey⟩
    rcases hne with hne | hne
    · exact hne hn
    · exact hne hkey
  refine maintain_preserves (P := fun kv' => Indexed kv' n' v e' ↔ Indexed kv n' v e') ?_ ?_
    Iff.rfl <;> grind [indexed_addToIndex, indexed_removeFromIndex]

theorem shows_foldl_maintain (before : AdapterIndex → Option String) (he : ColonFree adapter.keyId)
    (hold : ∀ o, old = some o → o.keyId = adapter.keyId)
    (hstep : ∀ kv n, Shows kv n adapter.keyId (before n) →
      Shows (AdapterIndex.maintain shouldAddNew adapter old kv n) n adapter.keyId
        (n.value adapter)) {l : List AdapterIndex} (hl : l.Nodup)
    (hbefore : ∀ n ∈ l, Shows kv n adapter.keyId (before n))
    (hdone : ∀ n, n ∉ l → Shows kv n adapter.keyId (n.value adapter)) (n : AdapterIndex) :
    Shows (l.foldl (AdapterIndex.maintain shouldAddNew adapter old) kv) n adapter.keyId
      (n.value adapter) := by
  have hframe : ∀ kv m n x, n ≠ m → Shows kv n adapter.keyId x →
      Shows (AdapterIndex.maintain shouldAddNew adapter old kv m) n adapter.keyId x := by
    intro kv m n x hne h w
    rw [indexed_maintain_ne he hold (Or.inl hne)]
    exact h w
  induction l generalizing kv with
  | nil => exact hdone n List.not_mem_nil
  | cons m l ih => grind

theorem updateIndexes_eq (hold : ∀ o, old = some o → o.keyId = adapter.keyId) :
    updateIndexes adapter old kv =
      AdapterIndex.all.foldl (AdapterIndex.maintain old.isNone adapter old) kv := by
  unfold updateIndexes
  cases old with
  | none => rfl
  | some o => simp [hold o rfl]

theorem indexed_updateIndexes_ne (he : ColonFree adapter.keyId)
    (hold : ∀ o, old = some o → o.keyId = adapter.keyId) (hne : e' ≠ adapter.keyId) :
    Indexed (updateIndexes adapter old kv) n v e' ↔ Indexed kv n v e' := by
  rw [updateIndexes_eq hold]
  refine foldl_preserves (P := fun kv' => Indexed kv' n v e' ↔ Indexed kv n v e') _ ?_ Iff.rfl
  intro kv' m h
  rw [indexed_maintain_ne he hold (Or.inr hne)]
  exact h

theorem shows_updateIndexes_new (he : ColonFree adapter.keyId)
    (h : ∀ n, Shows kv n adapter.keyId none) (n : AdapterIndex) :
    Shows (updateIndexes adapter none kv) n adapter.keyId (n.value adapter) := by
  have hold : ∀ o : AdapterKv, none = some o → o.keyId = adapter.keyId := by
    intro o ho
    cases ho
  rw [updateIndexes_eq hold]
  exact shows_foldl_maintain (fun _ => none) he hold (fun kv n h => h.maintain_new he)
    AdapterIndex.nodup_all (fun n _ => h n) (fun n hn => absurd n.mem_all hn) n

theorem shows_updateIndexes {o : AdapterKv} (he : ColonFree adapter.keyId)
    (hkey : o.keyId = adapter.keyId) (hid : o.adapterId = adapter.adapterId)
    (hkeep : KeepsFields o adapter) (h : ∀ n, Shows kv n adapter.keyId (n.value o))
    (n : AdapterIndex) :
    Shows (updateIndexes adapter (some o) kv) n adapter.keyId (n.value adapter) := by
  have hold : ∀ o', some o = some o' → o'.keyId = adapter.keyId := by
    intro o' ho
    cases ho
    exact hkey
  rw [updateIndexes_eq hold]
  exact shows_foldl_maintain (fun n => n.value o) he hold
    (fun kv n h => h.maintain_update he hkey hid hkeep) AdapterIndex.nodup_all (fun n _ => h n)
    (fun n hn => absurd n.mem_all hn) n

theorem indexed_dropEntry (he : ColonFree e') :
    Indexed (AdapterIndex.dropEntry adapter e' kv n') n v e ↔
      ¬ (n = n' ∧ e = e' ∧ n.value adapter = some v) ∧ Indexed kv n v e := by
  grind [AdapterIndex.dropEntry, indexed_removeFromIndex]

theorem indexed_foldl_dropEntry (he : ColonFree e') (l : List AdapterIndex) :
    Indexed (l.foldl (AdapterIndex.dropEntry adapter e') kv) n v e ↔
      ¬ (n ∈ l ∧ e = e' ∧ n.value adapter = some v) ∧ Indexed kv n v e := by
  induction l generalizing kv with
  | nil => simp
  | cons m l ih =>
    rw [List.foldl_cons, ih, indexed_dropEntry he, List.mem_cons]
    tauto

theorem indexed_removeFromIndexes (hids : ∀ e ∈ adapter.indexEntityIds, ColonFree e) :
    Indexed (removeFromIndexes adapter kv) n v e ↔
      ¬ (e ∈ adapter.indexEntityIds ∧ n.value adapter = some v) ∧ Indexed kv n v e := by
  unfold removeFromIndexes
  generalize adapter.indexEntityIds = ids at hids ⊢
  induction ids generalizing kv with
  | nil => simp
  | cons e' ids ih =>
    rw [List.forall_mem_cons] at hids
    rw [List.foldl_cons, ih hids.2, indexed_foldl_dropEntry hids.1, List.mem_cons]
    have hmem := n.mem_all
    tauto

end Whole

end AdapterOS.Storage
