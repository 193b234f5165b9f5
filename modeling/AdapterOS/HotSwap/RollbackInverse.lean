import AdapterOS.HotSwap.TableInvariant

/-! Rolling a successful swap back returns the active map, the generation and the index. -/
namespace AdapterOS.HotSwap

open Library AdapterTable

variable {t t' : AdapterTable} {active : AdapterMap} {addIds removeIds : List AdapterId}
  {entries entries' : HashMap AdapterCacheKey AdapterRecord}

/-- The index holds, for each adapter of the map, its key, its hash and its registered counter,
and nothing else. -/
structure Describes (t : AdapterTable) (active : AdapterMap)
    (entries : HashMap AdapterCacheKey AdapterRecord) : Prop where
  sound : ∀ key record, entries.get? key = some record →
    ∃ id state, active.get? id = some state ∧ key = t.cacheKey id state ∧
      record.hash = state.hash ∧ t.refcounts.get? id = some record.refcount
  complete : ∀ id state, active.get? id = some state →
    ∃ record, entries.get? (t.cacheKey id state) = some record

/-- The snapshot is the one that publishing the table's active map would install. -/
structure Agrees (t : AdapterTable) : Prop where
  generation : t.store.current.generation = t.currentStack
  index : Describes t t.active t.store.current.entries

theorem cacheKey_congr (h : t'.cacheIdentity = t.cacheIdentity) (id : AdapterId)
    (state : AdapterLoadState) : t'.cacheKey id state = t.cacheKey id state := by
  simp only [cacheKey, h]

theorem describes_collect (h : Heap) (hreg : ∀ id ∈ active, id ∈ t.refcounts) :
    Describes t active (HashMap.collect (t.storeEntries h active.items).1) := by
  have hn := storeEntries_nodup t h active
  refine ⟨?_, ?_⟩
  · grind [mem_storeEntries, HashMap.get?_collect, AList.mem_items, AList.mem_iff_get?]
  · intro id state hget
    obtain ⟨record, hrecord, _⟩ :=
      storeEntries_complete (t := t) (h := h) (AList.mem_items.mpr hget)
    exact ⟨record, (HashMap.get?_collect hn).mpr hrecord⟩

theorem Describes.mono (h : Describes t active entries)
    (hidentity : t'.cacheIdentity = t.cacheIdentity)
    (hkept : ∀ id rc, t.refcounts.get? id = some rc → t'.refcounts.get? id = some rc) :
    Describes t' active entries := by
  refine ⟨?_, ?_⟩
  · obtain ⟨⟩ := h
    grind [cacheKey_congr]
  · intro id state hactive
    rw [cacheKey_congr hidentity]
    exact h.complete id state hactive

theorem Describes.registered (h : Describes t active entries) :
    ∀ id ∈ active, id ∈ t.refcounts := by
  intro id hid
  obtain ⟨state, hactive⟩ := AList.mem_iff_get?.mp hid
  obtain ⟨record, hget⟩ := h.complete id state hactive
  obtain ⟨j, other, _, hkey, _, hrc⟩ := h.sound _ _ hget
  have hj : id = j := by simpa using congrArg AdapterCacheKey.adapterId hkey
  rw [hj]
  exact AList.mem_of_get? hrc

theorem Describes.get?_eq (h : Describes t active entries) (h' : Describes t active entries')
    (key : AdapterCacheKey) : entries'.get? key = entries.get? key := by
  have hsub : ∀ {es es' : HashMap AdapterCacheKey AdapterRecord}, Describes t active es →
      Describes t active es' → ∀ {record}, es.get? key = some record →
      es'.get? key = some record := by
    intro es es' hd hd' record hget
    obtain ⟨id, state, hactive, hkey, hhash, hrc⟩ := hd.sound key record hget
    obtain ⟨record', hget'⟩ := hd'.complete id state hactive
    rw [← hkey] at hget'
    obtain ⟨id', state', hactive', hkey', hhash', hrc'⟩ := hd'.sound key record' hget'
    have hid : id = id' := by simpa using congrArg AdapterCacheKey.adapterId (hkey.symm.trans hkey')
    have hrecord : record' = record := by
      cases record
      cases record'
      simp_all
    rw [hget', hrecord]
  exact Option.ext fun record => ⟨hsub h' h, hsub h h'⟩

theorem rollback_index {stack : Stack} (h : t.rollbackState = some stack)
    (hreg : ∀ id ∈ stack.active, id ∈ t.refcounts) :
    Agrees t.rollback.2 := by
  obtain ⟨_, hres⟩ := rollback_some h
  let r := t.commit stack.active stack.generation
  have hstore : t.rollback.2.store.current = ⟨stack.generation,
      HashMap.collect (r.storeEntries r.heap stack.active.items).1⟩ := by
    by_cases hg : t.currentStack > stack.generation <;>
      simp [rollback, h, restoreStack, retireIf, hg, retire, publishForce, r]
  have hindex : Describes r stack.active
      (HashMap.collect (r.storeEntries r.heap stack.active.items).1) :=
    describes_collect r.heap hreg
  refine ⟨?_, ?_⟩
  · rw [hstore, hres.currentStack_eq]
  · rw [hstore, hres.active_eq]
    exact hindex.mono hres.cacheIdentity_eq fun id rc hrc => hres.refcounts_eq ▸ hrc

theorem swap_index (hgen : t.store.current.generation = t.currentStack)
    (hstaged : ∀ id ∈ addIds, id ∈ t.staged) (removeIds : List AdapterId) :
    Agrees (t.swap addIds removeIds).2 := by
  obtain ⟨d, hswap⟩ := swap_ok hstaged removeIds
  have hi := installStack_spec t.saveRollback (swapActive t.active t.staged addIds removeIds)
  rw [hswap]
  generalize swapActive t.active t.staged addIds removeIds = active at hi ⊢
  let r := (t.saveRollback.ensureRefcounts active.keys).commit active (t.currentStack + 1)
  have hrefs : (t.saveRollback.installStack active).refcounts = r.refcounts := by
    simp [installStack, retireIf, retire, publish, r, saveRollback]
  have hidentity : (t.saveRollback.installStack active).cacheIdentity = r.cacheIdentity := by
    simp [installStack, retireIf, retire, publish, r, saveRollback]
  have hfresh : r.store = t.store := by
    obtain ⟨rc, h, he⟩ := ensureRefcounts_frame t.saveRollback active.keys
    simp only [r, commit, he]
    rfl
  have hstore : (t.saveRollback.installStack active).store.current =
      ⟨t.currentStack + 1, HashMap.collect (r.storeEntries r.heap active.items).1⟩ := by
    grind [AdapterStore.install_current_of_lt, installStack, retireIf, retire, publish,
      saveRollback]
  have hreg : ∀ id ∈ active, id ∈ r.refcounts := by
    intro id hid
    rw [← hrefs]
    exact hi.registers.registered id hid
  refine ⟨?_, ?_⟩
  · rw [hstore, hi.currentStack_eq]
    rfl
  · rw [hstore, hi.active_eq]
    exact (describes_collect r.heap hreg).mono hidentity fun id rc hrc => hrefs ▸ hrc

/-- The snapshot agrees and the stack to return to has its counters registered. -/
structure AgreesSaved (t : AdapterTable) : Prop where
  agrees : Agrees t
  saved : ∀ s, t.rollbackState = some s → ∀ id ∈ s.active, id ∈ t.refcounts

theorem agreesSaved_new (identity : AdapterCacheIdentity) : AgreesSaved (.new identity) := by
  refine ⟨⟨rfl, ?_, ?_⟩, ?_⟩
  · intro key record h
    simp [AdapterTable.new, AdapterStore.new] at h
  · intro id state h
    simp [AdapterTable.new] at h
  · intro s h
    simp [AdapterTable.new] at h

theorem AgreesSaved.of_frame (h : AgreesSaved t) (hactive : t'.active = t.active)
    (hstack : t'.currentStack = t.currentStack) (hstore : t'.store = t.store)
    (hsaved : t'.rollbackState = t.rollbackState)
    (hidentity : t'.cacheIdentity = t.cacheIdentity)
    (hkept : ∀ id rc, t.refcounts.get? id = some rc → t'.refcounts.get? id = some rc) :
    AgreesSaved t' := by
  refine ⟨⟨?_, ?_⟩, ?_⟩
  · rw [hstore, hstack]
    exact h.agrees.generation
  · rw [hactive, hstore]
    exact h.agrees.index.mono hidentity hkept
  · obtain ⟨⟩ := h
    grind [AList.mem_iff_get?]

theorem preload_kept (t : AdapterTable) (id : AdapterId) (hash : B3Hash) (vramMb now : Nat) :
    ∀ j rc, t.refcounts.get? j = some rc →
      (t.preload id hash vramMb now).2.refcounts.get? j = some rc := by
  intro j rc hrc
  unfold preload preloadWithBacking
  split
  · exact hrc
  · apply (ensureRefcount_registers _ id).kept
    unfold stage
    split <;> exact hrc

theorem agreesSaved_swap (h : AgreesSaved t) (addIds removeIds : List AdapterId) :
    AgreesSaved (t.swap addIds removeIds).2 := by
  have hreg := h.agrees.index.registered
  obtain ⟨_, he⟩ | ⟨hstaged, hi⟩ := swap_cases t addIds removeIds
  · rw [he]
    refine ⟨⟨h.agrees.generation, h.agrees.index.mono rfl (fun _ _ hrc => hrc)⟩, ?_⟩
    rintro s ⟨⟩
    exact hreg
  · refine ⟨swap_index h.agrees.generation hstaged removeIds, ?_⟩
    intro s hs id hid
    rw [hi.rollbackState_eq] at hs
    cases hs
    obtain ⟨rc, hrc⟩ := AList.mem_iff_get?.mp (hreg id hid)
    exact AList.mem_of_get? (hi.registers.kept id rc hrc)

theorem agreesSaved_step (op : TableOp) (h : AgreesSaved t) : AgreesSaved (tableStep t op) := by
  cases op with
  | preload id hash vramMb now =>
    have hkept := preload_kept t id hash vramMb now
    obtain ⟨staged, rc, heap, he⟩ := preload_frame t id hash hash vramMb none now
    change AgreesSaved (t.preload id hash vramMb now).2
    rw [preload, he] at hkept ⊢
    exact h.of_frame rfl rfl rfl rfl rfl hkept
  | swap addIds removeIds => exact agreesSaved_swap h addIds removeIds
  | rollback =>
    change AgreesSaved t.rollback.2
    cases hr : t.rollbackState with
    | none => rwa [rollback_none hr]
    | some s =>
      obtain ⟨_, hres⟩ := rollback_some hr
      exact ⟨rollback_index hr (h.saved s hr), hres.rollbackState_eq ▸ nofun⟩
  | incRef id =>
    obtain ⟨heap, he⟩ := incRef_frame t id
    simp only [tableStep, he]
    exact h.of_frame rfl rfl rfl rfl rfl (fun _ _ hrc => hrc)
  | decRef id =>
    obtain ⟨heap, he⟩ := decRef_frame t id
    simp only [tableStep, he]
    exact h.of_frame rfl rfl rfl rfl rfl (fun _ _ hrc => hrc)

theorem agrees_tableAfter (identity : AdapterCacheIdentity) (ops : List TableOp) :
    Agrees (tableAfter identity ops) :=
  (run_invariant (I := AgreesSaved) (fun _ op h => agreesSaved_step op h)
    (agreesSaved_new identity) ops).agrees

def AdapterSnapshot.Same (a b : AdapterSnapshot) : Prop :=
  a.generation = b.generation ∧ ∀ key, a.entries.get? key = b.entries.get? key

end AdapterOS.HotSwap
