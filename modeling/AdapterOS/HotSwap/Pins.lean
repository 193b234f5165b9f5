import AdapterOS.HotSwap.ManagerSpec

/-! Request pins against the counters the table consults, over whole runs of the manager. -/
namespace AdapterOS.HotSwap

open Library AdapterTable HotSwapManager

def pinCount (live : List AdapterPins) (id : AdapterId) : Nat := live.countP (id ∈ ·.ids)

/-- The table's counters are those the pins and the published index hold, one per adapter, and
each counts the live pins of its adapter. -/
structure Tracked (t : AdapterTable) (live : List AdapterPins) : Prop where
  coherent : Coherent t
  bounded : ∀ id rc, t.refcounts.get? id = some rc → rc < t.heap.next
  injective : ∀ i j rc, t.refcounts.get? i = some rc → t.refcounts.get? j = some rc → i = j
  indexed : ∀ key record, t.store.current.entries.get? key = some record →
    t.refcounts.get? key.adapterId = some record.refcount
  held : ∀ p ∈ live, ∀ e ∈ p.pinned, t.refcounts.get? e.1.adapterId = some e.2
  distinct : ∀ p ∈ live, p.ids.Nodup
  counted : ∀ id rc, t.refcounts.get? id = some rc → t.heap.load rc = pinCount live id
  few : live.length < 2 ^ 64

variable {t t' : AdapterTable} {live : List AdapterPins} {id : AdapterId} {p : AdapterPins}

theorem pinCount_le (live : List AdapterPins) (id : AdapterId) : pinCount live id ≤ live.length :=
  List.countP_le_length

theorem registered_of_mem_ids (h : Tracked t live) (hp : p ∈ live)
    (hid : id ∈ p.ids) : id ∈ t.refcounts := by
  obtain ⟨e, he, rfl⟩ := List.mem_map.mp hid
  exact AList.mem_of_get? (h.held p hp e he)

theorem pinCount_unregistered (h : Tracked t live) (hn : t.refcounts.get? id = none) :
    pinCount live id = 0 := by
  apply List.countP_eq_zero.mpr
  intro p hp hid
  exact AList.get?_eq_none.mp hn (registered_of_mem_ids h hp (of_decide_eq_true hid))

theorem refcount_eq_pinCount (h : Tracked t live) (id : AdapterId) :
    t.refcount id = pinCount live id := by
  unfold AdapterTable.refcount
  cases hr : t.refcounts.get? id with
  | none => exact (pinCount_unregistered h hr).symm
  | some rc => exact h.counted id rc hr

/-- Counters go away only where nothing is active or pinned. -/
structure Shrinks (t t' : AdapterTable) : Prop where
  active_eq : t'.active = t.active
  currentStack_eq : t'.currentStack = t.currentStack
  rollbackState_eq : t'.rollbackState = t.rollbackState
  store_eq : t'.store = t.store
  heap_eq : t'.heap = t.heap
  sub : ∀ id rc, t'.refcounts.get? id = some rc → t.refcounts.get? id = some rc
  kept : ∀ id rc, t.refcounts.get? id = some rc →
    t'.refcounts.get? id = some rc ∨ (id ∉ t.active ∧ t.refcount id = 0)

theorem tracked_shrinks (h : Tracked t live) (hs : Shrinks t t') : Tracked t' live := by
  have hactive : ∀ key record, t.store.current.entries.get? key = some record →
      key.adapterId ∈ t.active := by
    intro key record he
    obtain ⟨state, hst, _⟩ := h.coherent.index.sound key record he
    exact AList.mem_of_get? hst
  have hpinned : ∀ p ∈ live, ∀ e ∈ p.pinned, t.refcount e.1.adapterId ≠ 0 := by
    intro p hp e he hz
    rw [refcount_eq_pinCount h] at hz
    exact List.countP_eq_zero.mp hz p hp (decide_eq_true (List.mem_map_of_mem he))
  obtain ⟨⟨⟩⟩ := h
  obtain ⟨⟩ := hs
  refine ⟨⟨?_, ?_, ?_⟩, ?_, ?_, ?_, ?_, ?_, ?_, ?_⟩ <;> grind

theorem shrinks_forget (hn : id ∉ t.active) (hz : t.refcount id = 0) : Shrinks t (t.forget id) := by
  obtain ⟨ha, _, _, hr, hc, hs, hh⟩ := forget_frame t id
  refine ⟨ha, hc, hr, hs, hh, ?_, ?_⟩ <;> simp only [forget] <;> grind

theorem shrinks_cleanup {ids : List AdapterId} (hn : ∀ id ∈ ids, id ∉ t.active)
    (hz : ∀ id ∈ ids, t.refcount id = 0) :
    Shrinks t { t with staged := t.staged.eraseAll ids
                       refcounts := t.refcounts.eraseAll ids } := by
  constructor <;> grind

theorem tracked_registers {names : List AdapterId} (h : Tracked t live)
    (hr : Registers t t' names) (hc : Coherent t')
    (hidx : ∀ key record, t'.store.current.entries.get? key = some record →
      t'.refcounts.get? key.adapterId = some record.refcount) : Tracked t' live := by
  have old : ∀ id rc, t'.refcounts.get? id = some rc → t.refcounts.get? id = some rc ∨
      (t.refcounts.get? id = none ∧ t.heap.next ≤ rc ∧ rc < t'.heap.next ∧
        t'.heap.load rc = 0) := by
    intro id rc hrc
    cases hid : t.refcounts.get? id with
    | some rc' =>
      rw [hr.kept id rc' hid] at hrc
      exact Or.inl hrc
    | none => exact Or.inr ⟨rfl, (hr.fresh id rc hid hrc).2⟩
  have hnone := @pinCount_unregistered t live
  obtain ⟨⟩ := hr.heap
  obtain ⟨⟩ := hr
  refine ⟨hc, ?_, ?_, hidx, ?_, h.distinct, ?_, h.few⟩ <;> obtain ⟨⟩ := id h <;> grind

theorem tracked_preload (h : Tracked t live) (expectedHash hash : B3Hash) (vramMb : Nat)
    (backing : Option AdapterBacking) (now : Nat) :
    Tracked (t.preloadWithBacking id expectedHash hash vramMb backing now).2 live := by
  obtain ⟨staged, rc, heap, hf⟩ := preload_frame t id expectedHash hash vramMb backing now
  have hc : Coherent (t.preloadWithBacking id expectedHash hash vramMb backing now).2 := by
    rw [hf]
    exact ⟨h.coherent.generation, h.coherent.index, h.coherent.saved⟩
  have hstore : (t.preloadWithBacking id expectedHash hash vramMb backing now).2.store =
      t.store := by
    rw [hf]
  unfold preloadWithBacking at hc hstore ⊢
  split
  · exact h
  · rename_i hv
    simp only [hv, if_false] at hc hstore
    have hr := ensureRefcount_registers (t.stage id expectedHash hash vramMb backing now) id
    have hst : Tracked (t.stage id expectedHash hash vramMb backing now) live := by
      unfold stage
      split
      · exact h
      · exact tracked_shrinks h ⟨rfl, rfl, rfl, rfl, rfl, fun _ _ hj => hj, fun _ _ hj => Or.inl hj⟩
    refine tracked_registers hst hr hc ?_
    obtain ⟨⟩ := h
    obtain ⟨⟩ := hr
    grind [stage]

theorem tracked_saveRollback (h : Tracked t live) : Tracked t.saveRollback live :=
  ⟨coherent_saveRollback h.coherent, h.bounded, h.injective, h.indexed, h.held, h.distinct,
    h.counted, h.few⟩

theorem tracked_swap (h : Tracked t live) (addIds removeIds : List AdapterId) :
    Tracked (t.swap addIds removeIds).2 live := by
  have hs := tracked_saveRollback h
  have hc := coherent_swap h.coherent addIds removeIds
  rcases AdapterTable.swap_cases t addIds removeIds with ⟨_, he⟩ | ⟨_, hi⟩
  · rwa [he]
  · refine tracked_registers hs hi.registers hc ?_
    obtain ⟨entries, hst, hidx, hshare⟩ := hi.store_eq
    have hlt : t.saveRollback.store.current.generation < t.saveRollback.currentStack + 1 := by
      have hg := hs.coherent.generation
      omega
    rw [hst, AdapterStore.install_current_of_lt _ hlt]
    intro key record hrec
    obtain ⟨state, hact, _⟩ := hidx.sound key record hrec
    have hreg := hi.registers.registered key.adapterId (AList.mem_keys.mp (AList.mem_of_get? hact))
    obtain ⟨rc, hrc⟩ := AList.mem_iff_get?.mp hreg
    rw [hrc, hshare key record hrec rc hrc]

def SavedRegistered (t : AdapterTable) : Prop :=
  ∀ stack, t.rollbackState = some stack → ∀ id ∈ stack.active, id ∈ t.refcounts

theorem tracked_rollback (h : Tracked t live) (hg : SavedRegistered t) :
    Tracked t.rollback.2 live := by
  have hc := coherent_rollback h.coherent
  cases hr : t.rollbackState with
  | none =>
    rwa [rollback_none hr]
  | some stack =>
    obtain ⟨_, hres⟩ := rollback_some hr
    have hreg : Registers t t.rollback.2 [] := by
      refine ⟨hres.heap, ?_, ?_, ?_, by simp⟩ <;> grind [hres.refcounts_eq]
    refine tracked_registers h hreg hc ?_
    obtain ⟨entries, hst, hidx, hshare⟩ := hres.store_eq
    rw [hst, AdapterStore.installForce_current]
    intro key record hrec
    obtain ⟨state, hact, _⟩ := hidx.sound key record hrec
    have hmem := hg stack hr key.adapterId (AList.mem_of_get? hact)
    rw [← hres.refcounts_eq] at hmem
    obtain ⟨rc, hrc⟩ := AList.mem_iff_get?.mp hmem
    rw [hrc, hshare key record hrec rc hrc]

theorem load_pinEntries {es : List (AdapterCacheKey × AdapterRecord)} {heap : Heap}
    (hn : (es.map (·.2.refcount)).Nodup) (hlt : ∀ e ∈ es, heap.load e.2.refcount + 1 < 2 ^ 64)
    (c : Cell) :
    (AdapterStore.pinEntries heap es).load c =
      if c ∈ es.map (·.2.refcount) then heap.load c + 1 else heap.load c := by
  grind [AdapterStore.load_pinEntries]

theorem indexed_nodup (h : Tracked t live) :
    (t.store.current.entries.items.map (·.1.adapterId)).Nodup ∧
      (t.store.current.entries.items.map (·.2.refcount)).Nodup := by
  have hkeys : (t.store.current.entries.items.map Prod.fst).Nodup := by
    rw [AList.items_keys]
    exact t.store.current.entries.keys_nodup
  have hitems := List.Nodup.of_map _ hkeys
  have hid : ∀ e ∈ t.store.current.entries.items, ∀ e' ∈ t.store.current.entries.items,
      e.1.adapterId = e'.1.adapterId → e = e' := by
    intro e he e' he' heq
    have hg := AList.mem_items.mp he
    have hg' := AList.mem_items.mp he'
    have hkey := h.coherent.index.unique _ _ _ _ hg hg' heq
    grind
  obtain ⟨⟩ := h
  grind [List.Nodup.map_on, AList.mem_items]

theorem mem_pinCurrent_ids (h : Tracked t live) {rc : Cell} (hrc : t.refcounts.get? id = some rc) :
    rc ∈ t.store.current.entries.items.map (·.2.refcount) ↔
      id ∈ (t.store.pinCurrent t.heap).1.ids := by
  have hindexed : ∀ e ∈ t.store.current.entries.items,
      t.refcounts.get? e.1.adapterId = some e.2.refcount :=
    fun e he => h.indexed e.1 e.2 (AList.mem_items.mp he)
  have hinj := h.injective
  simp only [AdapterPins.ids, AdapterStore.pinCurrent, List.map_map, List.mem_map,
    Function.comp_apply]
  constructor <;> rintro ⟨e, he, rfl⟩ <;> exact ⟨e, he, by grind⟩

theorem tracked_pin (h : Tracked t live) (hfew : live.length + 1 < 2 ^ 64) :
    Tracked { t with heap := (t.store.pinCurrent t.heap).2 }
      ((t.store.pinCurrent t.heap).1 :: live) := by
  obtain ⟨hids, hcells⟩ := indexed_nodup h
  have hlt : ∀ e ∈ t.store.current.entries.items, t.heap.load e.2.refcount + 1 < 2 ^ 64 := by
    obtain ⟨⟩ := h
    grind [AList.mem_items, pinCount_le]
  refine ⟨⟨h.coherent.generation, h.coherent.index, h.coherent.saved⟩, ?_, h.injective, h.indexed,
    ?_, ?_, ?_, by simpa using hfew⟩
  · obtain ⟨⟩ := h
    grind [AdapterStore.pinCurrent, AdapterStore.next_pinEntries]
  · intro p hp e he
    rcases List.mem_cons.mp hp with rfl | hp
    · obtain ⟨e', he', rfl⟩ := List.mem_map.mp he
      exact h.indexed e'.1 e'.2 (AList.mem_items.mp he')
    · exact h.held p hp e he
  · obtain ⟨⟩ := h
    grind [AdapterPins.ids, AdapterStore.pinCurrent]
  · intro id rc hrc
    have hload := load_pinEntries hcells hlt rc
    simp only [mem_pinCurrent_ids h hrc, h.counted id rc hrc] at hload
    refine hload.trans ?_
    grind [pinCount]

theorem load_dropFrom {es : List (AdapterCacheKey × Cell)} {heap : Heap}
    (hn : (es.map Prod.snd).Nodup)
    (hpos : ∀ e ∈ es, 1 ≤ heap.load e.2 ∧ heap.load e.2 < 2 ^ 64) :
    (AdapterPins.dropFrom heap es).1 = true ∧
    (AdapterPins.dropFrom heap es).2.next = heap.next ∧ ∀ c,
      (AdapterPins.dropFrom heap es).2.load c =
        if c ∈ es.map Prod.snd then heap.load c - 1 else heap.load c := by
  have hloads : ∀ c ∈ es.map Prod.snd, 1 ≤ heap.load c ∧ heap.load c < 2 ^ 64 := by grind
  have hcovers : ∀ c, (es.map Prod.snd).count c ≤ heap.load c := by grind
  grind [AdapterPins.load_dropFrom]

theorem pinned_nodup (h : Tracked t live) (hp : p ∈ live) : (p.pinned.map Prod.snd).Nodup := by
  have hids : (p.pinned.map (·.1.adapterId)).Nodup := h.distinct p hp
  obtain ⟨⟩ := h
  grind [List.Nodup.map_on, List.Nodup.of_map, List.inj_on_of_nodup_map]

theorem tracked_drop {i : Nat} (h : Tracked t live) (hi : live[i]? = some p) :
    (p.drop t.heap).1 = true ∧ Tracked { t with heap := (p.drop t.heap).2 } (live.eraseIdx i) := by
  obtain ⟨hlt, hget⟩ := List.getElem?_eq_some_iff.mp hi
  have hp : p ∈ live := List.mem_of_getElem? hi
  have hperm : (p :: live.eraseIdx i).Perm live := by
    rw [← hget]
    exact List.getElem_cons_eraseIdx_perm hlt
  have hsub : ∀ q ∈ live.eraseIdx i, q ∈ live :=
    fun q hq => hperm.mem_iff.mp (List.mem_cons_of_mem _ hq)
  have hcount : ∀ id, pinCount live id =
      pinCount (live.eraseIdx i) id + if id ∈ p.ids then 1 else 0 := by
    intro id
    simpa [pinCount, List.countP_cons] using (hperm.countP_eq (fun q => decide (id ∈ q.ids))).symm
  have hmem : ∀ e ∈ p.pinned, 1 ≤ t.heap.load e.2 ∧ t.heap.load e.2 < 2 ^ 64 := by
    intro e he
    have hid : e.1.adapterId ∈ p.ids := List.mem_map_of_mem he
    grind [pinCount_le live e.1.adapterId, h.few, h.counted _ _ (h.held p hp e he)]
  obtain ⟨hok, hnext, hload⟩ := load_dropFrom (pinned_nodup h hp) hmem
  refine ⟨hok, ⟨h.coherent.generation, h.coherent.index, h.coherent.saved⟩, ?_, h.injective,
    h.indexed, fun q hq => h.held q (hsub q hq), fun q hq => h.distinct q (hsub q hq), ?_, ?_⟩
  · intro id rc hrc
    have hb := h.bounded id rc hrc
    change rc < (AdapterPins.dropFrom t.heap p.pinned).2.next
    rwa [hnext]
  · intro id rc hrc
    have hiff : rc ∈ p.pinned.map Prod.snd ↔ id ∈ p.ids := by
      obtain ⟨⟩ := h
      grind [AdapterPins.ids]
    refine (hload rc).trans ?_
    grind [h.counted id rc hrc]
  · exact lt_of_le_of_lt (List.length_eraseIdx_le live i) h.few

section Runs

variable {K : Type*} {b : Backend K} {m m' : HotSwapManager K} {addIds removeIds : List AdapterId}

theorem tracked_evict (h : Tracked m.table live) (id : AdapterId) :
    Tracked (m.evictAdapterById b id).2.table live := by
  rcases evict_cases (b := b) m id with he | ⟨hn, hz, _, he⟩
  · rwa [he]
  · rcases he with he | he
    · rwa [he, detach_table]
    · rw [he]
      exact tracked_shrinks h (shrinks_forget hn hz)

theorem tracked_evictions (h : Tracked m.table live) (he : Evictions b m m') :
    Tracked m'.table live := by
  induction he with
  | refl => exact h
  | step id _ ih => exact tracked_evict ih id

theorem tracked_manager_preload (h : Tracked m.table live) (env : Env) (id : AdapterId)
    (hash : B3Hash) : Tracked (m.preload b env id hash).2.table live := by
  obtain ⟨m₁, m₂, hev, hl, he⟩ := preload_cases b env m id hash
  have h₁ := tracked_evictions h hev
  have h₂ : Tracked m₂.table live := by grind [loadAndAttach_table]
  rcases he with he | ⟨observed, vramMb, backing, hev'⟩
  · rwa [he]
  · exact tracked_evictions (tracked_preload h₂ hash observed vramMb backing env.now) hev'

def CleanupUnpinned (t : AdapterTable) (addIds : List AdapterId) : Prop :=
  ∀ id ∈ t.stagedAddsForSwap addIds, t.refcount id = 0

theorem tracked_cleanup (h : Tracked m.table live) (hg : CleanupUnpinned m.table addIds) :
    Tracked (m.cleanupStagedOnFailure b addIds).table live := by
  have hn : ∀ id ∈ m.table.stagedAddsForSwap addIds, id ∉ m.table.active :=
    fun id hid => (mem_stagedAdds.mp hid).2.2
  have hs := tracked_shrinks h (shrinks_cleanup hn hg)
  simpa only [cleanupStagedOnFailure, detachEach_table] using hs

theorem tracked_manager_swap (h : Tracked m.table live) (env : Env)
    (expected : Option B3Hash) (hg : CleanupUnpinned m.table addIds) :
    Tracked (m.swap b env addIds removeIds expected).2.table live := by
  obtain ⟨m₁, hr, he⟩ := HotSwapManager.swap_cases b env m addIds removeIds expected
  obtain ⟨staged, hm₁⟩ := hr.eq
  have h₁ : Tracked m₁.table live := by
    rw [hm₁]
    exact tracked_shrinks h ⟨rfl, rfl, rfl, rfl, rfl, fun _ _ hj => hj, fun _ _ hj => Or.inl hj⟩
  have hg₁ : CleanupUnpinned m₁.table addIds := by
    intro id hid
    obtain ⟨hadd, hst, hact⟩ := mem_stagedAdds.mp hid
    have hst' := (hr.mem id).mp hst
    rw [hm₁] at hact ⊢
    exact hg id (mem_stagedAdds.mpr ⟨hadd, hst', hact⟩)
  have hatt : (m₁.attachStagedForSwap b addIds).2.table = m₁.table := attachEach_table _
  grind [tracked_cleanup, commitSwap_of_staged, hintSwitch_table, detachRemovedAfterSwap_table,
    tracked_swap]

/-- The manager together with the pins that requests hold. -/
structure PinState (K : Type*) where
  manager : HotSwapManager K
  live : List AdapterPins

inductive PinOp where
  | command (env : Env) (command : AdapterCommand)
  | cleanup (addIds : List AdapterId)
  | evict (id : AdapterId)
  | pin
  | drop (index : Nat)

def PinState.setHeap (s : PinState K) (heap : Heap) (live : List AdapterPins) : PinState K :=
  ⟨{ s.manager with table := { s.manager.table with heap := heap } }, live⟩

def pinStep (b : Backend K) (s : PinState K) : PinOp → PinState K
  | .command env command => { s with manager := (s.manager.execute b env command).2 }
  | .cleanup addIds => { s with manager := s.manager.cleanupStagedOnFailure b addIds }
  | .evict id => { s with manager := (s.manager.evictAdapterById b id).2 }
  | .pin =>
    let pinned := s.manager.table.store.pinCurrent s.manager.table.heap
    s.setHeap pinned.2 (pinned.1 :: s.live)
  | .drop index =>
    match s.live[index]? with
    | some p => s.setHeap (p.drop s.manager.table.heap).2 (s.live.eraseIdx index)
    | none => s

/-- The counter the table consults is at least the number of live pins of the adapter. -/
def PinsCounted (s : PinState K) : Prop :=
  ∀ id, pinCount s.live id ≤ s.manager.table.refcount id

/-- A rollback finds the counters of the saved stack, no pinned adapter can be cleaned up by a
failing swap, and the number of pins fits a machine word. -/
def PinGuard (s : PinState K) : PinOp → Prop
  | .command _ .rollback => SavedRegistered s.manager.table
  | .command _ (.swap addIds _ _) => CleanupUnpinned s.manager.table addIds
  | .command _ (.preload _ _) => True
  | .cleanup addIds => CleanupUnpinned s.manager.table addIds
  | .evict _ => True
  | .pin => s.live.length + 1 < 2 ^ 64
  | .drop _ => True

theorem tracked_step {s : PinState K} {op : PinOp} (h : Tracked s.manager.table s.live)
    (hg : PinGuard s op) :
    Tracked (pinStep b s op).manager.table (pinStep b s op).live := by
  cases op with
  | command env command =>
    simp only [pinStep, execute_state]
    cases command with
    | preload id hash => exact tracked_manager_preload h env id hash
    | swap addIds removeIds expected => exact tracked_manager_swap h env expected hg
    | rollback =>
      simp only [dispatch, rollback_state]
      exact tracked_rollback h hg
  | cleanup addIds => exact tracked_cleanup h hg
  | evict id => exact tracked_evict h id
  | pin => exact tracked_pin h hg
  | drop index =>
    simp only [pinStep]
    cases hi : s.live[index]? with
    | none => exact h
    | some p => exact (tracked_drop h hi).2

/-- A manager with an empty table and no request. -/
def emptyPinState (identity : AdapterCacheIdentity) (kernels : Option K) (repoRoot : Path)
    (tenantId : String) (mode : AdapterIntegrityMode) (budget : Option Nat) : PinState K :=
  ⟨{ table := { AdapterTable.new identity with adapterCacheBudgetBytes := budget }
     kernels := kernels, repoRoot := repoRoot, tenantId := tenantId, integrityMode := mode }, []⟩

theorem tracked_empty (identity : AdapterCacheIdentity) (kernels : Option K) (repoRoot : Path)
    (tenantId : String) (mode : AdapterIntegrityMode) (budget : Option Nat) :
    Tracked (emptyPinState identity kernels repoRoot tenantId mode budget).manager.table [] := by
  have hc := coherent_new identity
  exact ⟨⟨hc.generation, hc.index, hc.saved⟩, nofun, nofun, nofun, nofun, nofun, nofun, by decide⟩

/-- As long as no counter of a pinned adapter is cleaned up and no rollback meets a missing
counter, the table never takes a pinned adapter for an unreferenced one. -/
theorem pinsCounted_of_guarded (b : Backend K) (identity : AdapterCacheIdentity)
    (kernels : Option K) (repoRoot : Path) (tenantId : String) (mode : AdapterIntegrityMode)
    (budget : Option Nat) (ops : List PinOp)
    (hg : Guarded (pinStep b) PinGuard
      (emptyPinState identity kernels repoRoot tenantId mode budget) ops) :
    Always (pinStep b) PinsCounted (emptyPinState identity kernels repoRoot tenantId mode budget)
      ops := by
  refine always_of_guarded (I := fun s => Tracked s.manager.table s.live)
    (fun s op h hop => tracked_step h hop) ?_
    (tracked_empty identity kernels repoRoot tenantId mode budget) hg
  intro s h id
  rw [refcount_eq_pinCount h]

end Runs

instance : DecidablePred SavedRegistered := fun t =>
  decidable_of_iff (∀ stack ∈ t.rollbackState, ∀ id ∈ stack.active.keys, id ∈ t.refcounts) Iff.rfl

instance (addIds : List AdapterId) : Decidable (CleanupUnpinned t addIds) :=
  inferInstanceAs (Decidable (∀ id ∈ t.stagedAddsForSwap addIds, t.refcount id = 0))

instance {K : Type*} (s : PinState K) : (op : PinOp) → Decidable (PinGuard s op)
  | .command _ .rollback => inferInstanceAs (Decidable (SavedRegistered s.manager.table))
  | .command _ (.swap addIds _ _) =>
    inferInstanceAs (Decidable (CleanupUnpinned s.manager.table addIds))
  | .cleanup addIds => inferInstanceAs (Decidable (CleanupUnpinned s.manager.table addIds))
  | .pin => inferInstanceAs (Decidable (s.live.length + 1 < 2 ^ 64))
  | .command _ (.preload _ _) | .evict _ | .drop _ => inferInstanceAs (Decidable True)

def testPinState : PinState (Finset UInt16) :=
  emptyPinState testIdentity (some ∅) ["repo"] "tenant" .enforce none

theorem pinsCounted_pinned_rollback : Always (pinStep testBackend) PinsCounted testPinState
      [.command testEnv (.preload "a" 1), .command testEnv (.swap ["a"] [] none), .pin,
        .command testEnv .rollback, .evict "a", .drop 0, .evict "a"] :=
  pinsCounted_of_guarded testBackend testIdentity (some ∅) ["repo"] "tenant" .enforce none _
    (by decide)

/-- The pinned adapter `a` is staged and no longer active; a swap that fails for want of `b`
throws its counter away, and the table reads zero. -/
theorem pinned_counter_lost : ¬ Always (pinStep testBackend) PinsCounted testPinState
      [.command testEnv (.preload "a" 1), .command testEnv (.swap ["a"] [] none), .pin,
        .command testEnv .rollback, .command testEnv (.swap ["a", "b"] [] none)] := by
  intro h
  have ha := h.initial (List.prefix_refl _) "a"
  revert ha
  decide

end AdapterOS.HotSwap
