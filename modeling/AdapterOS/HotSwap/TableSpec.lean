import AdapterOS.HotSwap.Table
import AdapterOS.Library.Run

/-! What each table operation does to each field, said once. -/
namespace AdapterOS.HotSwap

open Library

namespace AdapterTable

variable {t : AdapterTable} {active staged : AdapterMap} {id : AdapterId}
  {addIds removeIds ids : List AdapterId} {state : AdapterLoadState}
  {l : List (AdapterId × AdapterLoadState)}

/-- The active map a successful swap leaves. -/
def swapActive (active staged : AdapterMap) (addIds removeIds : List AdapterId) : AdapterMap :=
  addIds.foldl (fun m id => match staged.get? id with
    | some adapter => m.insert id (activate adapter)
    | none => m) (removeActive active 0 removeIds).1

theorem get?_removeActive (active : AdapterMap) (delta : Int) (ids : List AdapterId)
    (id : AdapterId) :
    (removeActive active delta ids).1.get? id = if id ∈ ids then none else active.get? id := by
  induction ids generalizing active delta with
  | nil => simp [removeActive]
  | cons j ids ih =>
    cases hj : active.get? j <;> simp only [removeActive, hj, ih] <;> grind

theorem addStaged_ok (h : ∀ id ∈ ids, id ∈ staged) (active : AdapterMap) (delta : Int)
    (count : Nat) : ∃ d, addStaged staged active delta count ids =
      .ok (ids.foldl (fun m id => match staged.get? id with
        | some adapter => m.insert id (activate adapter)
        | none => m) active, d, count + ids.length) := by
  induction ids generalizing active delta count with
  | nil => exact ⟨delta, rfl⟩
  | cons j ids ih =>
    obtain ⟨adapter, hj⟩ := AList.mem_iff_get?.mp (h j (by simp))
    obtain ⟨d, hd⟩ := ih (fun i hi => h i (by simp [hi])) (active.insert j (activate adapter))
      (asI64 (delta + asI64 adapter.vramMb)) (count + 1)
    grind [addStaged]

theorem nextActive_ok (h : ∀ id ∈ addIds, id ∈ staged) (active : AdapterMap)
    (removeIds : List AdapterId) : ∃ d, nextActive active staged addIds removeIds =
      .ok (swapActive active staged addIds removeIds, d, addIds.length) := by
  obtain ⟨d, hd⟩ := addStaged_ok h (removeActive active 0 removeIds).1
    (removeActive active 0 removeIds).2 0
  exact ⟨d, by simpa [nextActive, swapActive] using hd⟩

theorem get?_swapActive (h : ∀ id ∈ addIds, id ∈ staged) (active : AdapterMap)
    (removeIds : List AdapterId) (id : AdapterId) :
    (swapActive active staged addIds removeIds).get? id =
      if id ∈ addIds then (staged.get? id).map activate
      else if id ∈ removeIds then none else active.get? id := by
  rw [← get?_removeActive active 0 removeIds id]
  unfold swapActive
  generalize (removeActive active 0 removeIds).1 = m
  induction addIds generalizing m with
  | nil => simp
  | cons j ids ih => grind [AList.mem_iff_get?]

theorem mem_swapActive (h : ∀ id ∈ addIds, id ∈ staged) :
    id ∈ swapActive active staged addIds removeIds ↔
      id ∈ addIds ∨ (id ∉ removeIds ∧ id ∈ active) := by
  rw [AList.mem_iff_get?, get?_swapActive h]
  by_cases ha : id ∈ addIds
  · obtain ⟨adapter, hj⟩ := AList.mem_iff_get?.mp (h id ha)
    simp [ha, hj]
  · by_cases hr : id ∈ removeIds <;> simp [ha, hr, AList.mem_iff_get?]

@[simp] theorem saveRollback_active : t.saveRollback.active = t.active := rfl

theorem swap_failed (h : ∃ id ∈ addIds, id ∉ t.staged) (removeIds : List AdapterId) :
    ∃ id ∈ addIds, id ∉ t.staged ∧
      t.swap addIds removeIds = (.error (notPreloadedError id), t.saveRollback) := by
  obtain ⟨id, hid, hn⟩ := h
  have hs : (addIds.find? (· ∉ t.saveRollback.staged)).isSome := by
    rw [List.find?_isSome]
    exact ⟨id, hid, decide_eq_true hn⟩
  obtain ⟨j, hj⟩ := Option.isSome_iff_exists.mp hs
  have hp := List.find?_some hj
  refine ⟨j, List.mem_of_find?_eq_some hj, of_decide_eq_true hp, ?_⟩
  simp only [swap, hj]

theorem swap_ok (h : ∀ id ∈ addIds, id ∈ t.staged) (removeIds : List AdapterId) :
    ∃ d, t.swap addIds removeIds = (.ok (d, addIds.length),
      t.saveRollback.installStack (swapActive t.active t.staged addIds removeIds)) := by
  have hf : addIds.find? (· ∉ t.saveRollback.staged) = none := by
    rw [List.find?_eq_none]
    intro id hid hp
    exact of_decide_eq_true hp (h id hid)
  have hst : ∀ id ∈ addIds, id ∈ t.saveRollback.staged := h
  obtain ⟨d, hd⟩ := nextActive_ok hst t.saveRollback.active removeIds
  refine ⟨d, ?_⟩
  simp only [swap, hf, hd]
  rfl

theorem swap_isOk_iff :
    (∃ r, (t.swap addIds removeIds).1 = .ok r) ↔ ∀ id ∈ addIds, id ∈ t.staged := by
  constructor
  · rintro ⟨r, hr⟩
    by_contra hn
    push Not at hn
    obtain ⟨id, _, _, he⟩ := swap_failed hn removeIds
    simp [he] at hr
  · intro h
    obtain ⟨d, hd⟩ := swap_ok h removeIds
    exact ⟨_, by rw [hd]⟩

/-- Counters are registered for `names`; those already there are neither moved nor changed. -/
structure Registers (t t' : AdapterTable) (names : List AdapterId) : Prop where
  heap : t.heap.Extends t'.heap
  kept : ∀ id rc, t.refcounts.get? id = some rc → t'.refcounts.get? id = some rc
  fresh : ∀ id rc, t.refcounts.get? id = none → t'.refcounts.get? id = some rc →
    id ∈ names ∧ t.heap.next ≤ rc ∧ rc < t'.heap.next ∧ t'.heap.load rc = 0
  injective : ∀ i j rc, t.refcounts.get? i = none → t'.refcounts.get? i = some rc →
    t.refcounts.get? j = none → t'.refcounts.get? j = some rc → i = j
  registered : ∀ id ∈ names, id ∈ t'.refcounts

theorem ensureRefcount_registers (t : AdapterTable) (name : AdapterId) :
    Registers t (t.ensureRefcount name) [name] := by
  unfold ensureRefcount
  cases hl : t.refcounts.get? name with
  | some rc => constructor <;> grind [Heap.Extends.refl]
  | none =>
    have hzero : t.heap.alloc.2.load t.heap.alloc.1 = 0 := by simp
    constructor <;> grind [Heap.extends_alloc, Heap.alloc]

theorem ensureRefcount_frame (t : AdapterTable) (name : AdapterId) :
    ∃ rc h, t.ensureRefcount name = { t with refcounts := rc, heap := h } := by
  unfold ensureRefcount
  cases t.refcounts.get? name with
  | some _ => exact ⟨t.refcounts, t.heap, rfl⟩
  | none => exact ⟨_, _, rfl⟩

theorem ensureRefcounts_frame (t : AdapterTable) (names : List AdapterId) :
    ∃ rc h, t.ensureRefcounts names = { t with refcounts := rc, heap := h } := by
  induction names generalizing t with
  | nil => exact ⟨t.refcounts, t.heap, rfl⟩
  | cons name names ih =>
    obtain ⟨rc, h, he⟩ := ensureRefcount_frame t name
    obtain ⟨rc', h', he'⟩ := ih (t.ensureRefcount name)
    refine ⟨rc', h', ?_⟩
    change (t.ensureRefcount name).ensureRefcounts names = _
    rw [he', he]

theorem preload_frame (t : AdapterTable) (id : AdapterId) (expectedHash hash : B3Hash)
    (vramMb : Nat) (backing : Option AdapterBacking) (now : Nat) : ∃ staged rc h,
    (t.preloadWithBacking id expectedHash hash vramMb backing now).2 =
      { t with staged := staged, refcounts := rc, heap := h } := by
  unfold preloadWithBacking
  split
  · exact ⟨t.staged, t.refcounts, t.heap, rfl⟩
  · obtain ⟨rc, h, he⟩ := ensureRefcount_frame (t.stage id expectedHash hash vramMb backing now) id
    grind [stage]

theorem mem_stage {j : AdapterId} {expectedHash hash : B3Hash} {vramMb now : Nat}
    {backing : Option AdapterBacking} :
    j ∈ (t.stage id expectedHash hash vramMb backing now).staged ↔ j = id ∨ j ∈ t.staged := by
  unfold stage
  split
  · simp_all
  · exact AList.mem_insert _

theorem mem_preload_staged {j : AdapterId} {expectedHash hash : B3Hash} {vramMb now : Nat}
    {backing : Option AdapterBacking}
    (h : j ∈ (t.preloadWithBacking id expectedHash hash vramMb backing now).2.staged) :
    j = id ∨ j ∈ t.staged := by
  unfold preloadWithBacking at h
  split at h
  · exact Or.inr h
  · obtain ⟨rc, heap, he⟩ := ensureRefcount_frame (t.stage id expectedHash hash vramMb backing now)
      id
    rw [he] at h
    exact mem_stage.mp h

theorem Registers.trans {t₁ t₂ t₃ : AdapterTable} {ns ms : List AdapterId}
    (ha : Registers t₁ t₂ ns) (hb : Registers t₂ t₃ ms) : Registers t₁ t₃ (ns ++ ms) := by
  have hext := ha.heap.trans hb.heap
  obtain ⟨⟨⟩⟩ := ha
  obtain ⟨⟨⟩⟩ := hb
  refine ⟨hext, by grind, ?_, ?_, by grind [AList.mem_iff_get?]⟩
  · intro id rc
    cases h₂ : t₂.refcounts.get? id <;> grind
  · intro i j rc
    cases hi : t₂.refcounts.get? i <;> cases hj : t₂.refcounts.get? j <;> grind

theorem ensureRefcounts_registers (t : AdapterTable) (names : List AdapterId) :
    Registers t (t.ensureRefcounts names) names := by
  induction names generalizing t with
  | nil => refine ⟨.refl _, fun _ _ h => h, ?_, ?_, by simp⟩ <;> simp_all [ensureRefcounts]
  | cons name names ih => exact (ensureRefcount_registers t name).trans (ih _)

@[simp] theorem cacheKey_adapterId (t : AdapterTable) (id : AdapterId)
    (state : AdapterLoadState) : (t.cacheKey id state).adapterId = id := by
  unfold cacheKey
  cases state.backing <;> rfl

theorem storeEntries_keys (t : AdapterTable) (h : Heap) (l : List (AdapterId × AdapterLoadState)) :
    (t.storeEntries h l).1.map Prod.fst = l.map fun e => t.cacheKey e.1 e.2 := by
  induction l generalizing h with
  | nil => rfl
  | cons e l ih => simp [storeEntries, ih]

theorem mem_storeEntries {h : Heap} {key : AdapterCacheKey} {record : AdapterRecord}
    (hm : (key, record) ∈ (t.storeEntries h l).1) :
    ∃ id state, (id, state) ∈ l ∧ key = t.cacheKey id state ∧ record.hash = state.hash ∧
      ∀ rc, t.refcounts.get? id = some rc → record.refcount = rc := by
  induction l generalizing h with
  | nil => simp [storeEntries] at hm
  | cons e l ih => grind [storeEntries, counterOf]

theorem storeEntries_complete {h : Heap} (hm : (id, state) ∈ l) :
    ∃ record, (t.cacheKey id state, record) ∈ (t.storeEntries h l).1 ∧
      record.hash = state.hash := by
  induction l generalizing h with
  | nil => simp at hm
  | cons e l ih =>
    rcases List.mem_cons.mp hm with rfl | hm
    · exact ⟨_, by simp [storeEntries]; exact Or.inl rfl, rfl⟩
    · obtain ⟨r, hr, hh⟩ := ih (h := (t.counterOf h e.1).2) hm
      exact ⟨r, by simp [storeEntries, hr], hh⟩

theorem storeEntries_heap (t : AdapterTable) (h : Heap)
    (l : List (AdapterId × AdapterLoadState)) : h.Extends (t.storeEntries h l).2 := by
  induction l generalizing h with
  | nil => exact .refl h
  | cons e l ih =>
    have hc : h.Extends (t.counterOf h e.1).2 := by
      unfold counterOf
      cases t.refcounts.get? e.1 with
      | some rc => exact .refl h
      | none => exact Heap.extends_alloc h
    exact hc.trans (ih _)

/-- The index `entries` lists exactly the adapters of `active`, with their hashes. -/
structure IndexOf (active : AdapterMap) (entries : HashMap AdapterCacheKey AdapterRecord) :
    Prop where
  sound : ∀ key record, entries.get? key = some record →
    ∃ state, active.get? key.adapterId = some state ∧ record.hash = state.hash
  complete : ∀ id state, active.get? id = some state →
    ∃ key record, entries.get? key = some record ∧ key.adapterId = id ∧
      record.hash = state.hash
  unique : ∀ key key' record record', entries.get? key = some record →
    entries.get? key' = some record' → key.adapterId = key'.adapterId → key = key'

theorem storeEntries_nodup (t : AdapterTable) (h : Heap) (active : AdapterMap) :
    ((t.storeEntries h active.items).1.map Prod.fst).Nodup := by
  rw [storeEntries_keys]
  have hn : (active.items.map Prod.fst).Nodup := by
    rw [AList.items_keys]
    exact active.keys_nodup
  apply List.Nodup.of_map AdapterCacheKey.adapterId
  simpa [Function.comp_def] using hn

theorem indexOf_storeEntries (t : AdapterTable) (h : Heap) (active : AdapterMap) :
    IndexOf active (HashMap.collect (t.storeEntries h active.items).1) := by
  have hn := storeEntries_nodup t h active
  refine ⟨?_, ?_, ?_⟩
  · intro key record hl
    obtain ⟨id, state, hm, rfl, hh, _⟩ := mem_storeEntries ((HashMap.get?_collect hn).mp hl)
    exact ⟨state, by simpa using AList.mem_items.mp hm, hh⟩
  · intro id state hl
    obtain ⟨record, hr, hh⟩ := storeEntries_complete (t := t) (h := h) (AList.mem_items.mpr hl)
    exact ⟨_, record, (HashMap.get?_collect hn).mpr hr, by simp, hh⟩
  all_goals grind [mem_storeEntries, HashMap.get?_collect, cacheKey_adapterId, AList.mem_items]

def Shares (t : AdapterTable) (entries : HashMap AdapterCacheKey AdapterRecord) : Prop :=
  ∀ key record, entries.get? key = some record →
    ∀ rc, t.refcounts.get? key.adapterId = some rc → record.refcount = rc

theorem shares_storeEntries (t : AdapterTable) (h : Heap) (active : AdapterMap) :
    Shares t (HashMap.collect (t.storeEntries h active.items).1) := by
  intro key record hl rc hrc
  have hm := (HashMap.get?_collect (storeEntries_nodup t h active)).mp hl
  obtain ⟨id, state, _, rfl, _, hs⟩ := mem_storeEntries hm
  exact hs rc (by simpa using hrc)

theorem storeEntries_heap_eq {h : Heap}
    (hr : ∀ e ∈ l, e.1 ∈ t.refcounts) : (t.storeEntries h l).2 = h := by
  induction l generalizing h with
  | nil => rfl
  | cons e l ih =>
    obtain ⟨rc, hrc⟩ := AList.mem_iff_get?.mp (hr e (by simp))
    have hc : (t.counterOf h e.1).2 = h := by simp [counterOf, hrc]
    change (t.storeEntries (t.counterOf h e.1).2 l).2 = h
    rw [hc]
    exact ih (fun e' he' => hr e' (by simp [he']))

/-- A swap's effect once its new active map is fixed. -/
structure Installed (t t' : AdapterTable) (active : AdapterMap) : Prop where
  active_eq : t'.active = active
  staged_eq : t'.staged = t.staged
  rollbackState_eq : t'.rollbackState = t.rollbackState
  currentStack_eq : t'.currentStack = t.currentStack + 1
  retiredStacks_eq : t'.retiredStacks = t.retiredStacks ++ [⟨t.currentStack, t.active⟩]
  retryCounts_eq : t'.retryCounts = t.retryCounts
  cacheIdentity_eq : t'.cacheIdentity = t.cacheIdentity
  budget_eq : t'.adapterCacheBudgetBytes = t.adapterCacheBudgetBytes
  registers : Registers t t' active.keys
  store_eq : ∃ entries, t'.store = t.store.install (t.currentStack + 1) entries ∧
    IndexOf active entries ∧ Shares t' entries

theorem installStack_spec (t : AdapterTable) (active : AdapterMap) :
    Installed t (t.installStack active) active := by
  obtain ⟨rc, h, he⟩ := ensureRefcounts_frame t active.keys
  have hr := ensureRefcounts_registers t active.keys
  let r := (t.ensureRefcounts active.keys).commit active (t.currentStack + 1)
  have hi : t.installStack active =
      (r.publish active (t.currentStack + 1)).retire t.currentStack t.active := by
    simp [installStack, retireIf, r]
  have hreg : ∀ e ∈ active.items, e.1 ∈ r.refcounts := by
    intro e hm
    apply hr.registered
    rw [← AList.items_keys]
    exact List.mem_map_of_mem hm
  have hheap : (t.installStack active).heap = (t.ensureRefcounts active.keys).heap := by
    rw [hi]
    exact storeEntries_heap_eq hreg
  have hrefs : (t.installStack active).refcounts = (t.ensureRefcounts active.keys).refcounts := by
    rw [hi]
    rfl
  have hregisters : Registers t (t.installStack active) active.keys := by
    obtain ⟨⟩ := hr
    constructor <;> simpa only [hheap, hrefs]
  refine ⟨?_, ?_, ?_, ?_, ?_, ?_, ?_, ?_, hregisters, ?_⟩ <;> rw [hi]
  iterate 8 simp [retire, publish, commit, r, he]
  · refine ⟨HashMap.collect (r.storeEntries r.heap active.items).1, ?_,
      indexOf_storeEntries r r.heap active, shares_storeEntries r r.heap active⟩
    simp [retire, publish, commit, r, he]

theorem swap_cases (t : AdapterTable) (addIds removeIds : List AdapterId) :
    ((∃ id ∈ addIds, id ∉ t.staged) ∧ (t.swap addIds removeIds).2 = t.saveRollback) ∨
    ((∀ id ∈ addIds, id ∈ t.staged) ∧ Installed t.saveRollback (t.swap addIds removeIds).2
      (swapActive t.active t.staged addIds removeIds)) := by
  by_cases h : ∀ id ∈ addIds, id ∈ t.staged
  · obtain ⟨d, hd⟩ := swap_ok h removeIds
    refine Or.inr ⟨h, ?_⟩
    rw [hd]
    exact installStack_spec _ _
  · push Not at h
    obtain ⟨_, _, _, he⟩ := swap_failed h removeIds
    exact Or.inl ⟨h, by rw [he]⟩

/-- A rollback's effect: no counter is registered, but an unregistered one may appear. -/
structure Restored (t t' : AdapterTable) (stack : Stack) : Prop where
  active_eq : t'.active = stack.active
  staged_eq : t'.staged = t.staged
  currentStack_eq : t'.currentStack = stack.generation
  refcounts_eq : t'.refcounts = t.refcounts
  retiredStacks_eq : t'.retiredStacks = if t.currentStack > stack.generation then
    t.retiredStacks ++ [⟨t.currentStack, t.active⟩] else t.retiredStacks
  retryCounts_eq : t'.retryCounts = t.retryCounts
  cacheIdentity_eq : t'.cacheIdentity = t.cacheIdentity
  budget_eq : t'.adapterCacheBudgetBytes = t.adapterCacheBudgetBytes
  rollbackState_eq : t'.rollbackState = none
  heap : t.heap.Extends t'.heap
  store_eq : ∃ entries, t'.store = t.store.installForce stack.generation entries ∧
    IndexOf stack.active entries ∧ Shares t' entries

theorem rollback_none (h : t.rollbackState = none) : t.rollback = (.error noRollbackError, t) := by
  simp [rollback, h]

theorem rollback_some {stack : Stack} (h : t.rollbackState = some stack) :
    t.rollback.1 = .ok () ∧ Restored t t.rollback.2 stack := by
  have he : t.rollback = (.ok (), { t.restoreStack stack with rollbackState := none }) := by
    simp [rollback, h]
  refine ⟨by rw [he], ?_⟩
  rw [he]
  have hx := storeEntries_heap (t.commit stack.active stack.generation) t.heap stack.active.items
  by_cases hg : t.currentStack > stack.generation
  all_goals
    refine ⟨?_, ?_, ?_, ?_, ?_, ?_, ?_, ?_, rfl, ?_, ?_⟩
    all_goals try simp [restoreStack, retireIf, hg, retire, publishForce, commit]
    · exact hx
    · exact ⟨_, rfl, indexOf_storeEntries _ _ stack.active, shares_storeEntries _ _ stack.active⟩

end AdapterTable

end AdapterOS.HotSwap
