import AdapterOS.Worker.ModelHandleCache
import AdapterOS.Library.Run

/-! Guards and pins of the model cache over sequences of operations. -/
namespace AdapterOS.Worker

open Library

namespace ModelHandleCache

variable {H : Type*} {s t u : ModelHandleCache H} {key k : ModelKey} {now : Instant}

def Held (s : ModelHandleCache H) (k : ModelKey) : Prop := s.activeCount k ≠ 0 ∨ k ∈ s.pinnedKeys

def Resident (s : ModelHandleCache H) : Prop := ∀ k, s.Held k → k ∈ s.cache

/-- Counts and pins stay, and so does every model they hold. -/
structure Keeps (s t : ModelHandleCache H) : Prop where
  activeCount : ∀ k, t.activeCount k = s.activeCount k
  pinnedKeys : t.pinnedKeys = s.pinnedKeys
  mem : ∀ k, s.Held k → k ∈ s.cache → k ∈ t.cache

namespace Keeps

theorem refl (s : ModelHandleCache H) : s.Keeps s := ⟨fun _ => rfl, rfl, fun _ _ h => h⟩

theorem held_iff (h : s.Keeps t) : t.Held k ↔ s.Held k := by
  rw [Held, Held, h.activeCount, h.pinnedKeys]

theorem trans (h : s.Keeps t) (h' : t.Keeps u) : s.Keeps u where
  activeCount k := (h'.activeCount k).trans (h.activeCount k)
  pinnedKeys := h'.pinnedKeys.trans h.pinnedKeys
  mem k hk hc := h'.mem k (h.held_iff.mpr hk) (h.mem k hk hc)

theorem resident (h : s.Keeps t) (hs : s.Resident) : t.Resident := by
  intro k hk
  have hk' := h.held_iff.mp hk
  exact h.mem k hk' (hs k hk')

end Keeps

theorem activeCount_erase (m : HashMap ModelKey Nat) (key k : ModelKey) :
    ((m.erase key).get? k).getD 0 = if k = key then 0 else (m.get? k).getD 0 := by
  rw [AList.get?_erase]
  split <;> rfl

section Evict

theorem keeps_takeOut (h : ¬ s.Held key) : s.Keeps (s.takeOut key) where
  activeCount _ := rfl
  pinnedKeys := rfl
  mem k hk hc := by
    have hne : k ≠ key := fun heq => h (heq ▸ hk)
    exact AList.mem_erase.mpr ⟨hne, hc⟩

theorem keeps_settleRemoval {bytes : UInt64} (h : ¬ s.Held key) :
    s.Keeps (s.settleRemoval key bytes) where
  activeCount k := by
    have hzero : s.activeCount key = 0 := by simpa using (not_or.mp h).1
    change ((s.activeCounts.erase key).get? k).getD 0 = s.activeCount k
    rw [activeCount_erase]
    split
    · rename_i heq
      rw [heq, hzero]
    · rfl
  pinnedKeys := rfl
  mem _ _ hc := hc

theorem keeps_removeEntry {bytes : UInt64} (h : ¬ s.Held key) : s.Keeps (s.removeEntry key bytes) :=
  (keeps_takeOut h).trans (keeps_settleRemoval h)

theorem not_held_iff : ¬ s.Held key ↔ (s.isActive key || s.isPinned key) = false := by
  simp [Held, isActive, isPinned]

theorem keeps_evictEntries (target : UInt64) (entries : List (ModelKey × CachedModelEntry H))
    (freed : UInt64) (s : ModelHandleCache H) :
    s.Keeps (evictEntries target entries freed s).2 := by
  induction entries generalizing freed s with
  | nil => exact .refl s
  | cons e entries ih =>
    unfold evictEntries
    split
    · exact .refl s
    · split
      · exact ih _ _
      · rename_i hidle
        exact (keeps_removeEntry (not_held_iff.mpr (by simpa using hidle))).trans (ih _ _)

theorem Keeps.withStats (h : s.Keeps t) (stats : CacheStats) : s.Keeps { t with stats } :=
  ⟨h.activeCount, h.pinnedKeys, h.mem⟩

theorem keeps_recordSkips (s : ModelHandleCache H) (short : Shortage) :
    s.Keeps (s.recordSkips short) := by
  unfold recordSkips
  dsimp only
  split <;> split <;> first | exact .refl s | exact (Keeps.refl s).withStats _

theorem keeps_evictForSizeLocked (s : ModelHandleCache H) (needed : UInt64)
    (modelKey : Option ModelKey) : s.Keeps (s.evictForSizeLocked needed modelKey).2 := by
  unfold evictForSizeLocked
  split
  · exact .refl s
  · have h := (keeps_evictEntries (s.shortage needed).target s.evictionEntries 0 s).trans
      (keeps_recordSkips _ (s.shortage needed))
    dsimp only
    split
    · exact h
    · exact h

theorem keeps_unload (s : ModelHandleCache H) (key : ModelKey) : s.Keeps (s.unload key).2 := by
  unfold unload
  split
  · exact .refl s
  · split
    · exact .refl s
    · rename_i hpin hact
      split
      · exact .refl s
      · exact keeps_removeEntry (not_held_iff.mpr (by simp [hpin, hact]))

end Evict

section Load

theorem keeps_insertEntry {handle : H} {bytes : UInt64} :
    s.Keeps (s.insertEntry key now handle bytes) :=
  ⟨fun _ => rfl, rfl, fun _ _ hc => AList.mem_insert _ |>.mpr (.inr hc)⟩

/-- A load keeps what is held, and a successful one leaves its model in the cache. -/
structure Loads {ε : Type*} (s : ModelHandleCache H) (key : ModelKey)
    (r : Except ε H × ModelHandleCache H) : Prop where
  keeps : s.Keeps r.2
  mem : ∀ handle, r.1 = .ok handle → key ∈ r.2.cache

theorem loads_insertLoaded (s : ModelHandleCache H) (key : ModelKey) (now : Instant) (handle : H)
    (bytes : UInt64) : Loads s key (s.insertLoaded key now handle bytes) := by
  unfold insertLoaded
  split
  · rename_i entry hget
    exact ⟨.refl s, fun _ _ => AList.mem_of_get? hget⟩
  · have h := s.keeps_evictForSizeLocked bytes (some key)
    split
    · rename_i heq
      rw [heq] at h
      exact ⟨h, fun _ hok => by cases hok⟩
    · rename_i heq
      rw [heq] at h
      exact ⟨h.trans keeps_insertEntry, fun _ _ => AList.mem_insert _ |>.mpr (.inl rfl)⟩

theorem loads_hit {entry : CachedModelEntry H} (h : s.cache.get? key = some entry) {ε : Type*}
    (result : Except ε H) : Loads s key (result, s.recordHit) :=
  ⟨(Keeps.refl s).withStats _, fun _ _ => AList.mem_of_get? h⟩

theorem loads_loadAndCacheModel (s : ModelHandleCache H) (key : ModelKey) (now : Instant)
    (loader : Loaded H) : Loads s key (s.loadAndCacheModel key now loader) := by
  unfold loadAndCacheModel
  split
  · exact loads_hit ‹_› _
  · split
    · exact ⟨.refl s, fun _ hok => by cases hok⟩
    · exact s.loads_insertLoaded key now _ _

theorem loads_getOrLoad (s : ModelHandleCache H) (key : ModelKey) (now : Instant)
    (loader : Loaded H) : Loads s key (s.getOrLoad key now loader) := by
  unfold getOrLoad
  split
  · exact loads_hit ‹_› _
  · obtain ⟨hkeeps, hmem⟩ := s.loads_loadAndCacheModel key now loader
    generalize s.loadAndCacheModel key now loader = r at hkeeps hmem
    obtain ⟨result, t⟩ := r
    cases result with
    | error e => exact ⟨hkeeps, fun _ hok => by cases hok⟩
    | ok handle => exact ⟨hkeeps, fun _ _ => hmem handle rfl⟩

end Load

section Pin

theorem resident_of_pins (hs : s.Resident) (hcount : ∀ k, t.activeCount k = s.activeCount k)
    (hcache : t.cache = s.cache) (hpin : ∀ k ∈ t.pinnedKeys, k ∈ s.pinnedKeys ∨ k ∈ s.cache) :
    t.Resident := by
  intro k hk
  rw [hcache]
  rcases hk with hact | hpinned
  · exact hs k (.inl (hcount k ▸ hact))
  · rcases hpin k hpinned with hp | hc
    · exact hs k (.inr hp)
    · exact hc

/-- What an operation on pins comes to. -/
structure Repins (s t : ModelHandleCache H) : Prop where
  cache : t.cache = s.cache
  activeCounts : t.activeCounts = s.activeCounts
  pinnedKeys : ∀ k ∈ t.pinnedKeys, k ∈ s.pinnedKeys ∨ k ∈ s.cache

namespace Repins

theorem refl (s : ModelHandleCache H) : s.Repins s := ⟨rfl, rfl, fun _ h => .inl h⟩

theorem trans (h : s.Repins t) (h' : t.Repins u) : s.Repins u where
  cache := h'.cache.trans h.cache
  activeCounts := h'.activeCounts.trans h.activeCounts
  pinnedKeys k hk := by
    rcases h'.pinnedKeys k hk with hp | hc
    · exact h.pinnedKeys k hp
    · exact .inr (h.cache ▸ hc)

theorem activeCount (h : s.Repins t) (k : ModelKey) : t.activeCount k = s.activeCount k := by
  rw [ModelHandleCache.activeCount, h.activeCounts]
  rfl

theorem resident (h : s.Repins t) (hs : s.Resident) : t.Resident :=
  resident_of_pins hs h.activeCount h.cache h.pinnedKeys

end Repins

theorem repins_insertPin (hc : key ∈ s.cache) : s.Repins (s.insertPin key now) where
  cache := rfl
  activeCounts := rfl
  pinnedKeys k hk := by
    rcases (AList.mem_insert _).mp hk with rfl | hp
    · exact .inr hc
    · exact .inl hp

theorem repins_pin (s : ModelHandleCache H) (key : ModelKey) (now : Instant) :
    s.Repins (s.pin key now).2 := by
  unfold pin registerPin
  split
  · split
    · exact .refl s
    · split
      · exact .refl s
      · exact repins_insertPin ‹_›
  · exact .refl s

theorem repins_unpin (s : ModelHandleCache H) (key : ModelKey) : s.Repins (s.unpin key).2 := by
  unfold unpin
  split
  · exact ⟨rfl, rfl, fun k hk => .inl (AList.mem_erase.mp hk).2⟩
  · exact .refl s

theorem repins_gcStalePins (s : ModelHandleCache H) (now : Instant) (timeout : Nat) :
    s.Repins (s.gcStalePins now timeout).2 := by
  have hfold : ∀ (keys : List ModelKey) (r : Nat × ModelHandleCache H), s.Repins r.2 →
      s.Repins (keys.foldl gcStep r).2 := by
    intro keys
    induction keys with
    | nil => exact fun _ h => h
    | cons key keys ih =>
      intro r h
      refine ih _ ?_
      have hunpin := r.2.repins_unpin key
      unfold gcStep
      split
      · rename_i heq
        rw [heq] at hunpin
        exact h.trans hunpin
      · rename_i heq
        rw [heq] at hunpin
        exact h.trans hunpin
  unfold gcStalePins
  have h := hfold ((s.pinnedTimestamps.items.filter fun e => timeout < now - e.2).map Prod.fst)
    (0, s) (.refl s)
  dsimp only
  split
  · exact ⟨h.cache, h.activeCounts, h.pinnedKeys⟩
  · exact h

end Pin

section Base

theorem keeps_setBaseModelKey (s : ModelHandleCache H) (key : ModelKey) :
    s.Keeps (s.setBaseModelKey key) := by
  unfold setBaseModelKey
  split
  · exact .refl s
  · exact ⟨fun _ => rfl, rfl, fun _ _ h => h⟩

/-- Counts stay, and every model that is held is in the cache. -/
structure Safe (s t : ModelHandleCache H) : Prop where
  activeCount : ∀ k, t.activeCount k = s.activeCount k
  resident : s.Resident → t.Resident

theorem Safe.trans (h : s.Safe t) (h' : t.Safe u) : s.Safe u :=
  ⟨fun k => (h'.activeCount k).trans (h.activeCount k), fun hs => h'.resident (h.resident hs)⟩

theorem Keeps.safe (h : s.Keeps t) : s.Safe t := ⟨h.activeCount, h.resident⟩

theorem Repins.safe (h : s.Repins t) : s.Safe t := ⟨h.activeCount, h.resident⟩

theorem safe_displacePin (s : ModelHandleCache H) (key : ModelKey) (now : Instant) (handle : H)
    (displaced : ModelKey) : s.Safe (s.displacePin key now handle displaced).2 := by
  have hunpin := (s.repins_unpin displaced).safe
  unfold displacePin
  split
  · rename_i heq
    rwa [heq] at hunpin
  · rename_i t heq
    rw [heq] at hunpin
    have hunload := hunpin.trans (t.keeps_unload displaced).safe
    split
    · rename_i heq
      rw [heq] at hunload
      dsimp only
      split
      · exact hunload.trans (repins_pin _ displaced now).safe
      · exact hunload
    · rename_i u heq
      rw [heq] at hunload
      have hpin := hunload.trans (u.repins_pin key now).safe
      split
      · rename_i heq
        rwa [heq] at hpin
      · rename_i heq
        rwa [heq] at hpin

theorem safe_pinBaseModel (handle : H) (hc : key ∈ s.cache) :
    s.Safe (s.pinBaseModel key now handle).2 := by
  unfold pinBaseModel
  split
  · exact (Keeps.refl s).safe
  · split
    · split
      · exact (Keeps.refl s).safe
      · exact (Keeps.refl s).safe
      · exact s.safe_displacePin key now handle _
    · exact (repins_insertPin hc).safe

theorem safe_getOrLoadBaseModel (s : ModelHandleCache H) (key : ModelKey)
    (now pinnedAt : Instant) (loader : Loaded H) :
    s.Safe (s.getOrLoadBaseModel key now pinnedAt loader).2 := by
  obtain ⟨hkeeps, hmem⟩ := (s.setBaseModelKey key).loads_getOrLoad key now loader
  have hload := ((s.keeps_setBaseModelKey key).trans hkeeps).safe
  unfold getOrLoadBaseModel
  generalize (s.setBaseModelKey key).getOrLoad key now loader = r at hmem hload
  obtain ⟨result, t⟩ := r
  cases result with
  | error e => exact hload
  | ok handle => exact hload.trans (safe_pinBaseModel handle (hmem handle rfl))

end Base

section Use

@[simp] theorem activeCount_registerActive (s : ModelHandleCache H) (key k : ModelKey) :
    (s.registerActive key).activeCount k =
      if k = key then s.activeCount key + 1 else s.activeCount k := by
  unfold registerActive
  rw [activeCount, AList.get?_insert]
  split <;> rfl

theorem activeCount_markInactive (s : ModelHandleCache H) (key k : ModelKey) :
    (s.markInactive key).2.activeCount k =
      if k = key then s.activeCount key - 1 else s.activeCount k := by
  grind [markInactive, activeCount, activeCount_erase]

theorem cache_markInactive (s : ModelHandleCache H) (key : ModelKey) :
    (s.markInactive key).2.cache = s.cache ∧ (s.markInactive key).2.pinnedKeys = s.pinnedKeys := by
  unfold markInactive
  split
  · split <;> exact ⟨rfl, rfl⟩
  · exact ⟨rfl, rfl⟩

theorem resident_markInactive (hs : s.Resident) : (s.markInactive key).2.Resident := by
  obtain ⟨hcache, hpin⟩ := s.cache_markInactive key
  intro k hk
  rw [hcache]
  refine hs k (hk.imp (fun hact hzero => hact ?_) fun hp => hpin ▸ hp)
  rw [activeCount_markInactive]
  split
  · rename_i heq
    rw [← heq, hzero]
  · exact hzero

theorem resident_registerActive (hs : s.Resident) (hc : key ∈ s.cache) :
    (s.registerActive key).Resident := by
  intro k hk
  by_cases heq : k = key
  · exact heq ▸ hc
  · refine hs k (hk.imp (fun hact => ?_) id)
    rwa [activeCount_registerActive, if_neg heq] at hact

end Use

end ModelHandleCache

open ModelHandleCache

inductive ModelOp (H : Type*) where
  | getOrLoad (key : ModelKey) (now : Instant) (loader : Loaded H)
  | getOrLoadBaseModel (key : ModelKey) (now pinnedAt : Instant) (loader : Loaded H)
  | pin (key : ModelKey) (now : Instant)
  | unpin (key : ModelKey)
  | beginUse (key : ModelKey)
  | dropGuard (key : ModelKey)
  | transitionModel (previous next : ModelKey) (now : Instant) (loader : Loaded H)
  | unload (key : ModelKey)
  | gcStalePins (now : Instant) (timeout : Nat)

/-- The cache with the keys of the guards that are alive. -/
structure GuardedCache (H : Type*) where
  handles : ModelHandleCache H
  guards : List ModelKey

namespace GuardedCache

variable {H : Type*} {c : GuardedCache H} {op : ModelOp H}

def perform (c : GuardedCache H) : ModelOp H → GuardedCache H
  | .getOrLoad key now loader => { c with handles := (c.handles.getOrLoad key now loader).2 }
  | .getOrLoadBaseModel key now pinnedAt loader =>
    { c with handles := (c.handles.getOrLoadBaseModel key now pinnedAt loader).2 }
  | .pin key now => { c with handles := (c.handles.pin key now).2 }
  | .unpin key => { c with handles := (c.handles.unpin key).2 }
  | .beginUse key =>
    match c.handles.markActive key with
    | (true, handles) => ⟨handles, key :: c.guards⟩
    | (false, _) => c
  | .dropGuard key =>
    -- only a guard that exists can be dropped or released
    if key ∈ c.guards then ⟨(c.handles.markInactive key).2, c.guards.erase key⟩ else c
  | .transitionModel previous next now loader =>
    { c with handles := (c.handles.transitionModel previous next now loader).2 }
  | .unload key => { c with handles := (c.handles.unload key).2 }
  | .gcStalePins now timeout => { c with handles := (c.handles.gcStalePins now timeout).2 }

/-- A model with a guard is cached and active, no other model is active, and pinned models are
cached. -/
structure Protected (c : GuardedCache H) : Prop where
  mem : ∀ k ∈ c.guards, k ∈ c.handles.cache
  isActive_iff : ∀ k, c.handles.isActive k ↔ k ∈ c.guards
  pinned_mem : ∀ k ∈ c.handles.pinnedKeys, k ∈ c.handles.cache

def SparesPins (s t : ModelHandleCache H) : Prop :=
  ∀ k ∈ s.pinnedKeys, k ∈ s.cache → k ∈ t.cache

/-- The part of an operation that can evict leaves every pinned model in the cache. -/
def EvictionSparesPins (c : GuardedCache H) : ModelOp H → Prop
  | .getOrLoad key now loader => SparesPins c.handles (c.handles.getOrLoad key now loader).2
  | .getOrLoadBaseModel key now _ loader =>
    SparesPins c.handles ((c.handles.setBaseModelKey key).getOrLoad key now loader).2
  | .transitionModel _ next now loader =>
    SparesPins c.handles (c.handles.getOrLoad next now loader).2
  | .unload key => SparesPins c.handles (c.handles.unload key).2
  | _ => True

def LeavesGuards (c : GuardedCache H) : ModelOp H → Prop
  | .transitionModel previous next _ loader =>
    previous ∉ c.guards ∨ next ∉ c.handles.cache ∧ loader.toOption = none
  | _ => True

theorem evictionSparesPins (c : GuardedCache H) (op : ModelOp H) : c.EvictionSparesPins op := by
  have hspares : ∀ {s t : ModelHandleCache H}, s.Keeps t → SparesPins s t :=
    fun h k hp hc => h.mem k (.inr hp) hc
  cases op with
  | getOrLoad key now loader => exact hspares (c.handles.loads_getOrLoad key now loader).keeps
  | getOrLoadBaseModel key now pinnedAt loader =>
    exact hspares ((c.handles.keeps_setBaseModelKey key).trans
      (loads_getOrLoad _ key now loader).keeps)
  | transitionModel previous next now loader =>
    exact hspares (c.handles.loads_getOrLoad next now loader).keeps
  | unload key => exact hspares (c.handles.keeps_unload key)
  | _ => trivial

/-- The counts are those of the guards. -/
structure Accounted (c : GuardedCache H) : Prop where
  resident : c.handles.Resident
  activeCount : ∀ k, c.handles.activeCount k = c.guards.count k

theorem Accounted.protected (h : c.Accounted) : c.Protected where
  mem k hk := by
    refine h.resident k (.inl ?_)
    rw [h.activeCount]
    exact (List.count_pos_iff.mpr hk).ne'
  isActive_iff k := by simp [isActive, h.activeCount]
  pinned_mem k hk := h.resident k (.inr hk)

theorem Accounted.safe {handles : ModelHandleCache H} (h : c.Accounted)
    (hsafe : c.handles.Safe handles) : Accounted { c with handles } :=
  ⟨hsafe.resident h.resident, fun k => (hsafe.activeCount k).trans (h.activeCount k)⟩

theorem accounted_beginUse (key : ModelKey) (h : c.Accounted) :
    (c.perform (.beginUse key)).Accounted := by
  by_cases hc : key ∈ c.handles.cache
  · simp only [perform, markActive, if_pos hc]
    refine ⟨resident_registerActive h.resident hc, fun k => ?_⟩
    obtain ⟨⟩ := h
    grind [activeCount_registerActive]
  · simpa only [perform, markActive, if_neg hc] using h

theorem accounted_dropGuard (key : ModelKey) (h : c.Accounted) :
    (c.perform (.dropGuard key)).Accounted := by
  simp only [perform]
  split
  · refine ⟨resident_markInactive h.resident, fun k => ?_⟩
    obtain ⟨⟩ := h
    grind [activeCount_markInactive]
  · exact h

theorem accounted_transitionModel {previous next : ModelKey} {now : Instant} {loader : Loaded H}
    (h : c.Accounted) (hg : c.LeavesGuards (.transitionModel previous next now loader)) :
    (c.perform (.transitionModel previous next now loader)).Accounted := by
  obtain ⟨hkeeps, _⟩ := c.handles.loads_getOrLoad next now loader
  have hfail : next ∉ c.handles.cache ∧ loader.toOption = none →
      ∃ e, (c.handles.getOrLoad next now loader).1 = .error e := by
    rintro ⟨hmiss, hnone⟩
    cases loader with
    | error e =>
      simp [getOrLoad, loadAndCacheModel, AList.get?_eq_none.mpr hmiss, Except.mapError]
    | ok v => cases hnone
  simp only [perform, transitionModel]
  generalize c.handles.getOrLoad next now loader = r at hkeeps hfail
  obtain ⟨result, t⟩ := r
  cases result with
  | error e => exact h.safe hkeeps.safe
  | ok handle =>
    have hguard : previous ∉ c.guards := by
      rcases hg with hg | hg
      · exact hg
      · obtain ⟨e, he⟩ := hfail hg
        cases he
    have hsafe := h.safe (hkeeps.safe.trans (t.repins_unpin previous).safe)
    refine ⟨resident_markInactive hsafe.resident, fun k => ?_⟩
    obtain ⟨⟩ := hsafe
    grind [activeCount_markInactive]

theorem accounted_perform (h : c.Accounted) (hg : c.LeavesGuards op) :
    (c.perform op).Accounted := by
  cases op with
  | getOrLoad key now loader => exact h.safe (c.handles.loads_getOrLoad key now loader).keeps.safe
  | getOrLoadBaseModel key now pinnedAt loader =>
    exact h.safe (c.handles.safe_getOrLoadBaseModel key now pinnedAt loader)
  | pin key now => exact h.safe (c.handles.repins_pin key now).safe
  | unpin key => exact h.safe (c.handles.repins_unpin key).safe
  | beginUse key => exact accounted_beginUse key h
  | dropGuard key => exact accounted_dropGuard key h
  | transitionModel previous next now loader => exact accounted_transitionModel h hg
  | unload key => exact h.safe (c.handles.keeps_unload key).safe
  | gcStalePins now timeout => exact h.safe (c.handles.repins_gcStalePins now timeout).safe

def new (maxMemoryBytes : UInt64) (maxPinnedEntries : Nat) (conflictMode : PinConflictMode) :
    GuardedCache H :=
  ⟨.new maxMemoryBytes maxPinnedEntries conflictMode, []⟩

theorem accounted_new (maxMemoryBytes : UInt64) (maxPinnedEntries : Nat)
    (conflictMode : PinConflictMode) :
    (new maxMemoryBytes maxPinnedEntries conflictMode : GuardedCache H).Accounted where
  resident k hk := by
    rcases hk with hact | hpin
    · exact absurd rfl hact
    · exact absurd hpin (AList.notMem_empty k)
  activeCount _ := rfl

/-- Guards and pins protect their models along every run whose transitions leave models in use
alone. -/
theorem protected_of_leavesGuards (maxMemoryBytes : UInt64) (maxPinnedEntries : Nat)
    (conflictMode : PinConflictMode) (ops : List (ModelOp H))
    (hg : Guarded perform LeavesGuards (new maxMemoryBytes maxPinnedEntries conflictMode) ops) :
    Always perform Protected (new maxMemoryBytes maxPinnedEntries conflictMode) ops ∧
      Guarded perform EvictionSparesPins (new maxMemoryBytes maxPinnedEntries conflictMode) ops :=
  ⟨always_of_guarded (fun _ _ h hop => accounted_perform h hop) (fun _ h => h.protected)
      (accounted_new maxMemoryBytes maxPinnedEntries conflictMode) hg,
    guarded_of_forall fun c op _ => c.evictionSparesPins op⟩

section Runs

instance (c : GuardedCache H) : DecidablePred c.LeavesGuards
  | .transitionModel previous next _ loader =>
    inferInstanceAs (Decidable (previous ∉ c.guards ∨
      next ∉ c.handles.cache ∧ loader.toOption = none))
  | .getOrLoad .. | .getOrLoadBaseModel .. | .pin .. | .unpin _ | .beginUse _ | .dropGuard _
  | .unload _ | .gcStalePins .. => .isTrue trivial

def metalKey (n : Nat) : ModelKey where
  backendType := .metal
  manifestHash := .ofNat 256 n
  identity :=
    { kernelVersionId := "1", quantizationMode := "fp16_bf16_backend", fusionMode := "per_token" }

/-- The guard is given back before the transition that leads to an eviction. -/
def releasedRun : List (ModelOp Unit) :=
  [.getOrLoadBaseModel (metalKey 1) 0 0 (.ok ((), 6)), .beginUse (metalKey 1),
    .transitionModel (metalKey 1) (metalKey 2) 1 (.error (.worker "no such file")),
    .unload (metalKey 1), .dropGuard (metalKey 1),
    .transitionModel (metalKey 1) (metalKey 2) 2 (.ok ((), 2)), .pin (metalKey 2) 3,
    .getOrLoad (metalKey 3) 4 (.ok ((), 6)), .gcStalePins 9 5, .unpin (metalKey 2)]

theorem releasedRun_protected : Always perform Protected (new 10 1 .enforce) releasedRun ∧
      Guarded perform EvictionSparesPins (new 10 1 .enforce) releasedRun :=
  protected_of_leavesGuards 10 1 .enforce releasedRun (by decide)

/-- The transition gives back the use of a guard that is still alive, and the next load evicts the
model under it. -/
def transitionRun : List (ModelOp Unit) :=
  [.getOrLoad (metalKey 1) 0 (.ok ((), 6)), .beginUse (metalKey 1),
    .transitionModel (metalKey 1) (metalKey 2) 1 (.ok ((), 2)),
    .getOrLoad (metalKey 3) 2 (.ok ((), 6))]

theorem transitionRun_evicts_guarded : let c := run perform (new 10 1 .shadow) transitionRun
    metalKey 1 ∈ c.guards ∧ c.handles.isActive (metalKey 1) = false ∧ metalKey 1 ∉ c.handles.cache ∧
      ¬ Always perform Protected (new 10 1 .shadow) transitionRun := by
  have hguard : metalKey 1 ∈ (run perform (new 10 1 .shadow) transitionRun).guards := by
    decide
  have hmiss : metalKey 1 ∉ (run perform (new 10 1 .shadow) transitionRun).handles.cache := by
    decide
  refine ⟨hguard, by decide, hmiss, ?_⟩
  intro halways
  exact hmiss ((halways.initial (List.prefix_refl _)).mem _ hguard)

end Runs

end GuardedCache

end AdapterOS.Worker
