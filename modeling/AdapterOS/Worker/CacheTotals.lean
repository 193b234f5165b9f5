import AdapterOS.Worker.GuardSafety
import Mathlib.Algebra.BigOperators.Group.List.Basic

/-! The running total of the model cache, its budget and its pins, over sequences of calls. -/
namespace AdapterOS.Worker.ModelHandleCache

open Library

variable {H : Type*} {s t : ModelHandleCache H} {key k : ModelKey} {now : Instant}

section Emergency

def unpinAll (s : ModelHandleCache H) : Nat × ModelHandleCache H :=
  (s.pinnedKeys.keys.length, { s with pinnedKeys := ∅ })

def cleanupAll (s : ModelHandleCache H) : ModelHandleCache H :=
  s.cache.items.foldl (fun s e => s.removeEntry e.1 e.2.memoryBytes)
    { s.unpinAll.2 with activeCounts := ∅ }

def configureBaseModelPinning (s : ModelHandleCache H) (conflictMode : PinConflictMode) :
    ModelHandleCache H :=
  { s with baseModelPin := { conflictMode } }

end Emergency

def cachedBytes (s : ModelHandleCache H) : Nat :=
  (s.cache.items.map (·.2.memoryBytes.toNat)).sum

/-- The total is that of the entries and within the budget; pins are within their limit, on cached
models, and have a timestamp. -/
structure Balanced (s : ModelHandleCache H) : Prop where
  total : s.stats.totalMemoryBytes.toNat = s.cachedBytes
  budget : s.cachedBytes ≤ s.maxMemoryBytes.toNat
  limit : s.pinnedKeys.keys.length ≤ s.maxPinnedEntries
  cached : ∀ k ∈ s.pinnedKeys, k ∈ s.cache
  stamped : ∀ k, k ∈ s.pinnedTimestamps ↔ k ∈ s.pinnedKeys

theorem balanced_new (maxMemoryBytes : UInt64) (maxPinnedEntries : Nat)
    (conflictMode : PinConflictMode) :
    Balanced (new maxMemoryBytes maxPinnedEntries conflictMode : ModelHandleCache H) where
  total := rfl
  budget := Nat.zero_le _
  limit := Nat.zero_le _
  cached k hk := absurd hk (AList.notMem_empty k)
  stamped k := iff_of_false (AList.notMem_empty k) (AList.notMem_empty k)

section Evict

variable {entry : CachedModelEntry H}

theorem cachedBytes_removeEntry (h : s.cache.get? key = some entry) (bytes : UInt64) :
    (s.removeEntry key bytes).cachedBytes + entry.memoryBytes.toNat = s.cachedBytes := by
  have hsum := ((AList.items_erase_perm h).map fun e => e.2.memoryBytes.toNat).sum_eq
  rw [List.map_cons, List.sum_cons] at hsum
  rw [cachedBytes.eq_def s, hsum, Nat.add_comm]
  rfl

theorem balanced_removeEntry (hs : s.Balanced) (h : s.cache.get? key = some entry)
    (hfree : key ∉ s.pinnedKeys) : (s.removeEntry key entry.memoryBytes).Balanced := by
  have hsum := cachedBytes_removeEntry h entry.memoryBytes
  have htotal := hs.total
  have hle : entry.memoryBytes ≤ s.stats.totalMemoryBytes := by
    rw [UInt64.le_iff_toNat_le]
    omega
  refine ⟨?_, ?_, hs.limit, ?_, hs.stamped⟩
  · change (if entry.memoryBytes ≤ s.stats.totalMemoryBytes then _ else _ : UInt64).toNat = _
    rw [if_pos hle]
    change (s.stats.totalMemoryBytes - _).toNat = _
    rw [UInt64.toNat_sub_of_le _ _ hle]
    omega
  · have := hs.budget
    change _ ≤ s.maxMemoryBytes.toNat
    omega
  · intro k hk
    exact AList.mem_erase.mpr ⟨ne_of_mem_of_not_mem hk hfree, hs.cached k hk⟩

/-- Distinct entries of the cache, as a listing takes them out of it. -/
structure Lists (s : ModelHandleCache H) (entries : List (ModelKey × CachedModelEntry H)) :
    Prop where
  get : ∀ e ∈ entries, s.cache.get? e.1 = some e.2
  nodup : (entries.map Prod.fst).Nodup

theorem Lists.tail {e : ModelKey × CachedModelEntry H}
    {entries : List (ModelKey × CachedModelEntry H)} (h : s.Lists (e :: entries)) :
    s.Lists entries :=
  ⟨fun e he => h.get e (List.mem_cons_of_mem _ he), (List.nodup_cons.mp h.nodup).2⟩

theorem Lists.removeEntry {e : ModelKey × CachedModelEntry H} {bytes : UInt64}
    {entries : List (ModelKey × CachedModelEntry H)} (h : s.Lists (e :: entries)) :
    (s.removeEntry e.1 bytes).Lists entries := by
  refine ⟨fun e' he' => ?_, h.tail.nodup⟩
  have hne : e'.1 ≠ e.1 :=
    ne_of_mem_of_not_mem (List.mem_map_of_mem he') (List.nodup_cons.mp h.nodup).1
  exact (AList.get?_erase_ne hne).trans (h.tail.get e' he')

theorem lists_items (s : ModelHandleCache H) : s.Lists s.cache.items :=
  ⟨fun _ he => AList.mem_items.mp he, by rw [AList.items_keys]; exact s.cache.keys_nodup⟩

theorem lists_evictionEntries (s : ModelHandleCache H) : s.Lists s.evictionEntries := by
  refine ⟨fun e he => ?_, ?_⟩
  · exact s.lists_items.get e (List.mem_of_mem_filter (mem_sortBy.mp he))
  · rw [evictionEntries, ((sortBy_perm _ _).map Prod.fst).nodup_iff]
    exact (List.filter_sublist.map Prod.fst).nodup s.lists_items.nodup

/-- Some entries have left, and everything still adds up. -/
structure Shrinks (s t : ModelHandleCache H) : Prop where
  balanced : t.Balanced
  budget : t.maxMemoryBytes = s.maxMemoryBytes
  mem : ∀ k ∈ t.cache, k ∈ s.cache

theorem Balanced.shrinks (hs : s.Balanced) : s.Shrinks s := ⟨hs, rfl, fun _ h => h⟩

theorem balanced_evictEntries (target : UInt64) (entries : List (ModelKey × CachedModelEntry H))
    (freed : UInt64) (hs : s.Balanced) (hl : s.Lists entries)
    (hbound : freed.toNat + s.cachedBytes < 2 ^ 64) :
    s.Shrinks (evictEntries target entries freed s).2 ∧
      (evictEntries target entries freed s).1.toNat +
        (evictEntries target entries freed s).2.cachedBytes = freed.toNat + s.cachedBytes := by
  induction entries generalizing freed s with
  | nil => exact ⟨hs.shrinks, rfl⟩
  | cons e entries ih =>
    unfold evictEntries
    split
    · exact ⟨hs.shrinks, rfl⟩
    · split
      · exact ih freed hs hl.tail hbound
      · rename_i hidle
        have hget := hl.get e List.mem_cons_self
        have hfree : e.1 ∉ s.pinnedKeys := by simp_all [isPinned]
        have hsum := cachedBytes_removeEntry hget e.2.memoryBytes
        have hadd : (freed + e.2.memoryBytes).toNat = freed.toNat + e.2.memoryBytes.toNat := by
          rw [UInt64.toNat_add, Nat.mod_eq_of_lt]
          omega
        obtain ⟨⟨hb, hmax, hmem⟩, heq⟩ := ih (freed + e.2.memoryBytes)
          (balanced_removeEntry hs hget hfree) hl.removeEntry (by omega)
        exact ⟨⟨hb, hmax, fun k hk => (AList.mem_erase.mp (hmem k hk)).2⟩, by omega⟩

theorem toNat_sum {l : List UInt64} (h : (l.map UInt64.toNat).sum < 2 ^ 64) :
    l.sum.toNat = (l.map UInt64.toNat).sum := by
  induction l with
  | nil => rfl
  | cons x l ih =>
    rw [List.map_cons, List.sum_cons] at h ⊢
    rw [List.sum_cons, UInt64.toNat_add, ih (by omega), Nat.mod_eq_of_lt h]

theorem balanced_recordSkips (hs : s.Balanced) (short : Shortage) :
    s.Shrinks (s.recordSkips short) ∧ (s.recordSkips short).cachedBytes = s.cachedBytes := by
  unfold recordSkips
  dsimp only
  split <;> split <;>
    exact ⟨⟨⟨hs.total, hs.budget, hs.limit, hs.cached, hs.stamped⟩, rfl, fun _ h => h⟩, rfl⟩

theorem balanced_evictForSizeLocked (hs : s.Balanced) (needed : UInt64)
    (modelKey : Option ModelKey) (hbound : s.cachedBytes + needed.toNat < 2 ^ 64) :
    s.Shrinks (s.evictForSizeLocked needed modelKey).2 ∧
      ((s.evictForSizeLocked needed modelKey).1 = .ok () →
        (s.evictForSizeLocked needed modelKey).2.cachedBytes + needed.toNat ≤
          (s.evictForSizeLocked needed modelKey).2.maxMemoryBytes.toNat) := by
  have husage : s.memoryUsage.toNat = s.cachedBytes := by
    have hmap : (s.cache.items.map (·.2.memoryBytes)).map UInt64.toNat =
        s.cache.items.map (·.2.memoryBytes.toNat) := by simp
    rw [memoryUsage, toNat_sum (by rw [hmap]; exact Nat.lt_of_add_right_lt hbound), hmap]
    rfl
  have hadd : (s.memoryUsage + needed).toNat = s.cachedBytes + needed.toNat := by
    rw [UInt64.toNat_add, husage, Nat.mod_eq_of_lt hbound]
  unfold evictForSizeLocked
  split
  · rename_i hfit
    rw [UInt64.le_iff_toNat_le, hadd] at hfit
    exact ⟨hs.shrinks, fun _ => hfit⟩
  · rename_i hover
    rw [UInt64.le_iff_toNat_le, hadd] at hover
    have htarget : (s.shortage needed).target.toNat =
        s.cachedBytes + needed.toNat - s.maxMemoryBytes.toNat := by
      rw [shortage, UInt64.toNat_sub_of_le, hadd]
      rw [UInt64.le_iff_toNat_le, hadd]
      omega
    obtain ⟨⟨hb, hmax, hmem⟩, hfreed⟩ := balanced_evictEntries (s.shortage needed).target
      s.evictionEntries 0 hs s.lists_evictionEntries (by simp; omega)
    obtain ⟨⟨hb', hmax', hmem'⟩, hsum⟩ := balanced_recordSkips hb (s.shortage needed)
    grind [Shrinks.mk, UInt64.lt_iff_toNat_lt]

theorem balanced_unload (hs : s.Balanced) (key : ModelKey) : (s.unload key).2.Balanced := by
  unfold unload
  split
  · exact hs
  · rename_i hpin
    split
    · exact hs
    · split
      · exact hs
      · exact balanced_removeEntry hs ‹_› (by simpa [isPinned] using hpin)

end Evict

section Load

def Fits (s : ModelHandleCache H) (key : ModelKey) : Loaded H → Prop
  | .ok (_, memoryBytes) => key ∈ s.cache ∨ s.cachedBytes + memoryBytes.toNat < 2 ^ 64
  | .error _ => True

theorem balanced_insertEntry {handle : H} {bytes : UInt64} (hs : s.Balanced) (hnew : key ∉ s.cache)
    (hfit : s.cachedBytes + bytes.toNat ≤ s.maxMemoryBytes.toNat) :
    (s.insertEntry key now handle bytes).Balanced := by
  have hsum : (s.insertEntry key now handle bytes).cachedBytes = s.cachedBytes + bytes.toNat := by
    change ((s.cache.insert key _).items.map _).sum = _
    rw [AList.items_insert, AList.items_erase_of_notMem hnew, List.map_cons, List.sum_cons,
      Nat.add_comm]
    rfl
  have hlt := s.maxMemoryBytes.toNat_lt
  refine ⟨?_, hsum ▸ hfit, hs.limit, ?_, hs.stamped⟩
  · rw [hsum, ← hs.total]
    change (s.stats.totalMemoryBytes + bytes).toNat = _
    rw [UInt64.toNat_add, Nat.mod_eq_of_lt]
    rw [hs.total]
    omega
  · intro k hk
    exact AList.mem_insert _ |>.mpr (.inr (hs.cached k hk))

theorem balanced_getOrLoad (hs : s.Balanced) (now : Instant) {loader : Loaded H}
    (hfit : s.Fits key loader) :
    (s.getOrLoad key now loader).2.Balanced := by
  have hhit : s.recordHit.Balanced := ⟨hs.total, hs.budget, hs.limit, hs.cached, hs.stamped⟩
  unfold getOrLoad
  split
  · exact hhit
  · rename_i hmiss
    simp only [loadAndCacheModel, hmiss]
    rcases loader with e | ⟨handle, bytes⟩
    · exact hs
    · have hnew : key ∉ s.cache := AList.get?_eq_none.mp hmiss
      obtain ⟨⟨hb, -, hmem⟩, hroom⟩ := balanced_evictForSizeLocked hs bytes (some key)
        (hfit.resolve_left hnew)
      grind [insertLoaded, balanced_insertEntry]

end Load

section Pin

theorem balanced_insertPin (hs : s.Balanced) (hc : key ∈ s.cache)
    (hroom : s.pinnedKeys.keys.length < s.maxPinnedEntries) : (s.insertPin key now).Balanced := by
  refine ⟨hs.total, hs.budget, ?_, ?_, ?_⟩
  · change (s.pinnedKeys.insert key ()).keys.length ≤ _
    rw [AList.keys_insert, List.length_cons]
    have := List.length_erase_le (a := key) (l := s.pinnedKeys.keys)
    change _ ≤ s.maxPinnedEntries
    omega
  · intro k hk
    rcases (AList.mem_insert _).mp hk with rfl | hp
    · exact hc
    · exact hs.cached k hp
  · intro k
    simp only [insertPin, AList.mem_insert, hs.stamped]

theorem balanced_pin (hs : s.Balanced) (key : ModelKey) (now : Instant) :
    (s.pin key now).2.Balanced := by
  unfold pin registerPin
  split
  · split
    · exact hs
    · split
      · exact hs
      · exact balanced_insertPin hs ‹_› (by omega)
  · exact hs

theorem balanced_unpin (hs : s.Balanced) (key : ModelKey) : (s.unpin key).2.Balanced := by
  unfold unpin
  split
  · refine ⟨hs.total, hs.budget, ?_, fun k hk => hs.cached k (AList.mem_erase.mp hk).2, ?_⟩
    · obtain ⟨⟩ := hs
      grind [AList.keys_erase]
    · intro k
      simp only [AList.mem_erase, hs.stamped]
  · exact hs

theorem balanced_gcStalePins (hs : s.Balanced) (now : Instant) (timeout : Nat) :
    (s.gcStalePins now timeout).2.Balanced := by
  have hfold : ∀ (keys : List ModelKey) (r : Nat × ModelHandleCache H), r.2.Balanced →
      (keys.foldl gcStep r).2.Balanced := by
    intro keys
    induction keys with
    | nil => exact fun _ h => h
    | cons key keys ih => grind [balanced_unpin, gcStep]
  have h := hfold ((s.pinnedTimestamps.items.filter fun e => timeout < now - e.2).map Prod.fst)
    (0, s) hs
  unfold gcStalePins
  dsimp only
  split
  · exact ⟨h.total, h.budget, h.limit, h.cached, h.stamped⟩
  · exact h

end Pin

section Base

variable (hs : s.Balanced)

include hs

theorem balanced_setBaseModelKey (key : ModelKey) : (s.setBaseModelKey key).Balanced := by
  unfold setBaseModelKey
  split
  · exact hs
  · exact ⟨hs.total, hs.budget, hs.limit, hs.cached, hs.stamped⟩

theorem balanced_displacePin (key : ModelKey) (now : Instant) (handle : H)
    (displaced : ModelKey) : (s.displacePin key now handle displaced).2.Balanced := by
  grind [balanced_unpin, displacePin, balanced_unload, balanced_pin]

theorem balanced_getOrLoadBaseModel {pinnedAt : Instant} {loader : Loaded H}
    (hfit : s.Fits key loader) : (s.getOrLoadBaseModel key now pinnedAt loader).2.Balanced := by
  have hfit' : (s.setBaseModelKey key).Fits key loader := by
    unfold setBaseModelKey
    split <;> exact hfit
  have hload := balanced_getOrLoad (balanced_setBaseModelKey hs key) now hfit'
  have hmem := ((s.setBaseModelKey key).loads_getOrLoad key now loader).mem
  grind [getOrLoadBaseModel, pinBaseModel, balanced_displacePin, balanced_insertPin]

theorem balanced_markInactive (key : ModelKey) : (s.markInactive key).2.Balanced := by
  unfold markInactive
  split
  · split <;> exact ⟨hs.total, hs.budget, hs.limit, hs.cached, hs.stamped⟩
  · exact hs

theorem balanced_markActive (key : ModelKey) : (s.markActive key).2.Balanced := by
  unfold markActive
  split
  · exact ⟨hs.total, hs.budget, hs.limit, hs.cached, hs.stamped⟩
  · exact hs

theorem balanced_transitionModel {previous : ModelKey} {loader : Loaded H}
    (hfit : s.Fits key loader) : (s.transitionModel previous key now loader).2.Balanced := by
  have hload := balanced_getOrLoad hs now hfit
  unfold transitionModel
  generalize s.getOrLoad key now loader = r at hload
  obtain ⟨_ | handle, t⟩ := r
  · exact hload
  · exact balanced_markInactive (balanced_unpin hload previous) previous

theorem balanced_unpinAll (hnone : s.pinnedKeys.keys = []) : s.unpinAll.2.Balanced := by
  have hempty : ∀ k, k ∉ s.pinnedKeys := fun k hk => by
    rw [AList.mem_keys, hnone] at hk
    cases hk
  refine ⟨hs.total, hs.budget, Nat.zero_le _, ?_, ?_⟩
  · exact fun k hk => absurd hk (AList.notMem_empty k)
  · exact fun k => iff_of_false (fun hk => hempty k ((hs.stamped k).mp hk)) (AList.notMem_empty k)

theorem balanced_cleanupAll (hnone : s.pinnedKeys.keys = []) : s.cleanupAll.Balanced := by
  have hfold : ∀ (entries : List (ModelKey × CachedModelEntry H)) (t : ModelHandleCache H),
      t.Balanced → t.Lists entries → (∀ k, k ∉ t.pinnedKeys) →
      (entries.foldl (fun s e => s.removeEntry e.1 e.2.memoryBytes) t).Balanced := by
    intro entries
    induction entries with
    | nil => exact fun _ h _ _ => h
    | cons e entries ih =>
      intro t ht hl hfree
      exact ih _ (balanced_removeEntry ht (hl.get e List.mem_cons_self) (hfree e.1))
        hl.removeEntry hfree
  have h := balanced_unpinAll hs hnone
  exact hfold _ _ ⟨h.total, h.budget, h.limit, h.cached, h.stamped⟩
    ⟨s.lists_items.get, s.lists_items.nodup⟩ AList.notMem_empty

end Base

inductive CacheCall (H : Type*) where
  | getOrLoad (key : ModelKey) (now : Instant) (loader : Loaded H)
  | getOrLoadBaseModel (key : ModelKey) (now pinnedAt : Instant) (loader : Loaded H)
  | transitionModel (previous next : ModelKey) (now : Instant) (loader : Loaded H)
  | unload (key : ModelKey)
  | pin (key : ModelKey) (now : Instant)
  | unpin (key : ModelKey)
  | gcStalePins (now : Instant) (timeout : Nat)
  | markActive (key : ModelKey)
  | markInactive (key : ModelKey)
  | setBaseModelKey (key : ModelKey)
  | configureBaseModelPinning (conflictMode : PinConflictMode)
  | unpinAll
  | cleanupAll

def call (s : ModelHandleCache H) : CacheCall H → ModelHandleCache H
  | .getOrLoad key now loader => (s.getOrLoad key now loader).2
  | .getOrLoadBaseModel key now pinnedAt loader =>
    (s.getOrLoadBaseModel key now pinnedAt loader).2
  | .transitionModel previous next now loader => (s.transitionModel previous next now loader).2
  | .unload key => (s.unload key).2
  | .pin key now => (s.pin key now).2
  | .unpin key => (s.unpin key).2
  | .gcStalePins now timeout => (s.gcStalePins now timeout).2
  | .markActive key => (s.markActive key).2
  | .markInactive key => (s.markInactive key).2
  | .setBaseModelKey key => s.setBaseModelKey key
  | .configureBaseModelPinning conflictMode => s.configureBaseModelPinning conflictMode
  | .unpinAll => s.unpinAll.2
  | .cleanupAll => s.cleanupAll

/-- Loads stay below sixty-four bits, and the emergency calls find nothing pinned. -/
def Orderly (s : ModelHandleCache H) : CacheCall H → Prop
  | .getOrLoad key _ loader | .getOrLoadBaseModel key _ _ loader
  | .transitionModel _ key _ loader => s.Fits key loader
  | .unpinAll | .cleanupAll => s.pinnedKeys.keys = []
  | _ => True

theorem balanced_call (c : CacheCall H) (hs : s.Balanced) (hc : s.Orderly c) :
    (s.call c).Balanced := by
  cases c with
  | getOrLoad key now loader => exact balanced_getOrLoad hs now hc
  | getOrLoadBaseModel key now pinnedAt loader => exact balanced_getOrLoadBaseModel hs hc
  | transitionModel previous next now loader => exact balanced_transitionModel hs hc
  | unload key => exact balanced_unload hs key
  | pin key now => exact balanced_pin hs key now
  | unpin key => exact balanced_unpin hs key
  | gcStalePins now timeout => exact balanced_gcStalePins hs now timeout
  | markActive key => exact balanced_markActive hs key
  | markInactive key => exact balanced_markInactive hs key
  | setBaseModelKey key => exact balanced_setBaseModelKey hs key
  | configureBaseModelPinning mode =>
    exact ⟨hs.total, hs.budget, hs.limit, hs.cached, hs.stamped⟩
  | unpinAll => exact balanced_unpinAll hs hc
  | cleanupAll => exact balanced_cleanupAll hs hc

/-- Every state of a run of orderly calls on a new cache is balanced. -/
theorem always_balanced (maxMemoryBytes : UInt64) (maxPinnedEntries : Nat)
    (conflictMode : PinConflictMode) (calls : List (CacheCall H))
    (horder : Guarded call Orderly (new maxMemoryBytes maxPinnedEntries conflictMode) calls) :
    Always call Balanced (new maxMemoryBytes maxPinnedEntries conflictMode) calls :=
  always_of_guarded (fun _ c hs hc => balanced_call c hs hc) (fun _ h => h)
    (balanced_new maxMemoryBytes maxPinnedEntries conflictMode) horder

section Runs

open GuardedCache

instance (s : ModelHandleCache H) (key : ModelKey) : DecidablePred (s.Fits key)
  | .ok _ => inferInstanceAs (Decidable (_ ∨ _))
  | .error _ => .isTrue trivial

instance (s : ModelHandleCache H) : DecidablePred s.Orderly
  | .getOrLoad key _ loader | .getOrLoadBaseModel key _ _ loader
  | .transitionModel _ key _ loader => inferInstanceAs (Decidable (s.Fits key loader))
  | .unpinAll | .cleanupAll => inferInstanceAs (Decidable (s.pinnedKeys.keys = []))
  | .unload _ | .pin .. | .unpin _ | .gcStalePins .. | .markActive _ | .markInactive _
  | .setBaseModelKey _ | .configureBaseModelPinning _ => .isTrue trivial

/-- The second base model displaces the first, then an emergency unpins and removes everything. -/
def shutdownRun : List (CacheCall Unit) :=
  [.getOrLoadBaseModel (metalKey 1) 0 0 (.ok ((), 6)),
    .getOrLoadBaseModel (metalKey 2) 1 1 (.ok ((), 4)), .unpinAll, .cleanupAll]

def orderlyRun : List (CacheCall Unit) :=
  [.getOrLoadBaseModel (metalKey 1) 0 0 (.ok ((), 6)), .markActive (metalKey 1),
    .getOrLoad (metalKey 2) 1 (.ok ((), 6)), .markInactive (metalKey 1),
    .getOrLoadBaseModel (metalKey 3) 2 2 (.ok ((), 4)), .gcStalePins 9 5, .cleanupAll]

theorem orderlyRun_balanced : Always call Balanced (new 10 1 .enforce) orderlyRun :=
  always_balanced 10 1 .enforce orderlyRun (by decide)

/-- The pins are gone, and the timestamp of the one model that was pinned is not. -/
theorem unpinAll_leaves_timestamp :
    let s := run call (new 10 1 .enforce : ModelHandleCache Unit) (shutdownRun.take 3)
    metalKey 2 ∈ s.pinnedTimestamps ∧ metalKey 2 ∉ s.pinnedKeys ∧
      ¬ Always call Balanced (new 10 1 .enforce) shutdownRun := by
  have hstamp : metalKey 2 ∈ (run call (new 10 1 .enforce : ModelHandleCache Unit)
      (shutdownRun.take 3)).pinnedTimestamps := by decide
  have hpin : metalKey 2 ∉ (run call (new 10 1 .enforce : ModelHandleCache Unit)
      (shutdownRun.take 3)).pinnedKeys := by decide
  refine ⟨hstamp, hpin, ?_⟩
  intro halways
  exact hpin (((halways.initial (List.take_prefix 3 _)).stamped _).mp hstamp)

end Runs

end AdapterOS.Worker.ModelHandleCache
