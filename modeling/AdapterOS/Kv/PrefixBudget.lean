import AdapterOS.Kv.PrefixCache
import AdapterOS.Library.Run

/-! The byte budget of the prefix cache over whole sequences of operations. -/
namespace AdapterOS.Kv

open Library PrefixKvCache

variable {hash : List UInt8 → B3Hash} {c : PrefixKvCache} {key : B3Hash} {e old : PrefixKvEntry}
  {m : HashMap B3Hash PrefixKvEntry} {picked : List (B3Hash × PrefixKvEntry)}

/-- Calls on the cache, and what holders of its entries and the machine may do to them. -/
inductive PrefixOp where
  | get (key : B3Hash)
  | findLongestPrefixMatch (inputTokens : List UInt32)
      (contextDigest tokenizerHash modelIdentityHash : B3Hash) (minMatchTokens : Nat)
  | getOrFindPrefix (exactKey : B3Hash) (inputTokens : List UInt32)
      (contextDigest tokenizerHash modelIdentityHash : B3Hash)
  | insert (key : B3Hash) (entry : PrefixKvEntry)
  | getOrBuild (key : B3Hash) (builder : Except AosError PrefixKvEntry)
  | remove (key : B3Hash)
  | clear
  | advanceTick
  | setTick (tick : Nat)
  | acquire (key : B3Hash)
  | release (key : B3Hash)
  | recordAccess (key : B3Hash) (tick : Nat)
  | corrupt (key : B3Hash) (keys values : List (List UInt32))

def PrefixKvCache.touch (c : PrefixKvCache) (key : B3Hash)
    (change : PrefixKvEntry → PrefixKvEntry) : PrefixKvCache :=
  match c.entries.get? key with
  | some e => { c with entries := c.entries.insert key (change e) }
  | none => c

def prefixStep (hash : List UInt8 → B3Hash) (c : PrefixKvCache) : PrefixOp → PrefixKvCache
  | .get key => (c.get hash key).2
  | .findLongestPrefixMatch inputTokens context tokenizer model minMatch =>
    (c.findLongestPrefixMatch hash inputTokens context tokenizer model minMatch).2
  | .getOrFindPrefix exactKey inputTokens context tokenizer model =>
    (c.getOrFindPrefix hash exactKey inputTokens context tokenizer model).2
  | .insert key entry => (c.insert key entry).2
  | .getOrBuild key builder => (c.getOrBuild hash key builder).2
  | .remove key => (c.remove key).2
  | .clear => c.clear
  | .advanceTick => c.advanceTick.2
  | .setTick tick => c.setTick tick
  | .acquire key => c.touch key .acquire
  | .release key => c.touch key .release
  | .recordAccess key tick => c.touch key (·.recordAccess tick)
  | .corrupt key keys values => c.touch key fun e => { e with keys, values }

def storedBytes (m : HashMap B3Hash PrefixKvEntry) : Nat := (m.items.map (·.2.kvBytes)).sum

/-- The counters say what the map holds, and that fits the budget. -/
structure Balanced (c : PrefixKvCache) : Prop where
  used_eq : c.usedBytes = storedBytes c.entries
  within : c.usedBytes ≤ c.maxBytes
  count_eq : c.stats.entryCount = c.len

def FreshInsert (c : PrefixKvCache) : PrefixOp → Prop
  | .insert key _ => key ∉ c.entries
  | _ => True

/-- With a budget that is a machine word, so that no counter wraps. -/
structure Budgeted (c : PrefixKvCache) : Prop extends Balanced c where
  word : c.maxBytes < 2 ^ 64

theorem storedBytes_erase (h : m.get? key = some e) :
    storedBytes m = e.kvBytes + storedBytes (m.erase key) := by
  have hp := (AList.items_erase_perm h).map fun p => p.2.kvBytes
  simpa [storedBytes] using hp.sum_nat

theorem length_erase (h : m.get? key = some e) :
    m.items.length = (m.erase key).items.length + 1 := by
  have hp := (AList.items_erase_perm h).length_eq
  simpa using hp

theorem storedBytes_insert (m : HashMap B3Hash PrefixKvEntry) (key : B3Hash) (e : PrefixKvEntry) :
    storedBytes (m.insert key e) = e.kvBytes + storedBytes (m.erase key) := by
  simp [storedBytes, AList.items_insert]

theorem length_insert (m : HashMap B3Hash PrefixKvEntry) (key : B3Hash) (e : PrefixKvEntry) :
    (m.insert key e).items.length = (m.erase key).items.length + 1 := by
  simp [AList.items_insert]

theorem erase_of_notMem (h : key ∉ m) : m.erase key = m := by
  apply AList.ext
  have hk : key ∉ m.entries.keys := h
  exact List.kerase_of_notMem_keys hk

theorem budgeted_replace (h : Budgeted c) (hold : c.entries.get? key = some old)
    (hsize : e.kvBytes = old.kvBytes) (tick hits : Nat) :
    Budgeted { c with
      entries := c.entries.insert key e, currentTick := tick
      stats := { c.stats with hits := hits } } := by
  have hb := storedBytes_erase hold
  have hl := length_erase hold
  have hused := h.used_eq
  have hcount := h.count_eq
  refine ⟨⟨?_, h.within, ?_⟩, h.word⟩
  · change c.usedBytes = storedBytes (c.entries.insert key e)
    rw [storedBytes_insert]
    omega
  · change c.stats.entryCount = (c.entries.insert key e).items.length
    change c.stats.entryCount = c.entries.items.length at hcount
    rw [length_insert]
    omega

theorem budgeted_hit (h : Budgeted c) (he : c.entries.get? key = some e) :
    Budgeted (c.hit key e).2 :=
  budgeted_replace (e := e.recordAccess (wrap64 (c.currentTick + 1))) h he rfl _ _

theorem budgeted_miss (h : Budgeted c) : Budgeted c.miss :=
  ⟨⟨h.used_eq, h.within, h.count_eq⟩, h.word⟩

theorem budgeted_countFailures (h : Budgeted c) (n : Nat) : Budgeted (c.countFailures n) :=
  ⟨⟨h.used_eq, h.within, h.count_eq⟩, h.word⟩

theorem budgeted_setTick (h : Budgeted c) (tick : Nat) : Budgeted (c.setTick tick) :=
  ⟨⟨h.used_eq, h.within, h.count_eq⟩, h.word⟩

theorem budgeted_syncUsedBytes (h : Budgeted c) : Budgeted c.syncUsedBytes :=
  ⟨⟨h.used_eq, h.within, h.count_eq⟩, h.word⟩

theorem withRefcount_kvBytes (e : PrefixKvEntry) (count : Nat) :
    (e.withRefcount count).kvBytes = e.kvBytes := rfl

theorem budgeted_touch (h : Budgeted c) (key : B3Hash) {change : PrefixKvEntry → PrefixKvEntry}
    (hsize : ∀ e, (change e).kvBytes = e.kvBytes) : Budgeted (c.touch key change) := by
  simp only [touch]
  cases he : c.entries.get? key with
  | none => exact h
  | some e => exact budgeted_replace h he (hsize e) c.currentTick c.stats.hits

theorem budgeted_get (h : Budgeted c) (key : B3Hash) : Budgeted (c.get hash key).2 := by
  grind [PrefixKvCache.get, budgeted_miss, budgeted_hit, budgeted_countFailures]

theorem better_cases {minMatch matchLen : Nat} {best found : Option (B3Hash × PrefixKvEntry × Nat)}
    (h : better minMatch best key e matchLen = found) :
    found = best ∨ found = some (key, e, matchLen) := by
  subst h
  simp only [better]
  split
  · split
    · split
      · exact Or.inr rfl
      · exact Or.inl rfl
    · exact Or.inr rfl
  · exact Or.inl rfl

theorem bestMatch_stored {inputTokens : List UInt32} {context tokenizer model : B3Hash}
    {minMatch matched : Nat}
    (h : c.bestMatch hash inputTokens context tokenizer model minMatch = some (key, e, matched)) :
    c.entries.get? key = some e := by
  have hfold : ∀ (looked : List (B3Hash × PrefixKvEntry)) best,
      (∀ p ∈ looked, c.entries.get? p.1 = some p.2) →
      (∀ k f n, best = some (k, f, n) → c.entries.get? k = some f) →
      ∀ k f n, looked.foldl (fun best p => better minMatch best p.1 p.2
        (p.2.computePrefixMatchLength inputTokens context tokenizer model)) best
          = some (k, f, n) → c.entries.get? k = some f := by
    intro looked
    induction looked with
    | nil => exact fun _ _ hbest => hbest
    | cons p rest ih =>
      intro best hlooked hbest
      refine ih _ (fun q hq => hlooked q (List.mem_cons_of_mem _ hq)) ?_
      intro k f n hk
      rcases better_cases hk with hb | hb
      · exact hbest k f n hb.symm
      · cases hb
        exact hlooked p List.mem_cons_self
  refine hfold _ none ?_ (by simp) key e matched h
  intro p hp
  have hm : p ∈ c.entries.items := by
    have hsorted := List.mem_of_mem_filter (List.mem_of_mem_filter hp)
    exact (List.mem_insertionSort _).mp hsorted
  exact AList.mem_items.mp hm

theorem budgeted_findLongestPrefixMatch (h : Budgeted c) (inputTokens : List UInt32)
    (context tokenizer model : B3Hash) (minMatch : Nat) :
    Budgeted (c.findLongestPrefixMatch hash inputTokens context tokenizer model minMatch).2 := by
  simp only [findLongestPrefixMatch]
  split
  · exact h
  · have hf := budgeted_countFailures h
      (c.matchable.filter fun p => ¬ p.2.verifyIntegrity hash).length
    split
    · rename_i key e matched hbest
      exact budgeted_hit hf (bestMatch_stored hbest)
    · exact budgeted_miss hf

theorem budgeted_getOrFindPrefix (h : Budgeted c) (exactKey : B3Hash) (inputTokens : List UInt32)
    (context tokenizer model : B3Hash) :
    Budgeted (c.getOrFindPrefix hash exactKey inputTokens context tokenizer model).2 := by
  grind [budgeted_get, getOrFindPrefix, budgeted_findLongestPrefixMatch]

section Eviction

theorem budgeted_drop (h : Budgeted c) (he : c.entries.get? key = some e) :
    Budgeted (c.drop key e) ∧ (c.drop key e).usedBytes + e.kvBytes = c.usedBytes := by
  have hb := storedBytes_erase he
  have hl := length_erase he
  have hused := h.used_eq
  have hwithin := h.within
  have hcount := h.count_eq
  have hword := h.word
  have hsub : (c.drop key e).usedBytes = c.usedBytes - e.kvBytes :=
    wrapSub64_of_le (by omega) (by omega)
  change c.stats.entryCount = c.entries.items.length at hcount
  refine ⟨⟨⟨?_, ?_, ?_⟩, hword⟩, by omega⟩
  · change _ = storedBytes (c.entries.erase key)
    omega
  · change _ ≤ c.maxBytes
    omega
  · change c.stats.entryCount - 1 = (c.entries.erase key).items.length
    omega

theorem evict_of_get (he : c.entries.get? key = some e) : c.evict key = { c.drop key e with
      stats := { (c.drop key e).stats with evictions := c.stats.evictions + 1 } } := by
  simp only [evict, he]
  rfl

theorem budgeted_evict (h : Budgeted c) (he : c.entries.get? key = some e) :
    Budgeted (c.evict key) ∧ (c.evict key).usedBytes + e.kvBytes = c.usedBytes := by
  obtain ⟨hd, hu⟩ := budgeted_drop h he
  rw [evict_of_get he]
  exact ⟨⟨⟨hd.used_eq, hd.within, hd.count_eq⟩, hd.word⟩, hu⟩

theorem evict_entries (c : PrefixKvCache) (key : B3Hash) :
    (c.evict key).entries = c.entries.erase key := by
  cases he : c.entries.get? key with
  | none =>
    simp only [evict, he]
    exact (erase_of_notMem (AList.get?_eq_none.mp he)).symm
  | some e =>
    rw [evict_of_get he]
    rfl

theorem evict_maxBytes (c : PrefixKvCache) (key : B3Hash) :
    (c.evict key).maxBytes = c.maxBytes := by
  simp only [evict]
  cases c.entries.get? key <;> rfl

theorem budgeted_evictAll (hn : (picked.map Prod.fst).Nodup) (h : Budgeted c)
    (hp : ∀ p ∈ picked, c.entries.get? p.1 = some p.2) :
    Budgeted ((picked.map Prod.fst).foldl evict c) ∧
      ((picked.map Prod.fst).foldl evict c).maxBytes = c.maxBytes ∧
      ((picked.map Prod.fst).foldl evict c).usedBytes + (picked.map (·.2.kvBytes)).sum
        = c.usedBytes := by
  induction picked generalizing c with
  | nil => exact ⟨h, rfl, rfl⟩
  | cons p rest ih => grind [budgeted_evict, evict_entries, AList.get?_erase_ne, evict_maxBytes]

theorem pickVictims_spec (toFree freed : Nat) (candidates : List (B3Hash × PrefixKvEntry)) :
    ∃ picked, picked <+: candidates ∧
      (pickVictims toFree freed candidates).1 = picked.map Prod.fst ∧
      (pickVictims toFree freed candidates).2 ≤ freed + (picked.map (·.2.kvBytes)).sum := by
  induction candidates generalizing freed with
  | nil => exact ⟨[], List.prefix_refl _, rfl, le_refl _⟩
  | cons p rest ih =>
    have hw : wrap64 (freed + p.2.kvBytes) ≤ freed + p.2.kvBytes := Nat.mod_le _ _
    by_cases hdone : wrap64 (freed + p.2.kvBytes) ≥ toFree
    · refine ⟨[p], ⟨rest, rfl⟩, ?_, ?_⟩
      · simp [pickVictims, hdone]
      · simpa [pickVictims, hdone] using hw
    · obtain ⟨picked, hpre, hkeys, hfreed⟩ := ih (wrap64 (freed + p.2.kvBytes))
      refine ⟨p :: picked, (List.prefix_cons_inj p).mpr hpre, ?_, ?_⟩
      · simp [pickVictims, hdone, hkeys]
      · simp only [pickVictims, hdone, if_false, List.map_cons, List.sum_cons]
        omega

theorem candidates_keys_nodup (c : PrefixKvCache) : (c.candidates.map Prod.fst).Nodup := by
  have hp := (List.perm_insertionSort (fun a b : B3Hash × PrefixKvEntry =>
    a.2.lastAccessTick < b.2.lastAccessTick ∨ (a.2.lastAccessTick = b.2.lastAccessTick ∧ a.1 ≤ b.1))
    (c.entries.items.filter fun p => ¬ p.2.isInUse)).map Prod.fst
  refine hp.nodup_iff.mpr ?_
  have hk : (c.entries.items.map Prod.fst).Nodup := by
    rw [AList.items_keys]
    exact c.entries.keys_nodup
  exact hk.sublist (List.filter_sublist.map _)

theorem get?_of_candidate {p : B3Hash × PrefixKvEntry} (h : p ∈ c.candidates) :
    c.entries.get? p.1 = some p.2 :=
  AList.mem_items.mp (List.mem_of_mem_filter ((List.mem_insertionSort _).mp h))

theorem evictUntilFits_spec (h : Budgeted c) (needed : Nat) : Budgeted (c.evictUntilFits needed).2 ∧
      (c.evictUntilFits needed).2.maxBytes = c.maxBytes ∧
      ((c.evictUntilFits needed).1 = .ok () →
        (c.evictUntilFits needed).2.usedBytes + needed ≤ c.maxBytes) := by
  have hwithin := h.within
  by_cases hroom : c.maxBytes - c.usedBytes ≥ needed
  · simp only [evictUntilFits, if_pos hroom]
    exact ⟨h, trivial, fun _ => by omega⟩
  · obtain ⟨picked, hpre, hkeys, hfreed⟩ :=
      pickVictims_spec (needed - (c.maxBytes - c.usedBytes)) 0 c.candidates
    by_cases hshort : (pickVictims (needed - (c.maxBytes - c.usedBytes)) 0 c.candidates).2
        < needed - (c.maxBytes - c.usedBytes)
    · simp only [evictUntilFits, if_neg hroom, if_pos hshort]
      exact ⟨h, trivial, nofun⟩
    · have hn := (candidates_keys_nodup c).sublist (hpre.sublist.map Prod.fst)
      obtain ⟨hb, hmax, hsum⟩ := budgeted_evictAll hn h
        (fun p hp => get?_of_candidate (hpre.subset hp))
      simp only [evictUntilFits, if_neg hroom, if_neg hshort, hkeys]
      refine ⟨budgeted_syncUsedBytes hb, hmax, ?_⟩
      intro _
      change ((picked.map Prod.fst).foldl evict c).usedBytes + needed ≤ c.maxBytes
      omega

theorem notMem_evictUntilFits (h : key ∉ c.entries) (needed : Nat) :
    key ∉ (c.evictUntilFits needed).2.entries := by
  have hfold : ∀ (keys : List B3Hash) (c : PrefixKvCache), key ∉ c.entries →
      key ∉ (keys.foldl evict c).entries := by
    intro keys
    induction keys with
    | nil => exact fun _ hc => hc
    | cons k rest ih =>
      intro c hc
      apply ih
      rw [evict_entries, AList.mem_erase]
      exact fun hk => hc hk.2
  simp only [evictUntilFits]
  split
  · exact h
  · split
    · exact h
    · exact hfold _ c h

end Eviction

theorem budgeted_store (h : Budgeted c) (hnew : key ∉ c.entries)
    (hfit : c.usedBytes + e.kvBytes ≤ c.maxBytes) : Budgeted (c.store key e) := by
  have hused := h.used_eq
  have hcount := h.count_eq
  have hword := h.word
  have hw : (c.store key e).usedBytes = c.usedBytes + e.kvBytes := wrap64_of_lt (by omega)
  refine ⟨⟨?_, ?_, ?_⟩, hword⟩
  · change _ = storedBytes (c.entries.insert key e)
    rw [storedBytes_insert, erase_of_notMem hnew]
    omega
  · change _ ≤ c.maxBytes
    omega
  · change c.stats.entryCount + 1 = (c.entries.insert key e).items.length
    rw [length_insert, erase_of_notMem hnew, hcount]
    rfl

theorem budgeted_insert (h : Budgeted c) (hnew : key ∉ c.entries) (e : PrefixKvEntry) :
    Budgeted (c.insert key e).2 := by
  grind [PrefixKvCache.insert, evictUntilFits_spec, notMem_evictUntilFits, budgeted_syncUsedBytes,
    budgeted_store]

theorem budgeted_buildAndCacheEntry (h : Budgeted c) (key : B3Hash)
    (builder : Except AosError PrefixKvEntry) :
    Budgeted (c.buildAndCacheEntry key builder).2 := by
  simp only [buildAndCacheEntry]
  cases he : c.entries.get? key with
  | some e => exact budgeted_hit h he
  | none =>
    cases builder with
    | error err => exact h
    | ok e => exact budgeted_insert h (AList.get?_eq_none.mp he) e

theorem budgeted_getOrBuild (h : Budgeted c) (key : B3Hash)
    (builder : Except AosError PrefixKvEntry) : Budgeted (c.getOrBuild hash key builder).2 := by
  have hget : Budgeted (c.get hash key).2 := budgeted_get h key
  simp only [getOrBuild]
  generalize c.get hash key = found at hget ⊢
  obtain ⟨_ | e, c'⟩ := found
  · exact budgeted_buildAndCacheEntry hget key builder
  · exact hget

theorem budgeted_remove (h : Budgeted c) (key : B3Hash) : Budgeted (c.remove key).2 := by
  simp only [remove]
  cases he : c.entries.get? key with
  | none => exact h
  | some e => exact budgeted_syncUsedBytes (budgeted_drop h he).1

theorem budgeted_clear (h : Budgeted c) : Budgeted c.clear :=
  ⟨⟨rfl, Nat.zero_le _, rfl⟩, h.word⟩

theorem budgeted_step {op : PrefixOp} (h : Budgeted c) (hg : FreshInsert c op) :
    Budgeted (prefixStep hash c op) := by
  cases op with
  | get key => exact budgeted_get h key
  | findLongestPrefixMatch => exact budgeted_findLongestPrefixMatch h ..
  | getOrFindPrefix => exact budgeted_getOrFindPrefix h ..
  | insert key entry => exact budgeted_insert h hg entry
  | getOrBuild key builder => exact budgeted_getOrBuild h key builder
  | remove key => exact budgeted_remove h key
  | clear => exact budgeted_clear h
  | advanceTick => exact budgeted_setTick h _
  | setTick tick => exact budgeted_setTick h tick
  | acquire key => exact budgeted_touch h key fun e => withRefcount_kvBytes e _
  | release key => exact budgeted_touch h key fun e => withRefcount_kvBytes e _
  | recordAccess key tick => exact budgeted_touch h key fun _ => rfl
  | corrupt key keys values => exact budgeted_touch h key fun _ => rfl

theorem budgeted_new {maxBytes : Nat} (hword : maxBytes < 2 ^ 64) : Budgeted (.new maxBytes) := by
  refine ⟨⟨rfl, ?_, rfl⟩, hword⟩
  exact Nat.zero_le maxBytes

/-- The accounting is right along every run that inserts only under absent keys. -/
theorem prefixCache_balanced (hash : List UInt8 → B3Hash) {maxBytes : Nat}
    (hword : maxBytes < 2 ^ 64) (ops : List PrefixOp)
    (hg : Guarded (prefixStep hash) FreshInsert (.new maxBytes) ops) :
    Always (prefixStep hash) Balanced (.new maxBytes) ops :=
  always_of_guarded (fun _ _ h hop => budgeted_step h hop) (fun _ h => h.toBalanced)
    (budgeted_new hword) hg

instance FreshInsert.decidable (c : PrefixKvCache) : (op : PrefixOp) → Decidable (FreshInsert c op)
  | .insert key _ => inferInstanceAs (Decidable (key ∉ c.entries))
  | .get _ | .findLongestPrefixMatch .. | .getOrFindPrefix .. | .getOrBuild .. | .remove _
  | .clear | .advanceTick | .setTick _ | .acquire _ | .release _ | .recordAccess .. | .corrupt .. =>
    inferInstanceAs (Decidable True)

/-- Two entries in turn under a budget for one, the first of them built after a corruption. -/
theorem prefixCache_balanced_evicting : Always (prefixStep fun _ => 0) Balanced (.new 8)
      [.insert 1 (.new (fun _ => 0) [[1]] [[2]] "tenant" 1), .get 1,
        .insert 2 (.new (fun _ => 0) [[3]] [[4]] "tenant" 1), .corrupt 2 [[5]] [[4]],
        .getOrBuild 2 (.ok (.new (fun _ => 0) [[3]] [[4]] "tenant" 1)), .remove 2, .clear] :=
  prefixCache_balanced _ (by decide) _ (by decide)

/-- Replacing an entry counts both the old and the new one. -/
theorem replacing_insert_counts_twice : ¬ Always (prefixStep fun _ => 0) Balanced (.new 1024)
      [.insert 1 (.new (fun _ => 0) [[1]] [[2]] "tenant" 1),
        .insert 1 (.new (fun _ => 0) [[3]] [[4]] "tenant" 1)] := by
  intro h
  have hused := (h.initial (List.prefix_refl _)).used_eq
  revert hused
  decide

end AdapterOS.Kv
