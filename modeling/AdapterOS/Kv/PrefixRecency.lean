import AdapterOS.Kv.PrefixLookup

/-! Which entries an insertion evicts. The order of eviction is by access tick and then by key, and
a new entry starts at tick zero; it is compared here with the order in which entries were really
inserted and hit. -/
namespace AdapterOS.Kv

open Library PrefixKvCache

variable {hash : List UInt8 → B3Hash} {c c' : PrefixKvCache} {key a b : B3Hash}
  {e ea eb : PrefixKvEntry} {needed : Nat}

section Victims

def Before (p q : B3Hash × PrefixKvEntry) : Prop :=
  p.2.lastAccessTick < q.2.lastAccessTick ∨
    (p.2.lastAccessTick = q.2.lastAccessTick ∧ p.1 ≤ q.1)

instance : DecidableRel Before := fun _ _ => inferInstanceAs (Decidable (_ ∨ _))

instance : Std.Total Before where
  total p q := by
    simp only [Before, BitVec.le_def]
    omega

instance : IsTrans (B3Hash × PrefixKvEntry) Before where
  trans p q r hpq hqr := by
    simp only [Before, BitVec.le_def] at hpq hqr ⊢
    omega

theorem pairwise_candidates (c : PrefixKvCache) : c.candidates.Pairwise Before :=
  List.pairwise_insertionSort Before _

theorem mem_candidates : (key, e) ∈ c.candidates ↔ c.entries.get? key = some e ∧ ¬ e.isInUse := by
  simp [candidates, AList.mem_items]

theorem get?_foldl_evict (keys : List B3Hash) (c : PrefixKvCache) (key : B3Hash) :
    (keys.foldl evict c).entries.get? key = if key ∈ keys then none else c.entries.get? key := by
  induction keys generalizing c with
  | nil => simp
  | cons k keys ih => grind [evict_entries]

theorem foldl_evict_tick (keys : List B3Hash) (c : PrefixKvCache) :
    (keys.foldl evict c).currentTick = c.currentTick := by
  induction keys generalizing c with
  | nil => rfl
  | cons k keys ih =>
    rw [List.foldl_cons, ih]
    unfold evict
    split <;> rfl

theorem evictUntilFits_cases (c : PrefixKvCache) (needed : Nat) : (c.evictUntilFits needed).2 = c ∨
    (c.maxBytes - c.usedBytes < needed ∧ (c.evictUntilFits needed).2.currentTick = c.currentTick ∧
      ∃ picked rest, c.candidates = picked ++ rest ∧ ∀ key,
        (c.evictUntilFits needed).2.entries.get? key =
          if key ∈ picked.map Prod.fst then none else c.entries.get? key) := by
  obtain ⟨picked, ⟨rest, hsplit⟩, hkeys, _⟩ :=
    pickVictims_spec (needed - (c.maxBytes - c.usedBytes)) 0 c.candidates
  unfold evictUntilFits
  dsimp only
  split
  · exact Or.inl rfl
  · rename_i hroom
    split
    · exact Or.inl rfl
    · refine Or.inr ⟨by omega, foldl_evict_tick _ c, picked, rest, hsplit.symm, ?_⟩
      intro key
      rw [← hkeys]
      exact get?_foldl_evict _ c key

theorem evictUntilFits_kept (c : PrefixKvCache) (needed : Nat) :
    (c.evictUntilFits needed).2.currentTick = c.currentTick ∧
      ∀ key e, (c.evictUntilFits needed).2.entries.get? key = some e →
        c.entries.get? key = some e := by
  rcases evictUntilFits_cases c needed with hsame | ⟨_, htick, picked, rest, _, hget⟩
  · rw [hsame]
    exact ⟨rfl, fun _ _ h => h⟩
  · exact ⟨htick, by grind⟩

theorem evicted_before (ha : c.entries.get? a = some ea)
    (hevicted : a ∉ (c.evictUntilFits needed).2.entries)
    (hb : (c.evictUntilFits needed).2.entries.get? b = some eb) (hunused : ¬ eb.isInUse) :
    c.maxBytes - c.usedBytes < needed ∧ ¬ ea.isInUse ∧ c.entries.get? b = some eb ∧
      Before (a, ea) (b, eb) := by
  rcases evictUntilFits_cases c needed with hsame | ⟨hfull, _, picked, rest, hsplit, hget⟩
  · rw [hsame] at hevicted
    exact absurd (AList.mem_of_get? ha) hevicted
  · rw [hget] at hb
    split at hb
    · cases hb
    · rename_i hkept
      have hpicked : a ∈ picked.map Prod.fst := by grind [AList.mem_iff_get?]
      obtain ⟨⟨a', ea'⟩, hmem, rfl⟩ := List.mem_map.mp hpicked
      obtain ⟨hstored, hidle⟩ := mem_candidates.mp (hsplit ▸ List.mem_append_left rest hmem)
      cases ha.symm.trans hstored
      have hcandidate := mem_candidates.mpr ⟨hb, hunused⟩
      grind [pairwise_candidates]

theorem get?_evictUntilFits_of_inUse (hstored : c.entries.get? key = some e) (huse : e.isInUse)
    (needed : Nat) : (c.evictUntilFits needed).2.entries.get? key = some e := by
  rcases evictUntilFits_cases c needed with hsame | ⟨_, _, picked, rest, hsplit, hget⟩
  · rw [hsame, hstored]
  · rw [hget, if_neg, hstored]
    intro hpicked
    obtain ⟨⟨key', e'⟩, hmem, rfl⟩ := List.mem_map.mp hpicked
    obtain ⟨hstored', hidle⟩ := mem_candidates.mp (hsplit ▸ List.mem_append_left rest hmem)
    obtain rfl : e = e' := Option.some.inj (hstored.symm.trans hstored')
    exact hidle huse

def PrefixKvCache.unusedBytes (c : PrefixKvCache) : Nat :=
  ((c.entries.items.filter fun p => ¬ p.2.isInUse).map (·.2.kvBytes)).sum

theorem sum_candidates (c : PrefixKvCache) :
    (c.candidates.map (·.2.kvBytes)).sum = c.unusedBytes := by
  exact ((List.perm_insertionSort _ _).map _).sum_nat

theorem insert_refused (hshort : c.unusedBytes < e.kvBytes - (c.maxBytes - c.usedBytes)) :
    ∃ err, c.insert key e = (.error err, c) := by
  obtain ⟨picked, ⟨rest, hsplit⟩, _, hfreed⟩ :=
    pickVictims_spec (e.kvBytes - (c.maxBytes - c.usedBytes)) 0 c.candidates
  have hsum : (picked.map (·.2.kvBytes)).sum ≤ c.unusedBytes := by
    rw [← sum_candidates, ← hsplit, List.map_append, List.sum_append]
    omega
  unfold PrefixKvCache.insert
  dsimp only
  split
  · exact ⟨_, rfl⟩
  · have hroom : ¬ c.maxBytes - c.usedBytes ≥ e.kvBytes := by omega
    have hfew : (pickVictims (e.kvBytes - (c.maxBytes - c.usedBytes)) 0 c.candidates).2 <
        e.kvBytes - (c.maxBytes - c.usedBytes) := by omega
    simp only [evictUntilFits, if_neg hroom, if_pos hfew]
    exact ⟨_, rfl⟩

end Victims

section Trace

/-- The key that a call hits, as its result shows. -/
def hitKey (hash : List UInt8 → B3Hash) (c : PrefixKvCache) : PrefixOp → Option B3Hash
  | .get key => if (c.get hash key).1.isSome then some key else none
  | .findLongestPrefixMatch inputTokens context tokenizer model minMatch =>
    (c.findLongestPrefixMatch hash inputTokens context tokenizer model minMatch).1.map (·.cacheKey)
  | .getOrFindPrefix exactKey inputTokens context tokenizer model =>
    if (c.get hash exactKey).1.isSome then some exactKey
    else ((c.get hash exactKey).2.findLongestPrefixMatch hash inputTokens context tokenizer model
      1).1.map (·.cacheKey)
  | .getOrBuild key _ => if key ∈ c.entries then some key else none
  | _ => none

def newEntry (c : PrefixKvCache) : PrefixOp → Option (B3Hash × PrefixKvEntry)
  | .insert key e => some (key, e)
  | .getOrBuild key (.ok e) => if key ∈ c.entries then none else some (key, e)
  | _ => none

def insertedKey (c : PrefixKvCache) (op : PrefixOp) : Option B3Hash :=
  (newEntry c op).bind fun p => if (c.insert p.1 p.2).1.isOk then some p.1 else none

/-- A cache with the time of the last insertion or hit of each key, in calls, and whether it was
an insertion. -/
structure Traced where
  cache : PrefixKvCache
  clock : Nat
  lastUse : B3Hash → Nat
  fresh : B3Hash → Bool

def Traced.start (maxBytes : Nat) : Traced := ⟨.new maxBytes, 0, fun _ => 0, fun _ => false⟩

/-- One more call, which leaves `cache` and hits or inserts a key. -/
def Traced.next (s : Traced) (cache : PrefixKvCache) (hit inserted : Option B3Hash) : Traced where
  cache := cache
  clock := s.clock + 1
  lastUse key := if hit = some key ∨ inserted = some key then s.clock + 1 else s.lastUse key
  fresh key := if inserted = some key then true else if hit = some key then false else s.fresh key

def traceStep (hash : List UInt8 → B3Hash) (s : Traced) (op : PrefixOp) : Traced :=
  s.next (prefixStep hash s.cache op) (hitKey hash s.cache op) (insertedKey s.cache op)

/-- Entries come from the constructors without a tick, and only calls of the cache record an
access. -/
def DefaultBuilt (hash : List UInt8 → B3Hash) : PrefixOp → Prop
  | .insert _ e | .getOrBuild _ (.ok e) =>
    (∃ keys values tenantId count, e = .new hash keys values tenantId count) ∨
    ∃ keys values tenantId tokens context tokenizer model,
      e = .newWithTokens hash keys values tenantId tokens context tokenizer model
  | .recordAccess _ _ => False
  | _ => True

/-- Entries that a call evicts were last used before every unused entry that it keeps. -/
def EvictsOldest (s : Traced) (op : PrefixOp) : Prop :=
  ∀ key e, newEntry s.cache op = some (key, e) → e.kvBytes ≤ s.cache.maxBytes →
    ∀ a ∈ s.cache.entries, a ∉ (s.cache.evictUntilFits e.kvBytes).2.entries →
      ∀ b eb, (s.cache.evictUntilFits e.kvBytes).2.entries.get? b = some eb → ¬ eb.isInUse →
        s.lastUse a ≤ s.lastUse b

/-- The tick has room and is not set back. When a call has to evict, an unused entry that has not
been hit since its insertion is newer than another one only if that one has not been hit either
and has the smaller key. -/
structure UsesInOrder (s : Traced) (op : PrefixOp) : Prop where
  room : s.cache.currentTick + 1 < 2 ^ 64
  forward : ∀ tick, op = .setTick tick → s.cache.currentTick ≤ tick
  order : ∀ key e, newEntry s.cache op = some (key, e) →
    e.kvBytes ≤ s.cache.maxBytes → s.cache.maxBytes - s.cache.usedBytes < e.kvBytes →
    ∀ a b ea eb, s.cache.entries.get? a = some ea → s.cache.entries.get? b = some eb →
      ¬ ea.isInUse → ¬ eb.isInUse → s.lastUse a < s.lastUse b → s.fresh b →
        s.fresh a ∧ a < b

/-- What ticks say about the order of use. -/
structure Recent (s : Traced) : Prop where
  tick_le : ∀ key e, s.cache.entries.get? key = some e → e.lastAccessTick ≤ s.cache.currentTick
  fresh_zero : ∀ key e, s.cache.entries.get? key = some e → s.fresh key → e.lastAccessTick = 0
  hit_pos : ∀ key e, s.cache.entries.get? key = some e → ¬ s.fresh key → 0 < e.lastAccessTick
  use_le : ∀ key, s.lastUse key ≤ s.clock
  ordered : ∀ a b ea eb, s.cache.entries.get? a = some ea → s.cache.entries.get? b = some eb →
    ¬ s.fresh a → ¬ s.fresh b → s.lastUse a < s.lastUse b → ea.lastAccessTick < eb.lastAccessTick

theorem evictsOldest_of_recent {s : Traced} {op : PrefixOp} (h : Recent s)
    (hg : UsesInOrder s op) : EvictsOldest s op := by
  intro key e hnew hsize a hmem hevicted b eb hb hunused
  obtain ⟨ea, ha⟩ := AList.mem_iff_get?.mp hmem
  obtain ⟨hfull, hidle, hb', hbefore⟩ := evicted_before ha hevicted hb hunused
  by_contra hlater
  have hlt : s.lastUse b < s.lastUse a := Nat.not_le.mp hlater
  have horder := hg.order key e hnew hsize hfull b a eb ea hb' ha hunused hidle hlt
  simp only [Before, BitVec.le_def, BitVec.lt_def] at hbefore horder
  obtain ⟨-, hzero, hpos, -, hordered⟩ := h
  by_cases hfa : s.fresh a <;> by_cases hfb : s.fresh b <;> grind

/-- Where the tick of an entry after a call comes from. -/
inductive Stamp (c : PrefixKvCache) (hit inserted : Option B3Hash) (key : B3Hash) (tick : Nat) :
    Prop where
  | kept (e : PrefixKvEntry) (hhit : hit ≠ some key) (hinserted : inserted ≠ some key)
      (stored : c.entries.get? key = some e) (same : tick = e.lastAccessTick)
  | hit (hhit : hit = some key) (hinserted : inserted ≠ some key)
      (next : tick = c.currentTick + 1)
  | inserted (hinserted : inserted = some key) (zero : tick = 0)

/-- What a call that hits or inserts a key does to the ticks. -/
structure Effect (c c' : PrefixKvCache) (hit inserted : Option B3Hash) : Prop where
  stamp : ∀ key e', c'.entries.get? key = some e' → Stamp c hit inserted key e'.lastAccessTick
  tick_le : c.currentTick ≤ c'.currentTick ∨ c'.entries = ∅
  hit_lt : hit ≠ none → c.currentTick < c'.currentTick

section Next

variable {s : Traced} {hit inserted : Option B3Hash}

theorem Recent.next (h : Recent s) (heffect : Effect s.cache c' hit inserted) :
    Recent (s.next c' hit inserted) := by
  have hle : ∀ key e, c'.entries.get? key = some e → s.cache.currentTick ≤ c'.currentTick := by
    intro key e he
    rcases heffect.tick_le with hle | hempty
    · exact hle
    · exact absurd (AList.mem_of_get? he) (AList.notMem_of_eq_empty hempty)
  obtain ⟨⟩ := h
  obtain ⟨⟩ := heffect
  constructor <;> simp only [Traced.next] <;> grind [cases Stamp]

end Next

end Trace

section Effects

theorem effect_quiet (hentries : ∀ key e', c'.entries.get? key = some e' →
      ∃ e, c.entries.get? key = some e ∧ e'.lastAccessTick = e.lastAccessTick)
    (htick : c.currentTick ≤ c'.currentTick ∨ c'.entries = ∅) : Effect c c' none none := by
  refine ⟨?_, htick, fun hnone => absurd rfl hnone⟩
  intro key e' he'
  obtain ⟨e, he, hsame⟩ := hentries key e' he'
  exact .kept e (Option.some_ne_none key).symm (Option.some_ne_none key).symm he hsame

theorem effect_same (hentries : c'.entries = c.entries) (htick : c'.currentTick = c.currentTick) :
    Effect c c' none none := by
  refine effect_quiet ?_ (Or.inl htick.ge)
  intro key e' he'
  exact ⟨e', hentries ▸ he', rfl⟩

theorem effect_hit (hroom : c.currentTick + 1 < 2 ^ 64) (hentries : c'.entries =
      c.entries.insert key (e.recordAccess (wrap64 (c.currentTick + 1))))
    (htick : c'.currentTick = wrap64 (c.currentTick + 1)) : Effect c c' (some key) none := by
  rw [wrap64_of_lt hroom] at hentries htick
  refine ⟨?_, Or.inl (by omega), fun _ => by omega⟩
  grind [Stamp.kept, Stamp.hit, PrefixKvEntry.recordAccess]

theorem get_fst_some_iff : (c.get hash key).1.isSome ↔
    ∃ e, c.entries.get? key = some e ∧ e.verifyIntegrity hash := by
  unfold PrefixKvCache.get
  cases c.entries.get? key with
  | none => simp
  | some e => by_cases hv : e.verifyIntegrity hash <;> simp [hv]

theorem get_of_intact (hstored : c.entries.get? key = some e) (hv : e.verifyIntegrity hash) :
    (c.get hash key).2 = (c.hit key e).2 := by
  simp [PrefixKvCache.get, hstored, hv]

theorem get_of_none (h : ¬ (c.get hash key).1.isSome) :
    (c.get hash key).2.entries = c.entries ∧ (c.get hash key).2.currentTick = c.currentTick := by
  unfold PrefixKvCache.get at h ⊢
  cases hstored : c.entries.get? key with
  | none => exact ⟨rfl, rfl⟩
  | some e =>
    by_cases hv : e.verifyIntegrity hash
    · simp [hstored, hv] at h
    · simp only [hv]
      exact ⟨rfl, rfl⟩

theorem effect_get (hroom : c.currentTick + 1 < 2 ^ 64) (key : B3Hash) :
    Effect c (c.get hash key).2 (if (c.get hash key).1.isSome then some key else none) none := by
  split
  · rename_i hsome
    obtain ⟨e, hstored, hv⟩ := get_fst_some_iff.mp hsome
    rw [get_of_intact hstored hv]
    exact effect_hit hroom rfl rfl
  all_goals grind [get_of_none, effect_same]

theorem effect_findLongestPrefixMatch (hroom : c.currentTick + 1 < 2 ^ 64)
    (inputTokens : List UInt32) (context tokenizer model : B3Hash) (minMatch : Nat) :
    Effect c (c.findLongestPrefixMatch hash inputTokens context tokenizer model minMatch).2
      ((c.findLongestPrefixMatch hash inputTokens context tokenizer model minMatch).1.map
        (·.cacheKey)) none := by
  unfold findLongestPrefixMatch
  split
  · exact effect_same rfl rfl
  · cases c.bestMatch hash inputTokens context tokenizer model minMatch with
    | none => exact effect_same rfl rfl
    | some found => exact effect_hit hroom rfl rfl

theorem Effect.of_same {c₀ : PrefixKvCache} {hit inserted : Option B3Hash}
    (h : Effect c₀ c' hit inserted) (hentries : c₀.entries = c.entries)
    (htick : c₀.currentTick = c.currentTick) : Effect c c' hit inserted := by
  refine ⟨?_, htick ▸ h.tick_le, htick ▸ h.hit_lt⟩
  intro key e' he'
  have hstamp := h.stamp key e' he'
  grind [Stamp]

theorem insert_isOk_iff : (c.insert key e).1.isOk ↔ c.Admits e := by
  have hok := (@insert_ok_iff c key e e).trans (and_iff_left rfl)
  rw [← hok]
  cases hresult : (c.insert key e).1 with
  | error err => simp [Except.isOk, Except.toBool]
  | ok e' => simp [(insert_ok_iff.mp hresult).2, Except.isOk, Except.toBool]

theorem effect_insert (hzero : e.lastAccessTick = 0) (key : B3Hash) :
    Effect c (c.insert key e).2 none (if (c.insert key e).1.isOk then some key else none) := by
  obtain ⟨htick, hkept⟩ := evictUntilFits_kept c e.kvBytes
  unfold PrefixKvCache.insert
  dsimp only
  split
  · exact effect_same rfl rfl
  · generalize c.evictUntilFits e.kvBytes = evicted at htick hkept
    obtain ⟨_ | _, c'⟩ := evicted
    · exact effect_quiet (fun k e' he' => ⟨e', hkept k e' he', rfl⟩) (Or.inl htick.ge)
    · refine ⟨?_, Or.inl htick.ge, fun hnone => absurd rfl hnone⟩
      intro k e' he'
      change (c'.entries.insert key e).get? k = some e' at he'
      simp only [Except.isOk, Except.toBool, if_true]
      grind [Stamp.kept, Stamp.inserted]

theorem withRefcount_tick (e : PrefixKvEntry) (count : Nat) :
    (e.withRefcount count).lastAccessTick = e.lastAccessTick := rfl

theorem effect_touch (key : B3Hash) {change : PrefixKvEntry → PrefixKvEntry}
    (hsame : ∀ e, (change e).lastAccessTick = e.lastAccessTick) :
    Effect c (c.touch key change) none none := by
  unfold PrefixKvCache.touch
  split
  · rename_i e hstored
    refine effect_quiet ?_ (Or.inl (le_refl _))
    grind
  · exact effect_same rfl rfl

theorem defaultBuilt_tick {op : PrefixOp} (hdefault : DefaultBuilt hash op)
    (hnew : newEntry c op = some (key, e)) : e.lastAccessTick = 0 := by
  cases op with
  | insert k e' =>
    simp only [newEntry, Option.some.injEq, Prod.mk.injEq] at hnew
    obtain ⟨rfl, rfl⟩ := hnew
    rcases hdefault with ⟨_, _, _, _, rfl⟩ | ⟨_, _, _, _, _, _, _, rfl⟩ <;> rfl
  | getOrBuild k builder =>
    cases builder with
    | error err => simp [newEntry] at hnew
    | ok e' =>
      simp only [newEntry, Option.ite_none_left_eq_some, Option.some.injEq, Prod.mk.injEq] at hnew
      obtain ⟨_, rfl, rfl⟩ := hnew
      rcases hdefault with ⟨_, _, _, _, rfl⟩ | ⟨_, _, _, _, _, _, _, rfl⟩ <;> rfl
  | _ => simp [newEntry] at hnew

theorem effect_getOrFindPrefix (hroom : c.currentTick + 1 < 2 ^ 64) (exactKey : B3Hash)
    (inputTokens : List UInt32) (context tokenizer model : B3Hash) :
    Effect c (c.getOrFindPrefix hash exactKey inputTokens context tokenizer model).2
      (hitKey hash c (.getOrFindPrefix exactKey inputTokens context tokenizer model)) none := by
  have hget := @effect_get hash c hroom exactKey
  have hnone := @get_of_none hash c exactKey
  simp only [getOrFindPrefix, hitKey]
  generalize c.get hash exactKey = found at hget hnone
  obtain ⟨_ | e, c'⟩ := found
  · obtain ⟨hentries, htick⟩ := hnone (by simp)
    have hfind := @effect_findLongestPrefixMatch hash c' (htick ▸ hroom) inputTokens context
      tokenizer model 1
    exact hfind.of_same hentries htick
  · exact hget

theorem getOrBuild_snd (hash : List UInt8 → B3Hash) (c : PrefixKvCache) (key : B3Hash)
    (builder : Except AosError PrefixKvEntry) :
    (c.getOrBuild hash key builder).2 = match c.entries.get? key with
      | some e =>
        if e.verifyIntegrity hash then (c.hit key e).2 else ((c.countFailures 1).miss.hit key e).2
      | none =>
        match builder with
        | .ok e => (c.miss.insert key e).2
        | .error _ => c.miss := by
  unfold getOrBuild PrefixKvCache.get
  cases hstored : c.entries.get? key with
  | some e =>
    by_cases hv : e.verifyIntegrity hash
    · simp [hv]
    · have hfound : (c.countFailures 1).miss.entries.get? key = some e := hstored
      simp [hv, buildAndCacheEntry, hfound]
  | none =>
    have habsent : c.miss.entries.get? key = none := hstored
    cases builder <;> simp [buildAndCacheEntry, habsent]

theorem effect_getOrBuild {builder : Except AosError PrefixKvEntry}
    (hdefault : DefaultBuilt hash (.getOrBuild key builder)) (hroom : c.currentTick + 1 < 2 ^ 64) :
    Effect c (c.getOrBuild hash key builder).2 (hitKey hash c (.getOrBuild key builder))
      (insertedKey c (.getOrBuild key builder)) := by
  cases hstored : c.entries.get? key with
  | some e =>
    have hmem : key ∈ c.entries := AList.mem_of_get? hstored
    have hhit : hitKey hash c (.getOrBuild key builder) = some key := if_pos hmem
    have hnew : insertedKey c (.getOrBuild key builder) = none := by
      cases builder <;> simp [insertedKey, newEntry, hmem]
    rw [hhit, hnew, getOrBuild_snd]
    simp only [hstored]
    split <;> exact effect_hit hroom rfl rfl
  | none =>
    have habsent : key ∉ c.entries := AList.get?_eq_none.mp hstored
    have hhit : hitKey hash c (.getOrBuild key builder) = none := if_neg habsent
    rw [hhit, getOrBuild_snd]
    simp only [hstored]
    cases builder with
    | error err => exact effect_same rfl rfl
    | ok e =>
      have hnew : newEntry c (.getOrBuild key (.ok e)) = some (key, e) := if_neg habsent
      have hinsert := effect_insert (c := c.miss) (defaultBuilt_tick hdefault hnew) key
      have hok : (c.miss.insert key e).1.isOk ↔ (c.insert key e).1.isOk := by
        rw [insert_isOk_iff, insert_isOk_iff]
        exact Iff.rfl
      simp only [insertedKey, hnew, Option.bind_some]
      simp only [hok] at hinsert
      exact hinsert.of_same rfl rfl

theorem effect_remove (key : B3Hash) : Effect c (c.remove key).2 none none := by
  unfold PrefixKvCache.remove
  cases hstored : c.entries.get? key with
  | none => exact effect_same rfl rfl
  | some e =>
    refine effect_quiet ?_ (Or.inl (le_refl _))
    intro k e' he'
    change (c.entries.erase key).get? k = some e' at he'
    grind

theorem effect_step {op : PrefixOp} (hdefault : DefaultBuilt hash op)
    (hroom : c.currentTick + 1 < 2 ^ 64)
    (hforward : ∀ tick, op = .setTick tick → c.currentTick ≤ tick) :
    Effect c (prefixStep hash c op) (hitKey hash c op) (insertedKey c op) := by
  cases op with
  | get key => exact effect_get hroom key
  | findLongestPrefixMatch => exact effect_findLongestPrefixMatch hroom ..
  | getOrFindPrefix exactKey inputTokens context tokenizer model =>
    exact effect_getOrFindPrefix hroom exactKey inputTokens context tokenizer model
  | insert key entry => exact effect_insert (defaultBuilt_tick (c := c) hdefault rfl) key
  | getOrBuild key builder => exact effect_getOrBuild hdefault hroom
  | remove key => exact effect_remove key
  | clear => exact effect_quiet (by simp [prefixStep, PrefixKvCache.clear]) (Or.inr rfl)
  | advanceTick =>
    refine effect_quiet (fun _ e' he' => ⟨e', he', rfl⟩) (Or.inl ?_)
    change c.currentTick ≤ wrap64 (c.currentTick + 1)
    rw [wrap64_of_lt hroom]
    omega
  | setTick tick =>
    exact effect_quiet (fun _ e' he' => ⟨e', he', rfl⟩) (Or.inl (hforward tick rfl))
  | acquire key => exact effect_touch key fun e => withRefcount_tick e _
  | release key => exact effect_touch key fun e => withRefcount_tick e _
  | recordAccess => exact hdefault.elim
  | corrupt key keys values => exact effect_touch key fun _ => rfl

end Effects

section Runs

theorem recent_start (maxBytes : Nat) : Recent (.start maxBytes) := by
  constructor <;> simp [Traced.start, PrefixKvCache.new]

theorem recent_step {s : Traced} {op : PrefixOp} (h : Recent s) (hdefault : DefaultBuilt hash op)
    (hg : UsesInOrder s op) : Recent (traceStep hash s op) :=
  h.next (effect_step hdefault hg.room hg.forward)

def SparesInUse (s : Traced) (op : PrefixOp) : Prop :=
  ∀ key e, newEntry s.cache op = some (key, e) → ∀ k e', s.cache.entries.get? k = some e' →
    e'.isInUse → (s.cache.evictUntilFits e.kvBytes).2.entries.get? k = some e'

/-- An insertion for which the unused entries do not free enough fails and changes nothing. -/
def RefusesUnchanged (s : Traced) (op : PrefixOp) : Prop :=
  ∀ key e, newEntry s.cache op = some (key, e) →
    s.cache.unusedBytes < e.kvBytes - (s.cache.maxBytes - s.cache.usedBytes) →
      ∃ err, s.cache.insert key e = (.error err, s.cache)

/-- Along every run, entries in use survive and insertions that do not fit change nothing. If new
entries are used in the order of their ticks and keys, the least recently used are evicted. -/
theorem insert_evicts_oldest (hash : List UInt8 → B3Hash) (maxBytes : Nat) (ops : List PrefixOp)
    (hdefault : ∀ op ∈ ops, DefaultBuilt hash op) :
    (Guarded (traceStep hash) UsesInOrder (.start maxBytes) ops →
      Guarded (traceStep hash) EvictsOldest (.start maxBytes) ops) ∧
    Guarded (traceStep hash) SparesInUse (.start maxBytes) ops ∧
    Guarded (traceStep hash) RefusesUnchanged (.start maxBytes) ops := by
  refine ⟨?_, guarded_of_forall ?_, guarded_of_forall ?_⟩
  · intro hg
    have hboth := Guarded.and (guarded_of_forall fun _ op hop => hdefault op hop) hg
    exact guarded_of_guarded (I := Recent) (fun s op h hop => recent_step h hop.1 hop.2)
      (fun s op h hop => evictsOldest_of_recent h hop.2) (recent_start maxBytes) hboth
  · intro s op _ key e _ k e' hstored huse
    exact get?_evictUntilFits_of_inUse hstored huse e.kvBytes
  · intro s op _ key e _ hshort
    exact insert_refused hshort

def testEntry : PrefixKvEntry := .new (fun _ => 0) [[1]] [[2]] "tenant" 1

def threeInserts : List PrefixOp :=
  [.insert 1 testEntry, .insert 2 testEntry, .insert 3 testEntry]

theorem usesInOrder_of_room {s : Traced} {key : B3Hash} (hroom : s.cache.currentTick + 1 < 2 ^ 64)
    (hfits : e.kvBytes ≤ s.cache.maxBytes - s.cache.usedBytes) : UsesInOrder s (.insert key e) := by
  refine ⟨hroom, nofun, ?_⟩
  rintro _ _ ⟨⟩ _ hfull
  exact absurd hfull (Nat.not_lt.mpr hfits)

theorem threeInserts_inOrder :
    Guarded (traceStep fun _ => 0) UsesInOrder (.start 16) threeInserts := by
  refine ⟨usesInOrder_of_room (by decide) (by decide),
    usesInOrder_of_room (by decide) (by decide), ⟨by decide, nofun, ?_⟩, trivial⟩
  generalize hs : traceStep (fun _ => 0) (traceStep (fun _ => 0) (.start 16) (.insert 1 testEntry))
    (.insert 2 testEntry) = s
  have hkeys : ∀ k ek, s.cache.entries.get? k = some ek → k = 2 ∨ k = 1 := by
    intro k ek hk
    have hmem := AList.mem_keys.mp (AList.mem_of_get? hk)
    have hlist : s.cache.entries.keys = [2, 1] := by
      rw [← hs]
      decide
    simpa [hlist] using hmem
  intro _ _ _ _ _ a b ea eb ha hb _ _ huse _
  rcases hkeys a ea ha with rfl | rfl
  · rcases hkeys b eb hb with rfl | rfl
    · exact absurd huse (lt_irrefl _)
    · exact absurd huse (by rw [← hs]; decide)
  · rcases hkeys b eb hb with rfl | rfl
    · exact ⟨by rw [← hs]; decide, by decide⟩
    · exact absurd huse (lt_irrefl _)

theorem insert_evicts_oldest_three :
    Guarded (traceStep fun _ => 0) EvictsOldest (.start 16) threeInserts ∧
      1 ∉ (run (traceStep fun _ => 0) (.start 16) threeInserts).cache.entries :=
  ⟨(insert_evicts_oldest _ 16 threeInserts (by
      intro op hop
      simp only [threeInserts, List.mem_cons, List.not_mem_nil, or_false] at hop
      rcases hop with rfl | rfl | rfl <;> exact Or.inl ⟨_, _, _, _, rfl⟩)).1 threeInserts_inOrder,
    by decide⟩

/-- A hit makes the older entry look newer than one inserted after it, which is evicted. -/
theorem insert_evicts_newest :
    (∀ op ∈ [.insert 1 testEntry, .get 1, .insert 2 testEntry, .insert 3 testEntry],
      DefaultBuilt (fun _ => 0) op) ∧
    ¬ Guarded (traceStep fun _ => 0) EvictsOldest (.start 16)
      [.insert 1 testEntry, .get 1, .insert 2 testEntry, .insert 3 testEntry] := by
  refine ⟨?_, ?_⟩
  · intro op hop
    simp only [List.mem_cons, List.not_mem_nil, or_false] at hop
    rcases hop with rfl | rfl | rfl | rfl <;> first | trivial | exact Or.inl ⟨_, _, _, _, rfl⟩
  · rintro ⟨_, _, _, hlast, _⟩
    have holder := hlast 3 testEntry rfl (by decide) 2 (by decide) (by decide) 1
      (testEntry.recordAccess 1) (by decide) (by decide)
    revert holder
    decide

end Runs

end AdapterOS.Kv
