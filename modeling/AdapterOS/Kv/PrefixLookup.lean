import AdapterOS.Kv.PrefixBudget

/-! What lookups in the prefix cache hand out: intact entries, and of all usable entries the one
with the longest common prefix. -/
namespace AdapterOS.Kv

open Library PrefixKvCache

section CommonPrefix

variable {α : Type*} [DecidableEq α] {xs ys : List α} {n : Nat}

def SharesPrefix (xs ys : List α) (n : Nat) : Prop :=
  n ≤ xs.length ∧ n ≤ ys.length ∧ xs.take n = ys.take n

theorem sharesPrefix_iff :
    SharesPrefix xs ys n ↔ n ≤ ((xs.zip ys).takeWhile fun p => p.1 = p.2).length := by
  induction xs generalizing ys n with
  | nil => simp +contextual [SharesPrefix]
  | cons x xs ih =>
    cases ys with
    | nil => simp +contextual [SharesPrefix]
    | cons y ys =>
      cases n with
      | zero => simp [SharesPrefix]
      | succ n =>
        have hrest := @ih ys n
        by_cases hxy : x = y
        · grind [SharesPrefix, List.takeWhile_cons_of_pos]
        · simp [SharesPrefix, hxy]

end CommonPrefix

variable {hash : List UInt8 → B3Hash} {c : PrefixKvCache} {key : B3Hash} {e : PrefixKvEntry}
  {inputTokens : List UInt32} {context tokenizer model : B3Hash} {minMatch : Nat}

/-- An intact entry with token data of the same context, tokenizer and model. -/
structure PrefixKvCache.Usable (hash : List UInt8 → B3Hash) (c : PrefixKvCache)
    (context tokenizer model key : B3Hash) (e : PrefixKvEntry) : Prop where
  stored : c.entries.get? key = some e
  intact : e.verifyIntegrity hash
  tokens : e.prefixTokens ≠ []
  context_eq : e.contextDigest = context
  tokenizer_eq : e.tokenizerHash = tokenizer
  model_eq : e.modelIdentityHash = model

section Longest

variable {seen : List (B3Hash × PrefixKvEntry)} {best : Option (B3Hash × PrefixKvEntry × Nat)}
  {len : PrefixKvEntry → Nat}

/-- `best` is the best of the entries seen: longest, then by the smallest key. -/
def BestOf (minMatch : Nat) (len : PrefixKvEntry → Nat) (seen : List (B3Hash × PrefixKvEntry)) :
    Option (B3Hash × PrefixKvEntry × Nat) → Prop
  | none => ∀ p ∈ seen, len p.2 < minMatch
  | some (key, e, n) => (key, e) ∈ seen ∧ len e = n ∧ minMatch ≤ n ∧
      ∀ p ∈ seen, minMatch ≤ len p.2 → len p.2 < n ∨ (len p.2 = n ∧ key ≤ p.1)

theorem bestOf_better (h : BestOf minMatch len seen best) (key : B3Hash) (e : PrefixKvEntry) :
    BestOf minMatch len (seen ++ [(key, e)]) (better minMatch best key e (len e)) := by
  have hlast : ∀ {P : B3Hash × PrefixKvEntry → Prop}, (∀ p ∈ seen, P p) → P (key, e) →
      ∀ p ∈ seen ++ [(key, e)], P p := by grind
  unfold better
  split
  · rename_i hmin
    cases best with
    | none =>
      refine ⟨by simp, rfl, hmin, hlast ?_ fun _ => Or.inr ⟨rfl, BitVec.le_refl _⟩⟩
      intro p hp hlong
      have hshort := h p hp
      omega
    | some found =>
      obtain ⟨bestKey, bestEntry, bestLen⟩ := found
      obtain ⟨hmem, hlen, hfits, hbest⟩ := h
      dsimp only
      split
      · rename_i hbetter
        refine ⟨by simp, rfl, hmin, hlast ?_ fun _ => Or.inr ⟨rfl, BitVec.le_refl _⟩⟩
        grind
      · rename_i hworse
        refine ⟨List.mem_append_left _ hmem, hlen, hfits, hlast hbest ?_⟩
        intro hlong
        simp only [BitVec.le_def, BitVec.lt_def] at hworse ⊢
        omega
  · rename_i hshort
    cases best with
    | none => exact hlast h (Nat.not_le.mp hshort)
    | some found =>
      obtain ⟨hmem, hlen, hfits, hbest⟩ := h
      exact ⟨List.mem_append_left _ hmem, hlen, hfits, hlast hbest fun hlong => absurd hlong hshort⟩

theorem bestOf_foldl (h : BestOf minMatch len seen best) (rest : List (B3Hash × PrefixKvEntry)) :
    BestOf minMatch len (seen ++ rest)
      (rest.foldl (fun best p => better minMatch best p.1 p.2 (len p.2)) best) := by
  induction rest generalizing seen best with
  | nil => simpa using h
  | cons p rest ih =>
    have hnext := ih (bestOf_better h p.1 p.2)
    rwa [List.append_assoc] at hnext

theorem mem_intact : (key, e) ∈ c.matchable.filter (fun p => p.2.verifyIntegrity hash) ↔
    c.entries.get? key = some e ∧ e.prefixTokens ≠ [] ∧ e.verifyIntegrity hash := by
  simp only [matchable, ordered, List.mem_filter, List.mem_insertionSort, AList.mem_items,
    PrefixKvEntry.supportsPrefixMatching]
  simp [and_assoc]

theorem bestMatch_bestOf (hash : List UInt8 → B3Hash) (c : PrefixKvCache)
    (inputTokens : List UInt32) (context tokenizer model : B3Hash) (minMatch : Nat) :
    BestOf minMatch (·.computePrefixMatchLength inputTokens context tokenizer model)
      (c.matchable.filter fun p => p.2.verifyIntegrity hash)
      (c.bestMatch hash inputTokens context tokenizer model minMatch) :=
  have hnone : BestOf minMatch (·.computePrefixMatchLength inputTokens context tokenizer model)
      [] none := by simp [BestOf]
  bestOf_foldl hnone _

theorem le_computePrefixMatchLength {n : Nat} (hlen : inputTokens.length < 2 ^ 32) (hn : 0 < n) :
    n ≤ e.computePrefixMatchLength inputTokens context tokenizer model ↔
      e.prefixTokens ≠ [] ∧ e.contextDigest = context ∧ e.tokenizerHash = tokenizer ∧
        e.modelIdentityHash = model ∧ SharesPrefix e.prefixTokens inputTokens n := by
  have hshort :
      ((e.prefixTokens.zip inputTokens).takeWhile fun p => p.1 = p.2).length < 2 ^ 32 := by
    have htake := (List.takeWhile_sublist (l := e.prefixTokens.zip inputTokens)
      fun p => p.1 = p.2).length_le
    rw [List.length_zip] at htake
    omega
  grind [sharesPrefix_iff, PrefixKvEntry.computePrefixMatchLength,
    PrefixKvEntry.supportsPrefixMatching]

theorem usable_sharesPrefix_iff {n : Nat} (hlen : inputTokens.length < 2 ^ 32) (hn : 0 < n) :
    c.Usable hash context tokenizer model key e ∧ SharesPrefix e.prefixTokens inputTokens n ↔
      (key, e) ∈ c.matchable.filter (fun p => p.2.verifyIntegrity hash) ∧
        n ≤ e.computePrefixMatchLength inputTokens context tokenizer model := by
  rw [mem_intact, le_computePrefixMatchLength hlen hn]
  constructor
  · rintro ⟨h, hshares⟩
    obtain ⟨⟩ := h
    grind
  · rintro ⟨⟨hstored, htokens, hintact⟩, _, hcontext, htokenizer, hmodel, hshares⟩
    exact ⟨⟨hstored, hintact, htokens, hcontext, htokenizer, hmodel⟩, hshares⟩

theorem lt_of_bestOf_none {n : Nat} (hlen : inputTokens.length < 2 ^ 32) (hmin : 1 ≤ minMatch)
    (hbest : BestOf minMatch (·.computePrefixMatchLength inputTokens context tokenizer model)
      (c.matchable.filter fun p => p.2.verifyIntegrity hash) none)
    (husable : c.Usable hash context tokenizer model key e)
    (hshares : SharesPrefix e.prefixTokens inputTokens n) : n < minMatch := by
  rcases Nat.eq_zero_or_pos n with rfl | hpos
  · exact hmin
  · obtain ⟨hmem, hle⟩ := (usable_sharesPrefix_iff hlen hpos).mp ⟨husable, hshares⟩
    exact Nat.lt_of_le_of_lt hle (hbest _ hmem)

/-- No usable entry shares more tokens than the best one, and of those with as many the best one
has the smallest key. -/
theorem le_of_bestOf_some {key' : B3Hash} {best : PrefixKvEntry} {m n : Nat}
    (hlen : inputTokens.length < 2 ^ 32) (hmin : 1 ≤ minMatch)
    (hbest : BestOf minMatch (·.computePrefixMatchLength inputTokens context tokenizer model)
      (c.matchable.filter fun p => p.2.verifyIntegrity hash) (some (key', best, m)))
    (husable : c.Usable hash context tokenizer model key e)
    (hshares : SharesPrefix e.prefixTokens inputTokens n) : n ≤ m ∧ (n = m → key' ≤ key) := by
  obtain ⟨-, -, hfits, hmax⟩ := hbest
  grind [usable_sharesPrefix_iff]

theorem findLongestPrefixMatch_fst (hash : List UInt8 → B3Hash) (c : PrefixKvCache)
    (inputTokens : List UInt32) (context tokenizer model : B3Hash) (minMatch : Nat) :
    (c.findLongestPrefixMatch hash inputTokens context tokenizer model minMatch).1 =
      if inputTokens.isEmpty then none
      else (c.bestMatch hash inputTokens context tokenizer model minMatch).map fun found =>
        ⟨found.2.1.recordAccess (wrap64 (c.currentTick + 1)), found.1, found.2.2,
          (inputTokens.length % 2 ^ 32 + (2 ^ 32 - found.2.2)) % 2 ^ 32⟩ := by
  unfold findLongestPrefixMatch
  split
  · rfl
  · cases c.bestMatch hash inputTokens context tokenizer model minMatch with
    | none => rfl
    | some found => rfl

/-- The search finds the longest common prefix of all usable entries, at the smallest key. -/
theorem findLongestPrefixMatch_longest (hash : List UInt8 → B3Hash) (c : PrefixKvCache)
    (inputTokens : List UInt32) (context tokenizer model : B3Hash) (minMatch : Nat)
    (hlen : inputTokens.length < 2 ^ 32) (hmin : 1 ≤ minMatch) :
    ((c.findLongestPrefixMatch hash inputTokens context tokenizer model minMatch).1.isSome ↔
      ∃ key e n, c.Usable hash context tokenizer model key e ∧
        SharesPrefix e.prefixTokens inputTokens n ∧ minMatch ≤ n) ∧
    ∀ found, (c.findLongestPrefixMatch hash inputTokens context tokenizer model minMatch).1 =
        some found →
      ∃ e, c.Usable hash context tokenizer model found.cacheKey e ∧
        found.entry = e.recordAccess (wrap64 (c.currentTick + 1)) ∧
        minMatch ≤ found.matchedTokenCount ∧
        SharesPrefix e.prefixTokens inputTokens found.matchedTokenCount ∧
        (∀ key' e' n, c.Usable hash context tokenizer model key' e' →
          SharesPrefix e'.prefixTokens inputTokens n → n ≤ found.matchedTokenCount ∧
              (n = found.matchedTokenCount → found.cacheKey ≤ key')) ∧
        found.matchedTokenCount + found.remainingTokens = inputTokens.length := by
  have hbest := bestMatch_bestOf hash c inputTokens context tokenizer model minMatch
  rw [findLongestPrefixMatch_fst]
  cases inputTokens with
  | nil =>
    refine ⟨?_, by simp⟩
    simp only [List.isEmpty_nil, if_pos, Option.isSome_none, Bool.false_eq_true, false_iff]
    rintro ⟨key, e, n, _, ⟨_, hn, _⟩, hlong⟩
    simp only [List.length_nil] at hn
    omega
  | cons token rest =>
    simp only [List.isEmpty_cons, Bool.false_eq_true, if_false, Option.isSome_map]
    cases hfound : c.bestMatch hash (token :: rest) context tokenizer model minMatch with
    | none => grind [lt_of_bestOf_none]
    | some found =>
      obtain ⟨key, e, n⟩ := found
      rw [hfound] at hbest
      obtain ⟨hmem, hn, hfits, -⟩ := id hbest
      obtain ⟨husable, hshares⟩ :=
        (usable_sharesPrefix_iff hlen (by omega)).mpr ⟨hmem, Nat.le_of_eq hn.symm⟩
      refine ⟨by simpa using ⟨key, e, husable, n, hshares, hfits⟩, ?_⟩
      intro found hsome
      obtain rfl := Option.some.inj hsome
      refine ⟨e, husable, rfl, hfits, hshares, ?_, ?_⟩
      · intro key' e' n' husable' hshares'
        exact le_of_bestOf_some hlen hmin hbest husable' hshares'
      · have hle := hshares.2.1
        dsimp only
        omega

def tiedCache : PrefixKvCache :=
  run (prefixStep fun _ => 0) (.new 64)
    [.insert 2 (.newWithTokens (fun _ => 0) [[1]] [[2]] "tenant" [1, 2, 3] 0 0 0),
      .insert 1 (.newWithTokens (fun _ => 0) [[3]] [[4]] "tenant" [1, 2, 5] 0 0 0)]

theorem findLongestPrefixMatch_longest_tied :
    ∃ found, (tiedCache.findLongestPrefixMatch (fun _ => 0) [1, 2, 4] 0 0 0 1).1 = some found ∧
      2 ≤ found.matchedTokenCount ∧ found.matchedTokenCount + found.remainingTokens = 3 := by
  obtain ⟨hfinds, hlongest⟩ :=
    findLongestPrefixMatch_longest (fun _ => 0) tiedCache [1, 2, 4] 0 0 0 1 (by decide) (by decide)
  have husable : tiedCache.Usable (fun _ => 0) 0 0 0 2
      (.newWithTokens (fun _ => 0) [[1]] [[2]] "tenant" [1, 2, 3] 0 0 0) :=
    ⟨rfl, rfl, by decide, rfl, rfl, rfl⟩
  have hshares : SharesPrefix [1, 2, 3] [(1 : UInt32), 2, 4] 2 := ⟨by decide, by decide, by decide⟩
  obtain ⟨found, hfound⟩ :=
    Option.isSome_iff_exists.mp (hfinds.mpr ⟨2, _, 2, husable, hshares, by decide⟩)
  obtain ⟨e, _, _, _, _, hmax, hsum⟩ := hlongest found hfound
  exact ⟨found, hfound, (hmax 2 _ 2 husable hshares).1, hsum⟩

end Longest

section Integrity

variable {builder : Except AosError PrefixKvEntry}

/-- An entry of this size can be inserted: it fits the budget, and what is missing can be freed. -/
def PrefixKvCache.Admits (c : PrefixKvCache) (e : PrefixKvEntry) : Prop :=
  e.kvBytes ≤ c.maxBytes ∧ (e.kvBytes ≤ c.maxBytes - c.usedBytes ∨
    e.kvBytes - (c.maxBytes - c.usedBytes) ≤
      (pickVictims (e.kvBytes - (c.maxBytes - c.usedBytes)) 0 c.candidates).2)

theorem evictUntilFits_ok_iff {needed : Nat} :
    (c.evictUntilFits needed).1 = .ok () ↔ needed ≤ c.maxBytes - c.usedBytes ∨
      needed - (c.maxBytes - c.usedBytes) ≤
        (pickVictims (needed - (c.maxBytes - c.usedBytes)) 0 c.candidates).2 := by
  grind [evictUntilFits]

theorem insert_ok_iff {e' : PrefixKvEntry} : (c.insert key e).1 = .ok e' ↔ c.Admits e ∧ e' = e := by
  grind [PrefixKvCache.insert, Admits, evictUntilFits_ok_iff]

/-- A stored entry is returned whether or not it is intact: `get` passes over a corrupted one, and
the leader's second look finds it again. Otherwise what is built is returned, if it fits. -/
theorem getOrBuild_ok_iff {e' : PrefixKvEntry} : (c.getOrBuild hash key builder).1 = .ok e' ↔
      match c.entries.get? key with
      | some e => e' = e.recordAccess (wrap64 (c.currentTick + 1))
      | none => ∃ e, builder = .ok e ∧ c.Admits e ∧ e' = e := by
  unfold getOrBuild PrefixKvCache.get
  cases hstored : c.entries.get? key with
  | some e =>
    by_cases hv : e.verifyIntegrity hash
    · simp [hv, hit, advanceTick, eq_comm]
    · simp [hv, buildAndCacheEntry, miss, countFailures, hstored, hit, advanceTick, eq_comm,
        Except.mapError, setTick]
  | none =>
    cases builder with
    | error err => simp [buildAndCacheEntry, miss, hstored, Except.mapError]
    | ok e =>
      have hinsert := @insert_ok_iff c.miss key e e'
      have hsame : c.miss.Admits e ↔ c.Admits e := Iff.rfl
      rw [hsame] at hinsert
      have habsent : c.miss.entries.get? key = none := hstored
      simp only [buildAndCacheEntry, habsent, Except.ok.injEq, exists_eq_left']
      rw [← hinsert]
      obtain ⟨result, c'⟩ := c.miss.insert key e
      cases result with
      | error err => simp [Except.mapError]
      | ok e => simp [Except.mapError]

/-- Nothing but intact entries is handed out. -/
def PrefixKvCache.HandsOutIntact (hash : List UInt8 → B3Hash) (c : PrefixKvCache) (key : B3Hash)
    (builder : Except AosError PrefixKvEntry) (inputTokens : List UInt32)
    (context tokenizer model : B3Hash) (minMatch : Nat) : Prop :=
  (∀ e, (c.get hash key).1 = some e → e.verifyIntegrity hash) ∧
  (∀ found, (c.findLongestPrefixMatch hash inputTokens context tokenizer model minMatch).1 =
    some found → found.entry.verifyIntegrity hash) ∧
  ∀ e, (c.getOrBuild hash key builder).1 = .ok e → e.verifyIntegrity hash

theorem get_intact (h : (c.get hash key).1 = some e) : e.verifyIntegrity hash := by
  unfold PrefixKvCache.get at h
  split at h
  · rename_i e' _
    split at h
    · cases h
    · rename_i hv
      obtain rfl := Option.some.inj h
      have hsame : (c.hit key e').1.verifyIntegrity hash = e'.verifyIntegrity hash := rfl
      rw [hsame]
      simpa using hv
  · cases h

theorem findLongestPrefixMatch_intact {found : PrefixMatch}
    (h : (c.findLongestPrefixMatch hash inputTokens context tokenizer model minMatch).1 =
      some found) : found.entry.verifyIntegrity hash := by
  have hbest := bestMatch_bestOf hash c inputTokens context tokenizer model minMatch
  rw [findLongestPrefixMatch_fst] at h
  split at h
  · cases h
  · cases hfound : c.bestMatch hash inputTokens context tokenizer model minMatch with
    | none => simp [hfound] at h
    | some best =>
      rw [hfound] at h hbest
      obtain rfl := Option.some.inj h
      exact (mem_intact.mp hbest.1).2.2

/-- The stored entry, or else the one that is built and fits, is intact. -/
def PrefixKvCache.SourceIntact (hash : List UInt8 → B3Hash) (c : PrefixKvCache) (key : B3Hash)
    (builder : Except AosError PrefixKvEntry) : Prop :=
  match c.entries.get? key with
  | some e => e.verifyIntegrity hash
  | none => ∀ e, builder = .ok e → c.Admits e → e.verifyIntegrity hash

/-- Reading and searching hand out intact entries only; with `getOrBuild` that is so exactly if
what it finds in the map, or builds, is intact. -/
theorem handsOutIntact_iff (hash : List UInt8 → B3Hash) (c : PrefixKvCache) (key : B3Hash)
    (builder : Except AosError PrefixKvEntry) (inputTokens : List UInt32)
    (context tokenizer model : B3Hash) (minMatch : Nat) :
    c.HandsOutIntact hash key builder inputTokens context tokenizer model minMatch ↔
      c.SourceIntact hash key builder := by
  have hreads : c.HandsOutIntact hash key builder inputTokens context tokenizer model minMatch ↔
      ∀ e, (c.getOrBuild hash key builder).1 = .ok e → e.verifyIntegrity hash :=
    ⟨fun h => h.2.2, fun h =>
      ⟨fun _ => get_intact, fun _ => findLongestPrefixMatch_intact, h⟩⟩
  rw [hreads]
  simp only [getOrBuild_ok_iff, SourceIntact]
  cases c.entries.get? key with
  | some e =>
    constructor
    · exact fun h => h (e.recordAccess (wrap64 (c.currentTick + 1))) rfl
    · rintro h _ rfl
      exact h
  | none => grind

def sumHash (bytes : List UInt8) : B3Hash := .ofNat 256 (bytes.map (·.toNat)).sum

def corruptedCache : PrefixKvCache :=
  run (prefixStep sumHash) (.new 64)
    [.insert 1 (.new sumHash [[1]] [[2]] "tenant" 1), .corrupt 1 [[7]] [[2]]]

/-- `get` rejects the corrupted entry, and `getOrBuild` returns it all the same. -/
theorem getOrBuild_returns_corrupted : (corruptedCache.get sumHash 1).1 = none ∧
    ∃ e, (corruptedCache.getOrBuild sumHash 1 (.ok (.new sumHash [[1]] [[2]] "tenant" 1))).1 =
        .ok e ∧
      e.verifyIntegrity sumHash = false := by
  refine ⟨by decide, { PrefixKvEntry.new sumHash [[1]] [[2]] "tenant" 1 with
      keys := [[7]], lastAccessTick := 1 }, ?_⟩
  decide

end Integrity

end AdapterOS.Kv
