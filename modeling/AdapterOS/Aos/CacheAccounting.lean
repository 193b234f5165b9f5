import Mathlib.Algebra.Order.BigOperators.Group.List
import AdapterOS.Aos.Cache

/-! The byte counter of the adapter cache against the sizes of the adapters in it. -/
namespace AdapterOS.Aos

open Library

namespace CacheMetrics

variable (m : CacheMetrics) (x : UInt64)

theorem updateSize_toInt64 : (m.updateSize x.toInt64).sizeBytes = m.sizeBytes + x := by
  unfold updateSize
  split <;> simp

theorem updateSize_neg : (m.updateSize (-x.toInt64)).sizeBytes = m.sizeBytes - x := by
  unfold updateSize
  split <;> simp [UInt64.sub_eq_add_neg]

end CacheMetrics

namespace AdapterCache

variable {c : AdapterCache} {s t : AdapterCache × UInt64}

def cachedBytes (c : AdapterCache) : Nat := c.cache.weight fun e => e.2.sizeBytes.toNat

def moeBytes (c : AdapterCache) : Nat := (c.moeEntries.map fun e => e.2.sizeBytes.toNat).sum

def Counted (c : AdapterCache) : Prop := c.metrics.sizeBytes.toNat = c.cachedBytes

theorem Counted.lt (hc : c.Counted) : c.cachedBytes < 2 ^ 64 := by
  rw [← hc]
  exact c.metrics.sizeBytes.toNat_lt

theorem counted_updateSize_iff (hc : c.Counted) (freed : UInt64) :
    Counted { c with metrics := c.metrics.updateSize (-freed.toInt64) } ↔ freed = 0 := by
  have hcount : Counted { c with metrics := c.metrics.updateSize (-freed.toInt64) } ↔
      (c.metrics.sizeBytes - freed).toNat = c.metrics.sizeBytes.toNat := by
    rw [Counted, CacheMetrics.updateSize_neg, hc]
    rfl
  grind [UInt64.toNat_inj]

section Drain

/-- Entries have left the cache, each taken off the counter once, for as many freed bytes. -/
structure Drained (s t : AdapterCache × UInt64) : Prop where
  config : t.1.config = s.1.config
  counted : t.1.Counted
  freed : t.2.toNat + t.1.cachedBytes = s.2.toNat + s.1.cachedBytes

theorem Drained.refl (hc : s.1.Counted) : Drained s s := ⟨rfl, hc, rfl⟩

theorem Drained.trans {u : AdapterCache × UInt64} (h : Drained s t) (h' : Drained t u) :
    Drained s u :=
  ⟨h'.config.trans h.config, h'.counted, h'.freed.trans h.freed⟩

theorem Drained.cachedBytes_le (h : Drained (c, 0) t) : t.1.cachedBytes ≤ c.cachedBytes := by
  have hfreed := h.freed
  simp at hfreed
  omega

theorem drained_eviction {cache : Lru PathBuf LoadedAdapter} {size : UInt64} (hc : s.1.Counted)
    (hb : s.2.toNat + s.1.cachedBytes < 2 ^ 64)
    (hw : size.toNat + cache.weight (fun e => e.2.sizeBytes.toNat) = s.1.cachedBytes) :
    Drained s ({ s.1 with cache, metrics := s.1.metrics.recordEviction size }, s.2 + size) where
  config := rfl
  counted := by
    have hle : size ≤ s.1.metrics.sizeBytes := by
      rw [UInt64.le_iff_toNat_le, hc]
      omega
    change (s.1.metrics.sizeBytes - size).toNat = cache.weight _
    rw [UInt64.toNat_sub_of_le _ _ hle, hc]
    omega
  freed := by
    change (s.2 + size).toNat + cache.weight _ = _
    rw [UInt64.toNat_add, Nat.mod_eq_of_lt (by omega)]
    omega

theorem evictLoop_drained (target maxSize : UInt64) {turns : Nat} {freed : UInt64}
    (hc : c.Counted) (hb : freed.toNat + c.cachedBytes < 2 ^ 64)
    (hturns : c.cache.entries.length ≤ turns) :
    ∃ freed', Drained (c, freed) ((evictLoop target maxSize turns c freed).2, freed') ∧
      ((evictLoop target maxSize turns c freed).1 = some freed' ∧ target - freed' ≤ maxSize ∨
        (evictLoop target maxSize turns c freed).1 = none ∧
        (evictLoop target maxSize turns c freed).2.cachedBytes = 0 ∧
        ¬ target - freed' ≤ maxSize) := by
  induction turns generalizing c freed with
  | zero =>
    have hnil : c.cache.entries = [] := List.length_eq_zero_iff.mp (Nat.le_zero.mp hturns)
    have hzero : c.cachedBytes = 0 := by simp [cachedBytes, Lru.weight, hnil]
    refine ⟨freed, ?_⟩
    unfold evictLoop
    split <;> simp_all [Drained.refl]
  | succ turns ih =>
    have hw := Lru.weight_popLru (f := fun e => e.2.sizeBytes.toNat) c.cache
    unfold evictLoop
    split
    · exact ⟨freed, .refl hc, .inl ⟨rfl, ‹_›⟩⟩
    · cases hlast : c.cache.entries.getLast? with
      | none =>
        have hnil := List.getLast?_eq_none_iff.mp hlast
        refine ⟨freed, ?_⟩
        simp only [Lru.popLru, hlast]
        refine ⟨.refl hc, .inr ⟨trivial, ?_, ‹_›⟩⟩
        simp [cachedBytes, Lru.weight, hnil]
      | some e =>
        simp only [Lru.popLru, hlast, Option.elim_some] at hw ⊢
        have hd := @drained_eviction (c, freed) _ e.2.sizeBytes hc hb hw
        obtain ⟨freed', hd', hend⟩ := ih hd.counted (by rw [hd.freed]; exact hb) (by
          simp only [Lru.keep, List.length_dropLast]
          omega)
        exact ⟨freed', hd.trans hd', hend⟩

/-- What making room comes to. The second subtraction is wrong whenever it is reached. -/
theorem evictForSize_cases {needed : UInt64} (hc : c.Counted)
    (hb : c.cachedBytes + needed.toNat < 2 ^ 64) :
    c.cachedBytes + needed.toNat ≤ c.config.maxSizeBytes.toNat ∧
      c.evictForSize needed = (.ok (), c) ∨
    c.config.maxSizeBytes < needed ∧ (∃ e, (c.evictForSize needed).1 = .error e) ∧
      (c.evictForSize needed).2.config = c.config ∧ (c.evictForSize needed).2.Counted ∧
      (c.evictForSize needed).2.cachedBytes = 0 ∨
    c.config.maxSizeBytes.toNat < c.cachedBytes + needed.toNat ∧ needed ≤ c.config.maxSizeBytes ∧
      (c.evictForSize needed).1 = .ok () ∧
      (c.evictForSize needed).2.config = c.config ∧ ¬ (c.evictForSize needed).2.Counted ∧
      (c.evictForSize needed).2.cachedBytes + needed.toNat ≤ c.config.maxSizeBytes.toNat := by
  have hsum : (c.metrics.sizeBytes + needed).toNat = c.cachedBytes + needed.toNat := by
    rw [UInt64.toNat_add, hc, Nat.mod_eq_of_lt hb]
  unfold evictForSize
  by_cases hfit : c.metrics.sizeBytes + needed ≤ c.config.maxSizeBytes
  · have hle := UInt64.le_iff_toNat_le.mp hfit
    rw [hsum] at hle
    exact .inl ⟨hle, if_pos hfit⟩
  · have hgt : c.config.maxSizeBytes.toNat < c.cachedBytes + needed.toNat := by
      rw [UInt64.le_iff_toNat_le, hsum] at hfit
      omega
    obtain ⟨freed, hd, hend⟩ := evictLoop_drained (c.metrics.sizeBytes + needed)
      c.config.maxSizeBytes hc (show (0 : UInt64).toNat + c.cachedBytes < 2 ^ 64 by
        simpa using hc.lt) le_rfl
    have hfreed := hd.freed
    simp only [UInt64.toNat_zero, Nat.zero_add] at hfreed
    have hrest : (c.metrics.sizeBytes + needed - freed).toNat =
        (evictLoop (c.metrics.sizeBytes + needed) c.config.maxSizeBytes c.cache.entries.length c
          0).2.cachedBytes + needed.toNat := by
      grind [UInt64.toNat_sub_of_le, UInt64.le_iff_toNat_le]
    simp only [if_neg hfit]
    generalize evictLoop (c.metrics.sizeBytes + needed) c.config.maxSizeBytes
      c.cache.entries.length c 0 = r at hd hend hfreed hrest
    obtain ⟨result, c'⟩ := r
    change _ = c'.cachedBytes + _ at hrest
    rw [UInt64.le_iff_toNat_le, hrest] at hend
    rcases hend with ⟨rfl, hle⟩ | ⟨rfl, hzero, hnot⟩
    · -- some entry has left, so the counter now lacks its size twice
      have hne : freed ≠ 0 := by
        rintro rfl
        simp only [UInt64.toNat_zero, Nat.zero_add] at hfreed
        omega
      refine .inr (.inr ⟨hgt, ?_, rfl, hd.config, ?_, hle⟩)
      · rw [UInt64.le_iff_toNat_le]
        omega
      · exact fun h => hne ((counted_updateSize_iff hd.counted freed).mp h)
    · obtain ⟨⟩ := hd
      grind [UInt64.lt_iff_toNat_lt]

end Drain

section Insert

theorem counted_push_iff (c : AdapterCache) (path : PathBuf) (adapter : LoadedAdapter)
    (hb : c.cachedBytes + adapter.sizeBytes.toNat < 2 ^ 64) :
    Counted { c with
      cache := (c.cache.push path adapter).2
      metrics := (match (c.cache.push path adapter).1 with
        | some (_, evicted) => c.metrics.recordEviction evicted.sizeBytes
        | none => c.metrics).updateSize adapter.sizeBytes.toInt64 } ↔ c.Counted := by
  have hw := Lru.weight_push (g := fun a => a.sizeBytes.toNat) c.cache path adapter
  have hx := c.metrics.sizeBytes.toNat_lt
  change _ = c.cachedBytes + _ at hw
  simp only [Counted, CacheMetrics.updateSize_toInt64, UInt64.toNat_add]
  generalize hpush : c.cache.push path adapter = r at hw ⊢
  obtain ⟨evicted, cache⟩ := r
  change _ = cache.weight _ ↔ _
  grind [CacheMetrics.recordEviction, UInt64.toNat_sub]

def Within (c : AdapterCache) : Prop :=
  c.config.maxSizeBytes ≠ 0 → c.cachedBytes ≤ c.config.maxSizeBytes.toNat

theorem within_push {path : PathBuf} {adapter : LoadedAdapter} {metrics : CacheMetrics}
    (h : c.config.maxSizeBytes ≠ 0 →
      c.cachedBytes + adapter.sizeBytes.toNat ≤ c.config.maxSizeBytes.toNat) :
    Within { c with cache := (c.cache.push path adapter).2, metrics } := by
  intro hmax
  have hw := Lru.weight_push (g := fun a => a.sizeBytes.toNat) c.cache path adapter
  have hle := h hmax
  change (c.cache.push path adapter).2.weight _ ≤ c.config.maxSizeBytes.toNat
  change _ = c.cachedBytes + _ at hw
  change c.cachedBytes + _ ≤ c.config.maxSizeBytes.toNat at hle
  omega

theorem insert_counted_within_config (path : PathBuf) (adapter : LoadedAdapter) (hc : c.Counted)
    (hb : c.cachedBytes + adapter.sizeBytes.toNat < 2 ^ 64) :
    ((c.insert path adapter).2.Counted ↔ c.config.maxSizeBytes = 0 ∨
      c.cachedBytes + adapter.sizeBytes.toNat ≤ c.config.maxSizeBytes.toNat ∨
      c.config.maxSizeBytes < adapter.sizeBytes) ∧ (c.insert path adapter).2.Within ∧
      (c.insert path adapter).2.config = c.config := by
  by_cases hmax : c.config.maxSizeBytes = 0
  · grind [insert, counted_push_iff, within_push]
  · have hpos : 0 < c.config.maxSizeBytes := UInt64.pos_iff_ne_zero.mpr hmax
    simp only [insert, if_pos hpos]
    rcases evictForSize_cases hc hb with ⟨hle, heq⟩ | ⟨hlt, ⟨e, herr⟩, hconf, hc', hzero⟩ |
      ⟨hgt, hneed, hok, hconf, hnot, hle⟩
    · grind [counted_push_iff, within_push]
    · generalize c.evictForSize adapter.sizeBytes = r at herr hconf hc' hzero
      obtain ⟨made, c'⟩ := r
      cases herr
      refine ⟨⟨fun _ => .inr (.inr hlt), fun _ => hc'⟩, fun _ => ?_, hconf⟩
      exact hzero.trans_le (Nat.zero_le _)
    all_goals grind [counted_push_iff, within_push, UInt64.not_le]

end Insert

section Moe

variable {e : PathBuf × LoadedAdapter}

theorem evictListed_of_mem (he : e ∈ s.1.cache.entries) : evictListed s e = ({ s.1 with
      cache := (s.1.cache.pop e.1).2
      metrics := s.1.metrics.recordEviction e.2.sizeBytes }, s.2 + e.2.sizeBytes) := by
  have hpop := Lru.pop_of_mem he
  unfold evictListed
  split <;> simp_all

theorem evictPath_eq_evictListed (he : e ∈ s.1.cache.entries) :
    evictPath s e.1 = evictListed s e := by
  have hpop := Lru.pop_of_mem he
  unfold evictPath evictListed
  generalize s.1.cache.pop e.1 = r at hpop
  obtain ⟨found, cache⟩ := r
  cases hpop
  rfl

theorem mem_evictListed {e d : PathBuf × LoadedAdapter} (he : e ∈ s.1.cache.entries)
    (hd : d ∈ s.1.cache.entries) (hne : d.1 ≠ e.1) : d ∈ (evictListed s e).1.cache.entries := by
  rw [evictListed_of_mem he]
  exact Lru.mem_rest hd hne

theorem drained_evictListed (hc : s.1.Counted)
    (hb : s.2.toNat + s.1.cachedBytes < 2 ^ 64) (he : e ∈ s.1.cache.entries) :
    Drained s (evictListed s e) := by
  have hw := Lru.weight_pop (g := fun a => a.sizeBytes.toNat) s.1.cache e.1
  rw [Lru.pop_of_mem he] at hw
  rw [evictListed_of_mem he]
  exact drained_eviction hc hb hw

/-- Entries under different keys that are still in the cache. -/
structure Listed (c : AdapterCache) (l : List (PathBuf × LoadedAdapter)) : Prop where
  mem : ∀ e ∈ l, e ∈ c.cache.entries
  nodup : (l.map Prod.fst).Nodup

theorem listed_moeEntries (c : AdapterCache) : c.Listed c.moeEntries where
  mem _ he := (List.mem_filter.mp he).1
  nodup := (List.filter_sublist.map _).nodup c.cache.nodup

variable {l : List (PathBuf × LoadedAdapter)}

theorem Listed.tail (h : s.1.Listed (e :: l)) : (evictListed s e).1.Listed l where
  mem d hd := by
    have hkey := (List.nodup_cons.mp h.nodup).1
    refine mem_evictListed (h.mem e List.mem_cons_self) (h.mem d (List.mem_cons_of_mem e hd)) ?_
    intro heq
    exact hkey (heq ▸ List.mem_map_of_mem hd)
  nodup := (List.nodup_cons.mp h.nodup).2

theorem foldl_evictPath_eq (h : s.1.Listed l) :
    (l.map Prod.fst).foldl evictPath s = l.foldl evictListed s := by
  induction l generalizing s with
  | nil => rfl
  | cons e l ih =>
    rw [List.map_cons, List.foldl_cons, List.foldl_cons,
      evictPath_eq_evictListed (h.mem e List.mem_cons_self)]
    exact ih h.tail

theorem drained_foldl (hc : s.1.Counted)
    (hb : s.2.toNat + s.1.cachedBytes < 2 ^ 64) (h : s.1.Listed l) :
    Drained s (l.foldl evictListed s) ∧
      (l.foldl evictListed s).2.toNat = s.2.toNat + (l.map fun e => e.2.sizeBytes.toNat).sum := by
  induction l generalizing s with
  | nil => exact ⟨.refl hc, rfl⟩
  | cons e l ih =>
    have he := h.mem e List.mem_cons_self
    have hd := drained_evictListed hc hb he
    obtain ⟨hd', hfreed⟩ := ih hd.counted (hd.freed ▸ hb) h.tail
    refine ⟨hd.trans hd', ?_⟩
    have hw := Lru.weight_pop (g := fun a => a.sizeBytes.toNat) s.1.cache e.1
    rw [Lru.pop_of_mem he] at hw
    change e.2.sizeBytes.toNat + _ = s.1.cachedBytes at hw
    grind [evictListed_of_mem, UInt64.toNat_add]

theorem evictMoeLoop_eq_foldl {needed : UInt64}
    (hc : s.1.Counted) (hb : s.2.toNat + s.1.cachedBytes < 2 ^ 64) (h : s.1.Listed l)
    (hlt : s.2.toNat + (l.map fun e => e.2.sizeBytes.toNat).sum < needed.toNat) :
    evictMoeLoop needed l s = l.foldl evictListed s := by
  induction l generalizing s with
  | nil => rfl
  | cons e l ih =>
    have he := h.mem e List.mem_cons_self
    have hd := drained_evictListed hc hb he
    have hone := (@drained_foldl s [e] hc hb ⟨by simpa using he, by simp⟩).2
    simp only [List.map_cons, List.map_nil, List.sum_cons, List.sum_nil, Nat.add_zero,
      List.foldl_cons, List.foldl_nil] at hone
    rw [List.map_cons, List.sum_cons] at hlt
    rw [evictMoeLoop, if_neg (by rw [UInt64.le_iff_toNat_le]; omega)]
    exact ih hd.counted (hd.freed ▸ hb) h.tail (by omega)

theorem evictAll_counted_within (hc : c.Counted) (hin : c.Within) :
    let t := c.moeEntries.foldl evictListed (c, 0)
    (Counted { t.1 with metrics := t.1.metrics.updateSize (-t.2.toInt64) } ↔ c.moeBytes = 0) ∧
      Within { t.1 with metrics := t.1.metrics.updateSize (-t.2.toInt64) } := by
  obtain ⟨hd, hfreed⟩ := drained_foldl (s := (c, 0)) hc (by simpa using hc.lt) c.listed_moeEntries
  simp only [UInt64.toNat_zero, Nat.zero_add] at hfreed
  constructor
  · rw [counted_updateSize_iff hd.counted, ← UInt64.toNat_inj, hfreed]
    rfl
  · intro hmax
    have hmax' : c.config.maxSizeBytes ≠ 0 := hd.config ▸ hmax
    have hle := (hd.cachedBytes_le).trans (hin hmax')
    exact hd.config.symm ▸ hle

theorem moeBytes_le (c : AdapterCache) : c.moeBytes ≤ c.cachedBytes :=
  (List.filter_sublist.map _).sum_le_sum fun _ _ => Nat.zero_le _

theorem toNat_moeSizeBytes (hc : c.Counted) : c.moeSizeBytes.toNat = c.moeBytes := by
  have hlt := Nat.lt_of_le_of_lt c.moeBytes_le hc.lt
  unfold moeBytes at hlt
  unfold moeSizeBytes moeBytes
  generalize c.moeEntries = l at hlt
  induction l with
  | nil => rfl
  | cons e l ih => grind [UInt64.toNat_add]

theorem evictAllMoeAdapters_counted_within (hc : c.Counted) (hin : c.Within) :
    (c.evictAllMoeAdapters.2.Counted ↔ c.moeBytes = 0) ∧ c.evictAllMoeAdapters.2.Within := by
  simp only [evictAllMoeAdapters, foldl_evictPath_eq (s := (c, 0)) c.listed_moeEntries]
  exact evictAll_counted_within hc hin

theorem evictMoeForSize_counted_within (needed : UInt64) (hc : c.Counted) (hin : c.Within) :
    ((c.evictMoeForSize needed).2.Counted ↔ needed.toNat ≤ c.moeBytes ∨ c.moeBytes = 0) ∧
      (c.evictMoeForSize needed).2.Within := by
  unfold evictMoeForSize
  simp only [UInt64.le_iff_toNat_le, toNat_moeSizeBytes hc]
  split
  · exact ⟨⟨fun _ => .inl ‹_›, fun _ => hc⟩, hin⟩
  · rename_i hmore
    have hloop := evictMoeLoop_eq_foldl (s := (c, 0)) hc (by simpa using hc.lt)
      c.listed_moeEntries (by simpa [moeBytes] using hmore)
    grind [evictAll_counted_within]

end Moe

section Single

theorem get_counted_within (path : PathBuf) (hc : c.Counted) (hin : c.Within) :
    (c.get path).2.Counted ∧ (c.get path).2.Within := by
  have hw := Lru.weight_get (g := fun a => a.sizeBytes.toNat) c.cache path
  unfold get
  generalize c.cache.get path = r at hw
  obtain ⟨found, cache⟩ := r
  cases found <;> exact ⟨hc.trans hw.symm, fun hmax => hw.trans_le (hin hmax)⟩

theorem remove_counted_within (path : PathBuf) (hc : c.Counted) (hin : c.Within) :
    (c.remove path).2.Counted ∧ (c.remove path).2.Within := by
  have hw := Lru.weight_pop (g := fun a => a.sizeBytes.toNat) c.cache path
  unfold remove
  generalize c.cache.pop path = r at hw
  obtain ⟨removed, cache⟩ := r
  change _ = c.cachedBytes at hw
  cases removed with
  | none =>
    simp only [Option.elim_none, Nat.zero_add] at hw
    exact ⟨hc.trans hw.symm, fun hmax => hw.trans_le (hin hmax)⟩
  | some adapter =>
    simp only [Option.elim_some] at hw
    constructor
    · have hle : adapter.sizeBytes ≤ c.metrics.sizeBytes := by
        rw [UInt64.le_iff_toNat_le, hc]
        omega
      change (c.metrics.updateSize _).sizeBytes.toNat = cache.weight _
      rw [CacheMetrics.updateSize_neg, UInt64.toNat_sub_of_le _ _ hle, hc]
      omega
    · intro hmax
      have hle := hin hmax
      change cache.weight _ ≤ c.config.maxSizeBytes.toNat
      change c.cachedBytes ≤ c.config.maxSizeBytes.toNat at hle
      omega

theorem clear_counted_within (hc : c.Counted) :
    (c.clear.Counted ↔ c.cachedBytes = 0) ∧ c.clear.Within := by
  constructor
  · change c.metrics.sizeBytes.toNat = 0 ↔ _
    rw [hc]
  · exact fun _ => Nat.zero_le _

end Single

end AdapterCache

inductive CacheOp where
  | get (path : PathBuf)
  | insert (path : PathBuf) (adapter : LoadedAdapter)
  | remove (path : PathBuf)
  | clear
  | evictAllMoeAdapters
  | evictMoeForSize (neededSize : UInt64)

namespace AdapterCache

variable {c : AdapterCache}

def perform (c : AdapterCache) : CacheOp → AdapterCache
  | .get path => (c.get path).2
  | .insert path adapter => (c.insert path adapter).2
  | .remove path => (c.remove path).2
  | .clear => c.clear
  | .evictAllMoeAdapters => c.evictAllMoeAdapters.2
  | .evictMoeForSize neededSize => (c.evictMoeForSize neededSize).2

def InsertFits (c : AdapterCache) : CacheOp → Prop
  | .insert path adapter =>
    (c.insert path adapter).1 = .ok () → c.config.maxSizeBytes ≠ 0 →
      (c.insert path adapter).2.metrics.sizeBytes ≤ c.config.maxSizeBytes
  | _ => True

def Addressable (c : AdapterCache) : CacheOp → Prop
  | .insert _ adapter => c.cachedBytes + adapter.sizeBytes.toNat < 2 ^ 64
  | _ => True

/-- The operations that take no byte off the counter twice and leave none on it. -/
def CountsOnce (c : AdapterCache) : CacheOp → Prop
  | .get _ => True
  | .insert _ adapter =>
    c.config.maxSizeBytes = 0 ∨
      c.cachedBytes + adapter.sizeBytes.toNat ≤ c.config.maxSizeBytes.toNat ∨
      c.config.maxSizeBytes < adapter.sizeBytes
  | .remove _ => True
  | .clear => c.cachedBytes = 0
  | .evictAllMoeAdapters => c.moeBytes = 0
  | .evictMoeForSize neededSize => neededSize.toNat ≤ c.moeBytes ∨ c.moeBytes = 0

instance (c : AdapterCache) : DecidablePred c.Addressable
  | .insert _ adapter =>
    inferInstanceAs (Decidable (c.cachedBytes + adapter.sizeBytes.toNat < 2 ^ 64))
  | .get _ | .remove _ | .clear | .evictAllMoeAdapters | .evictMoeForSize _ => .isTrue trivial

instance (c : AdapterCache) : DecidablePred c.CountsOnce
  | .insert _ adapter =>
    inferInstanceAs (Decidable (_ ∨ _ ∨ c.config.maxSizeBytes < adapter.sizeBytes))
  | .get _ | .remove _ => .isTrue trivial
  | .clear => inferInstanceAs (Decidable (c.cachedBytes = 0))
  | .evictAllMoeAdapters => inferInstanceAs (Decidable (c.moeBytes = 0))
  | .evictMoeForSize neededSize =>
    inferInstanceAs (Decidable (neededSize.toNat ≤ c.moeBytes ∨ c.moeBytes = 0))

theorem perform_counted_within {op : CacheOp} (hin : c.Within) (hc : c.Counted)
    (ha : c.Addressable op) :
    ((c.perform op).Counted ↔ c.CountsOnce op) ∧ (c.perform op).Within := by
  cases op with
  | get path => exact (get_counted_within path hc hin).imp_left (iff_of_true · trivial)
  | insert path adapter =>
    exact (insert_counted_within_config path adapter hc ha).imp_right And.left
  | remove path => exact (remove_counted_within path hc hin).imp_left (iff_of_true · trivial)
  | clear => exact clear_counted_within hc
  | evictAllMoeAdapters => exact evictAllMoeAdapters_counted_within hc hin
  | evictMoeForSize neededSize => exact evictMoeForSize_counted_within neededSize hc hin

theorem insertFits_of_counted {op : CacheOp} (hc : c.Counted) (ha : c.Addressable op)
    (hnext : (c.perform op).Counted) : c.InsertFits op := by
  cases op with
  | insert path adapter =>
    intro _ hmax
    obtain ⟨_, hwithin, hconf⟩ := insert_counted_within_config path adapter hc ha
    rw [← hconf] at hmax ⊢
    exact UInt64.le_iff_toNat_le.mpr (hnext.trans_le (hwithin hmax))
  | _ => trivial

theorem new_counted (config : CacheConfig) : (new config).Counted ∧ (new config).Within := by
  unfold new
  constructor
  · split <;> rfl
  · intro _
    split <;> exact Nat.zero_le _

/-- The counter is right all along a run exactly when no operation of it counts a byte twice or
forgets one. -/
theorem cache_size_counted_iff (config : CacheConfig) (ops : List CacheOp)
    (ha : Guarded perform Addressable (new config) ops) :
    Always perform Counted (new config) ops ∧ Guarded perform InsertFits (new config) ops ↔
      Guarded perform CountsOnce (new config) ops := by
  obtain ⟨hc, hin⟩ := new_counted config
  have hwithin : ∀ c op, Within c → Counted c → Addressable c op → Within (perform c op) :=
    fun _ _ hin hc ha => (perform_counted_within hin hc ha).2
  have hiff := always_iff_guarded hwithin
    (fun _ _ hin hc ha => (perform_counted_within hin hc ha).1) hin hc ha
  have hfits := fun halways => guarded_of_always hwithin
    (fun _ _ _ hc ha => insertFits_of_counted hc ha) hin halways ha
  exact (and_iff_left_of_imp hfits).trans hiff

section Runs

def sixBytes : LoadedAdapter := ⟨6, false⟩

def expertBytes : LoadedAdapter := ⟨3, true⟩

def tenBytes : CacheConfig := ⟨10, 2⟩

def countedOps : List CacheOp :=
  [.insert "a" expertBytes, .get "a", .insert "a" expertBytes, .insert "b" expertBytes,
    .insert "c" expertBytes, .evictMoeForSize 5, .remove "c", .get "a", .remove "b", .clear,
    .evictAllMoeAdapters]

theorem countedOps_counted : Always perform Counted (new tenBytes) countedOps ∧
      Guarded perform InsertFits (new tenBytes) countedOps :=
  (cache_size_counted_iff tenBytes countedOps (by decide)).mpr (by decide)

/-- Making room for the second adapter takes the first one off twice. -/
theorem second_insert_uncounted :
    let c := run perform (new tenBytes) [.insert "a" sixBytes, .insert "b" sixBytes]
    c.metrics.sizeBytes = 0 ∧ c.cachedBytes = 6 ∧
      ¬ Always perform Counted (new tenBytes) [.insert "a" sixBytes, .insert "b" sixBytes] := by
  refine ⟨by decide, by decide, ?_⟩
  intro halways
  have hcounted := halways.2.2
  revert hcounted
  unfold Counted
  decide

end Runs

end AdapterCache

end AdapterOS.Aos
