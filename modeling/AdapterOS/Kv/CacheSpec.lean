import AdapterOS.Kv.Cache

/-! What each cache operation does to the books. Quota and buffers are left open: whatever they
become, the offsets, ids and guards do not depend on it. -/
namespace AdapterOS.Kv

open Library

/-- A new cache of any kind, its capacity a machine word. -/
inductive KvCache.Created : KvCache → Prop where
  | plain (capacityBytes : Nat) (quotaManager : Option TenantKvQuotaManager)
      (h : capacityBytes < 2 ^ 64) : Created (.newWithQuota capacityBytes quotaManager)
  | metal (k v : Nat → UInt8) (capacityBytes bytesPerToken : Nat)
      (quotaManager : Option TenantKvQuotaManager) (h : capacityBytes < 2 ^ 64) :
      Created (.newWithMetalAndQuota k v capacityBytes bytesPerToken quotaManager)

/-- The operations on a cache. The quota manager is shared: `quota` is any change that another
holder makes to it. -/
inductive KvOp where
  | allocate (seqLen now systemNanos : Nat)
  | allocateWithGuard (seqLen generation now systemNanos : Nat)
  | free (seqId : SequenceId)
  | drainActiveSequences (o : Iteration SequenceId)
  | setGeneration (generation : Nat)
  | ensureCacheCoherence (currentGeneration : Nat)
  | zeroize
  | zeroizeSequence (seqId : SequenceId)
  | resetAll
  | zeroizeAll
  | quota (manager : TenantKvQuotaManager)

def kvStep (c : KvCache) : KvOp → KvCache
  | .allocate seqLen now systemNanos => (c.allocate seqLen now systemNanos).2
  | .allocateWithGuard seqLen generation now systemNanos =>
    (c.allocateWithGuard seqLen generation now systemNanos).2
  | .free seqId => (c.free seqId).2
  | .drainActiveSequences o => (c.drainActiveSequences o).2
  | .setGeneration generation => c.setGeneration generation
  | .ensureCacheCoherence currentGeneration => (c.ensureCacheCoherence currentGeneration).2
  | .zeroize => c.zeroize
  | .zeroizeSequence seqId => (c.zeroizeSequence seqId).2
  | .resetAll => c.resetAll
  | .zeroizeAll => c.zeroizeAll
  | .quota manager => { c with quotaManager := c.quotaManager.map fun _ => manager }

namespace KvCache

variable {c c' : KvCache} {seqId : SequenceId} {seqLen now systemNanos : Nat} {generation : Nat}

theorem releaseAllocationQuota_frame (c : KvCache) :
    ∃ q, c.releaseAllocationQuota = { c with quotaManager := q } := by
  unfold releaseAllocationQuota
  cases c.quotaManager with
  | none => exact ⟨c.quotaManager, rfl⟩
  | some quota =>
    dsimp only
    split
    · exact ⟨_, rfl⟩
    · exact ⟨c.quotaManager, rfl⟩

theorem reserveQuota_frame (c : KvCache) (bytes now systemNanos : Nat) :
    ∃ q, (c.reserveQuota bytes now systemNanos).2 = { c with quotaManager := q } := by
  unfold reserveQuota
  cases c.quotaManager with
  | none => exact ⟨c.quotaManager, rfl⟩
  | some quota =>
    dsimp only
    split
    · exact ⟨_, rfl⟩
    · exact ⟨_, rfl⟩
    · exact ⟨_, rfl⟩

theorem settleQuota_frame (c : KvCache) (reservation : Option KvReservation)
    (settle : TenantKvQuotaManager → KvReservation → TenantKvQuotaManager) :
    ∃ q, c.settleQuota reservation settle = { c with quotaManager := q } := by
  cases reservation with
  | none => exact ⟨c.quotaManager, rfl⟩
  | some r => exact ⟨_, rfl⟩

theorem zeroBuffers_frame (c : KvCache) (size : MetalBuffer → Nat) :
    ∃ k v, c.zeroBuffers size = { c with kBuffer := k, vBuffer := v } := by
  unfold zeroBuffers
  split
  · exact ⟨_, _, rfl⟩
  · exact ⟨c.kBuffer, c.vBuffer, rfl⟩

theorem allocate_cases (c : KvCache) (seqLen now systemNanos : Nat) :
    (∃ e q, c.allocate seqLen now systemNanos = (.error e, { c with quotaManager := q })) ∨
    (∃ required q, c.requiredBytes seqLen = some required ∧
      wrap64 (c.usedBytes + wrap64 (required * 2)) ≤ c.capacityBytes ∧
      c.allocate seqLen now systemNanos =
        (.ok c.nextSeqId, { c.place required with quotaManager := q })) := by
  unfold allocate
  cases hr : c.requiredBytes seqLen with
  | none => exact .inl ⟨_, c.quotaManager, rfl⟩
  | some required =>
    dsimp only
    obtain ⟨q, hq⟩ := c.reserveQuota_frame (wrap64 (required * 2)) now systemNanos
    cases hres : c.reserveQuota (wrap64 (required * 2)) now systemNanos with
    | mk result c₁ =>
      rw [hres] at hq
      dsimp only at hq ⊢
      subst c₁
      cases result with
      | error e => exact .inl ⟨e, q, rfl⟩
      | ok reservation =>
        dsimp only
        split
        · obtain ⟨q', hq'⟩ := settleQuota_frame { c with quotaManager := q } reservation .rollback
          exact .inl ⟨_, q', by rw [hq']⟩
        · rename_i hcap
          obtain ⟨q', hq'⟩ := settleQuota_frame (place { c with quotaManager := q } required)
            reservation .finalize
          exact .inr ⟨required, q', rfl, Nat.not_lt.mp hcap, by rw [hq']; rfl⟩

theorem allocateWithGuard_error {e : AosError}
    (h : (c.ensureCacheCoherence generation).2.allocate seqLen now systemNanos = (.error e, c')) :
    c.allocateWithGuard seqLen generation now systemNanos = (.error e, c') := by
  simp only [allocateWithGuard, h]

theorem allocateWithGuard_ok
    (h : (c.ensureCacheCoherence generation).2.allocate seqLen now systemNanos = (.ok seqId, c')) :
    c.allocateWithGuard seqLen generation now systemNanos = (.ok (.new seqId generation),
      { c' with activeGuards := c'.activeGuards.insert seqId generation }) := by
  simp only [allocateWithGuard, h]

theorem free_none (h : c.allocations.get? seqId = none) :
    c.free seqId = (.error (.worker s!"Sequence ID {seqId} not found in KV cache"),
      { c with activeGuards := c.activeGuards.erase seqId }) := by
  simp only [free, h]

theorem free_some {a : KvAllocation} (h : c.allocations.get? seqId = some a) :
    ∃ q, c.free seqId = (.ok (), { c with
        activeGuards := c.activeGuards.erase seqId
        allocations := c.allocations.erase seqId
        freeRegions := coalesce (c.freeRegions ++ [⟨a.kOffset, wrap64 (a.kSize + a.vSize)⟩])
        quotaManager := q }) := by
  simp only [free, h]
  exact ⟨_, rfl⟩

theorem resetAll_frame (c : KvCache) :
    ∃ k v q, c.resetAll = ⟨k, v, c.capacityBytes, 0, ∅, 1, c.bytesPerToken, [],
      c.stackGeneration, ∅, q⟩ := by
  obtain ⟨q, hq⟩ := c.releaseAllocationQuota_frame
  unfold resetAll
  rw [hq]
  obtain ⟨k, v, hb⟩ := zeroBuffers_frame _ _
  exact ⟨k, v, q, hb⟩

theorem ensureCacheCoherence_changed (h : generation ≠ c.stackGeneration) :
    c.ensureCacheCoherence generation = (true, c.resetAll.setGeneration generation) :=
  if_pos h

theorem zeroize_frame (c : KvCache) :
    ∃ k v q, c.zeroize = ⟨k, v, c.capacityBytes, 0, ∅, c.nextSeqId, c.bytesPerToken, [],
      c.stackGeneration, c.activeGuards, q⟩ := by
  obtain ⟨k, v, hb⟩ := c.zeroBuffers_frame MetalBuffer.length
  obtain ⟨q, hq⟩ := (c.zeroBuffers MetalBuffer.length).releaseAllocationQuota_frame
  refine ⟨k, v, q, ?_⟩
  rw [zeroize, hq, hb]

theorem zeroizeAll_frame (c : KvCache) :
    ∃ k v q, c.zeroizeAll = ⟨k, v, c.capacityBytes, 0, ∅, c.nextSeqId, c.bytesPerToken,
      [⟨0, c.capacityBytes⟩], c.stackGeneration, ∅, q⟩ := by
  obtain ⟨q, hq⟩ := c.releaseAllocationQuota_frame
  refine ⟨c.kBuffer.map (·.zero 0 c.capacityBytes), c.vBuffer.map (·.zero 0 c.capacityBytes), q, ?_⟩
  rw [zeroizeAll, hq]

theorem zeroizeSequence_cases (c : KvCache) (seqId : SequenceId) :
    (∃ e, c.zeroizeSequence seqId = (.error e, c)) ∨
    (∃ k v, seqId ∈ c.allocations ∧
      c.zeroizeSequence seqId = free { c with kBuffer := k, vBuffer := v } seqId) := by
  unfold zeroizeSequence
  cases ha : c.allocations.get? seqId with
  | none => exact .inl ⟨_, rfl⟩
  | some a =>
    cases hz : c.zeroAllocation a with
    | error e => exact .inl ⟨e, by simp only [hz]⟩
    | ok c' =>
      obtain ⟨k, v, rfl⟩ : ∃ k v, c' = { c with kBuffer := k, vBuffer := v } := by
        revert hz
        fun_cases zeroAllocation c a with
        | case1 => simp
        | case2 => simp
        | case3 k v =>
          cases checkBounds "K" a.kOffset a.kSize k.length with
          | error e => rintro ⟨⟩
          | ok _ =>
            cases checkBounds "V" a.vOffset a.vSize k.length with
            | error e => rintro ⟨⟩
            | ok _ =>
              rintro ⟨⟩
              exact ⟨_, _, rfl⟩
        | case4 =>
          rintro ⟨⟩
          exact ⟨c.kBuffer, c.vBuffer, rfl⟩
      exact .inr ⟨k, v, AList.mem_of_get? ha, by simp only [hz]⟩

section Books

variable {P : Nat → Nat → HashMap SequenceId KvAllocation → List ByteRange → Prop} {op : KvOp}

/-- A property of the space books: capacity, bump pointer, allocations and free regions. -/
def Books (P : Nat → Nat → HashMap SequenceId KvAllocation → List ByteRange → Prop) (c : KvCache) :
    Prop :=
  P c.capacityBytes c.usedBytes c.allocations c.freeRegions

/-- What freeing keeps and what holds after clearing everything is kept by all operations, up to
the allocations that they make. -/
theorem books_step (hfree : ∀ (c : KvCache) (id : SequenceId), Books P c → Books P (c.free id).2)
    (hcleared : ∀ (c : KvCache) (free : List ByteRange), Books P c →
      free = [] ∨ free = [⟨0, c.capacityBytes⟩] → P c.capacityBytes 0 ∅ free)
    (h : Books P c)
    (hallocate : ∀ seqLen now systemNanos, op = .allocate seqLen now systemNanos →
      Books P (c.allocate seqLen now systemNanos).2)
    (hguarded : ∀ seqLen generation now systemNanos,
      op = .allocateWithGuard seqLen generation now systemNanos →
      Books P (c.ensureCacheCoherence generation).2 →
      Books P ((c.ensureCacheCoherence generation).2.allocate seqLen now systemNanos).2) :
    Books P (kvStep c op) := by
  have hreset : Books P c.resetAll := by
    obtain ⟨k, v, q, hc⟩ := c.resetAll_frame
    rw [hc]
    exact hcleared c [] h (Or.inl rfl)
  have hensure : ∀ generation, Books P (c.ensureCacheCoherence generation).2 := by
    intro generation
    unfold ensureCacheCoherence
    split
    · exact hreset
    · exact h
  cases op with
  | allocate seqLen now systemNanos => exact hallocate seqLen now systemNanos rfl
  | allocateWithGuard seqLen generation now systemNanos =>
    have ha := hguarded seqLen generation now systemNanos rfl (hensure generation)
    simp only [kvStep]
    cases he : (c.ensureCacheCoherence generation).2.allocate seqLen now systemNanos with
    | mk result c' =>
      rw [he] at ha
      cases result with
      | error e =>
        rw [allocateWithGuard_error he]
        exact ha
      | ok id =>
        rw [allocateWithGuard_ok he]
        exact ha
  | free id => exact hfree c id h
  | drainActiveSequences o =>
    simp only [kvStep, drainActiveSequences]
    split
    · have hall : ∀ (ids : List SequenceId) (c : KvCache), Books P c → Books P (c.freeAll ids) := by
        intro ids
        induction ids with
        | nil => exact fun _ h => h
        | cons id ids ih => exact fun c h => ih _ (hfree c id h)
      exact hall _ c h
    · exact h
  | setGeneration generation => exact h
  | ensureCacheCoherence generation => exact hensure generation
  | zeroize =>
    obtain ⟨k, v, q, hc⟩ := c.zeroize_frame
    simp only [kvStep, hc]
    exact hcleared c [] h (Or.inl rfl)
  | zeroizeSequence id =>
    simp only [kvStep]
    rcases c.zeroizeSequence_cases id with ⟨e, hc⟩ | ⟨k, v, _, hc⟩
    · rw [hc]
      exact h
    · rw [hc]
      exact hfree { c with kBuffer := k, vBuffer := v } id h
  | resetAll => exact hreset
  | zeroizeAll =>
    obtain ⟨k, v, q, hc⟩ := c.zeroizeAll_frame
    simp only [kvStep, hc]
    exact hcleared c _ h (Or.inr rfl)
  | quota manager => exact h

end Books

end KvCache

end AdapterOS.Kv
