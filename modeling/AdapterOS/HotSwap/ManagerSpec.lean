import AdapterOS.HotSwap.Manager
import AdapterOS.HotSwap.TableInvariant

/-! What a command can do, said once: evictions, device calls and one table operation. -/
namespace AdapterOS.HotSwap.HotSwapManager

open Library AdapterTable

variable {K : Type*} {b : Backend K} {env : Env} {m m' : HotSwapManager K} {id : AdapterId}
  {addIds removeIds ids : List AdapterId}

/-- Any number of evictions, one after another. -/
inductive Evictions (b : Backend K) (m : HotSwapManager K) : HotSwapManager K → Prop where
  | refl : Evictions b m m
  | step (id : AdapterId) {m' : HotSwapManager K} :
      Evictions b m m' → Evictions b m (m'.evictAdapterById b id).2

theorem Evictions.head (h : Evictions b (m.evictAdapterById b id).2 m') : Evictions b m m' := by
  induction h with
  | refl => exact .step id .refl
  | step j _ ih => exact .step j ih

theorem evictCandidates_evictions (target freed : Nat) (cs : List AdapterEvictionCandidate) :
    Evictions b m (evictCandidates b target m freed cs).2 := by
  induction cs generalizing m freed with
  | nil => exact .refl
  | cons c cs ih =>
    unfold evictCandidates
    split
    · exact .refl
    all_goals grind [Evictions.head]

theorem enforce_evictions (needed : Nat) (protectedId : Option AdapterId) :
    Evictions b m (m.enforceAdapterCacheBudget b needed protectedId).2 := by
  unfold enforceAdapterCacheBudget
  cases m.table.adapterCacheBudgetBytes with
  | none => exact .refl
  | some budget =>
    have hev : ∀ target candidates,
        Evictions b m (m.evictCandidatesForBudget b target candidates).2 := by
      intro target candidates
      unfold evictCandidatesForBudget
      split
      · exact .refl
      · exact evictCandidates_evictions target 0 candidates
    dsimp only
    split
    · exact .refl
    · split
      · exact .refl
      · split
        · exact hev _ _
        · exact hev _ _

theorem onDevice_table (call : K → Except AosError Unit × K) :
    (m.onDevice call).2.table = m.table := by
  unfold onDevice
  cases m.kernels <;> rfl

@[simp] theorem detach_table (id : AdapterId) : (m.detach b id).2.table = m.table :=
  onDevice_table _

@[simp] theorem detachEach_table (ids : List AdapterId) : (m.detachEach b ids).table = m.table := by
  induction ids generalizing m with
  | nil => rfl
  | cons id ids ih => exact ih.trans (detach_table id)

@[simp] theorem attachEach_table (ids : List AdapterId) :
    (attachEach b m ids).2.table = m.table := by
  induction ids generalizing m with
  | nil => rfl
  | cons id ids ih => grind [onDevice_table, attachEach]

theorem idleBytes_held {t : AdapterTable} (h : t.idleBytes id ≠ 0) :
    id ∈ t.staged ∨ ∃ stack ∈ t.retiredStacks, id ∈ stack.active := by
  by_contra hn
  push Not at hn
  obtain ⟨hs, hr⟩ := hn
  apply h
  have hz : ∀ l : List Stack, (∀ stack ∈ l, id ∉ stack.active) →
      l.foldl (fun bytes stack => max bytes
        (((stack.active.get? id).map AdapterLoadState.vramBytes).getD 0)) 0 = 0 := by
    intro l hl
    induction l with
    | nil => rfl
    | cons s l ih => grind [AList.get?_eq_none]
  simpa [idleBytes, AList.get?_eq_none.mpr hs] using hz t.retiredStacks hr

theorem mem_removeAdapterFromRetired {retired : List Stack} {stack : Stack}
    (h : stack ∈ removeAdapterFromRetired id retired) :
    ∃ s ∈ retired, s.generation = stack.generation ∧ ∀ j ∈ stack.active, j ≠ id ∧ j ∈ s.active := by
  obtain ⟨s, hs, he⟩ := List.mem_filterMap.mp h
  grind

theorem forget_frame (t : AdapterTable) (id : AdapterId) :
    (t.forget id).active = t.active ∧ (t.forget id).staged = t.staged.erase id ∧
      (t.forget id).retiredStacks = removeAdapterFromRetired id t.retiredStacks ∧
      (t.forget id).rollbackState = t.rollbackState ∧
      (t.forget id).currentStack = t.currentStack ∧ (t.forget id).store = t.store ∧
      (t.forget id).heap = t.heap := by
  unfold forget
  dsimp only
  split <;> exact ⟨rfl, rfl, rfl, rfl, rfl, rfl, rfl⟩

theorem evict_cases (m : HotSwapManager K) (id : AdapterId) : (m.evictAdapterById b id).2 = m ∨
    (id ∉ m.table.active ∧ m.table.refcount id = 0 ∧
      (id ∈ m.table.staged ∨ ∃ stack ∈ m.table.retiredStacks, id ∈ stack.active) ∧
      ((m.evictAdapterById b id).2 = (m.detach b id).2 ∨ (m.evictAdapterById b id).2 =
          { (m.detach b id).2 with table := m.table.forget id })) := by
  grind [evictAdapterById, idleBytes_held, detach_table]

theorem loadAndAttach_table (weights : ByteArray) :
    (m.loadAndAttach b id weights).2.table = m.table := by
  grind [onDevice_table, loadAndAttach, detach_table]

@[simp] theorem detachRemovedAfterSwap_table (ids : List AdapterId) :
    (m.detachRemovedAfterSwap b ids).table = m.table := detachEach_table _

@[simp] theorem hintSwitch_table (ids : List AdapterId) :
    (m.hintSwitchAdapterAfterSwap b ids).table = m.table := by
  unfold hintSwitchAdapterAfterSwap
  split
  · split
    · exact onDevice_table _
    · rfl
  · rfl

theorem measuredVramMb_pos {estimated : Nat} (h : 0 < estimated) :
    0 < m.measuredVramMb b id estimated := by
  unfold measuredVramMb
  split
  · split
    · omega
    · exact h
  · exact h

theorem loadWeights_cases (b : Backend K) (env : Env) (m : HotSwapManager K) (id : AdapterId)
    (outcome : Option LoadOutcome) :
    ∃ m₁, Evictions b m m₁ ∧ ((m.loadWeights b env id outcome).2 = m₁ ∨
        ∃ weights, (m.loadWeights b env id outcome).2 = (m₁.loadAndAttach b id weights).2) ∧
      ∀ vramMb backing, (m.loadWeights b env id outcome).1 = .ok (vramMb, backing) →
        0 < vramMb := by
  unfold loadWeights
  split
  · refine ⟨m, .refl, Or.inl rfl, ?_⟩
    intro vramMb backing h
    cases h
    decide
  · exact ⟨m, .refl, Or.inl rfl, fun _ _ h => by cases h⟩
  · rename_i o _
    split
    · exact ⟨m, .refl, Or.inl rfl, fun _ _ h => by cases h⟩
    · dsimp only
      generalize hn : (if m.alreadyLoaded id then 0
        else saturatingMul64 (max (o.payload.size / bytesPerMb) 1) bytesPerMb) = needed
      have hev := enforce_evictions (b := b) (m := m) needed (some id)
      grind [measuredVramMb_pos]

theorem registerPreload_evictions (b : Backend K) (env : Env) (m : HotSwapManager K)
    (id : AdapterId) (hash observed : B3Hash) {vramMb : Nat}
    (backing : Option AdapterBacking) (h : 0 < vramMb) :
    Evictions b { m with table :=
      (m.table.preloadWithBacking id hash observed vramMb backing env.now).2 }
      (m.registerPreload b env id hash observed vramMb backing).2 := by
  have hv : vramMb ≠ 0 := Nat.pos_iff_ne_zero.mp h
  have hen := enforce_evictions (b := b) (m := { m with table :=
    (m.table.preloadWithBacking id hash observed vramMb backing env.now).2 }) 0 (some id)
  unfold registerPreload
  split
  · rename_i hp
    simp [preloadWithBacking, hv] at hp
  · rename_i t hp
    obtain rfl : (m.table.preloadWithBacking id hash observed vramMb backing env.now).2 = t := by
      rw [hp]
    split
    · rename_i hf
      rw [hf] at hen
      exact .step id hen
    · rename_i hf
      rwa [hf] at hen

theorem preload_cases (b : Backend K) (env : Env) (m : HotSwapManager K) (id : AdapterId)
    (hash : B3Hash) :
    ∃ m₁ m₂, Evictions b m m₁ ∧ (m₂ = m₁ ∨ ∃ weights, m₂ = (m₁.loadAndAttach b id weights).2) ∧
      ((m.preload b env id hash).2 = m₂ ∨ ∃ observed vramMb backing, Evictions b { m₂ with table :=
          (m₂.table.preloadWithBacking id hash observed vramMb backing env.now).2 }
          (m.preload b env id hash).2) := by
  unfold preload
  dsimp only
  split
  · exact ⟨m, m, .refl, Or.inl rfl, Or.inl rfl⟩
  · split
    · exact ⟨m, m, .refl, Or.inl rfl, Or.inl rfl⟩
    · rename_i outcome _
      split
      · exact ⟨m, m, .refl, Or.inl rfl, Or.inl rfl⟩
      · rename_i observed _
        obtain ⟨m₁, hev, hl, hpos⟩ := loadWeights_cases b env m id outcome
        refine ⟨m₁, _, hev, hl, ?_⟩
        split
        · rename_i he
          exact Or.inl (by rw [he])
        · rename_i vramMb backing m₂ he
          rw [he] at hpos ⊢
          refine Or.inr ⟨observed, vramMb, backing, ?_⟩
          grind [registerPreload_evictions]

/-- Verification may change recorded hashes of staged adapters, and nothing else. -/
structure Restaged (m m' : HotSwapManager K) : Prop where
  eq : ∃ staged, m' = { m with table := { m.table with staged := staged } }
  mem : ∀ id, id ∈ m'.table.staged ↔ id ∈ m.table.staged

theorem Restaged.refl (m : HotSwapManager K) : Restaged m m := ⟨⟨_, rfl⟩, fun _ => Iff.rfl⟩

theorem Restaged.trans {m₁ m₂ m₃ : HotSwapManager K} (ha : Restaged m₁ m₂)
    (hb : Restaged m₂ m₃) : Restaged m₁ m₃ := by
  obtain ⟨s, rfl⟩ := ha.eq
  obtain ⟨s', rfl⟩ := hb.eq
  exact ⟨⟨s', rfl⟩, fun id => (hb.mem id).trans (ha.mem id)⟩

theorem restaged_updateStagedHash (m : HotSwapManager K) (id : AdapterId) (hash : B3Hash) :
    Restaged m { m with table := m.table.updateStagedHash id hash } := by
  unfold updateStagedHash
  cases m.table.staged.get? id with
  | none => exact .refl m
  | some state => exact ⟨⟨_, rfl⟩, fun _ => AList.mem_replace⟩

theorem verifyAddIdsForSwap_restaged (ids : List AdapterId) :
    Restaged m (m.verifyAddIdsForSwap env ids).2 := by
  induction ids generalizing m with
  | nil => exact .refl m
  | cons id ids ih =>
    unfold verifyAddIdsForSwap
    split
    · exact .refl m
    · split
      · exact .refl m
      · exact .refl m
      · exact .refl m
      · split
        · exact (restaged_updateStagedHash m id _).trans ih
        · rename_i err _
          cases err.actual with
          | none =>
            dsimp only
            split
            · exact .refl m
            · exact ih
          | some actual =>
            have hr := restaged_updateStagedHash m id actual
            dsimp only
            split
            · exact hr
            · exact hr.trans ih

theorem checkSwapIntegrity_restaged (b : Backend K) (env : Env) (m : HotSwapManager K)
    (addIds removeIds : List AdapterId)
    (expected : Option B3Hash) :
    Restaged m (m.checkSwapIntegrity b env addIds removeIds expected).2 := by
  have hv : Restaged m (m.verifyAddIdsForSwap env addIds).2 := verifyAddIdsForSwap_restaged addIds
  unfold checkSwapIntegrity
  split
  · exact .refl m
  · split
    · split
      · rename_i he
        rwa [he] at hv
      · rename_i he
        rwa [he] at hv
    · exact .refl m

theorem checkSwapIntegrity_staged {removeIds : List AdapterId} {expected : Option B3Hash}
    (h : (m.checkSwapIntegrity b env addIds removeIds expected).1 = .ok ()) :
    ∀ id ∈ addIds, id ∈ m.table.staged := by
  unfold checkSwapIntegrity at h
  split at h
  · cases h
  · rename_i hf
    intro id hid
    have hs := List.find?_eq_none.mp hf id hid
    by_contra hn
    simp [stagedExpectedHash, AList.get?_eq_none.mpr hn] at hs

theorem commitSwap_of_staged (h : ∀ id ∈ addIds, id ∈ m.table.staged) :
    (m.commitSwap b addIds removeIds).1.isOk ∧
    (m.commitSwap b addIds removeIds).2 =
      ({ m with table := (m.table.swap addIds removeIds).2 }.detachRemovedAfterSwap b
        removeIds).hintSwitchAdapterAfterSwap b addIds := by
  obtain ⟨d, hd⟩ := swap_ok h removeIds
  simp [commitSwap, hd, Except.isOk, Except.toBool]

/-- A swap checks its arguments and attaches the new adapters; then it goes through, or the
staged adapters are cleaned up. -/
theorem swap_cases (b : Backend K) (env : Env) (m : HotSwapManager K)
    (addIds removeIds : List AdapterId) (expected : Option B3Hash) :
    ∃ m₁, Restaged m m₁ ∧ ((∃ m₂, (m₂ = m₁ ∨ m₂ = (m₁.attachStagedForSwap b addIds).2) ∧
        (m.swap b env addIds removeIds expected).2 = m₂.cleanupStagedOnFailure b addIds) ∨
      ((∀ id ∈ addIds, id ∈ m₁.table.staged) ∧ (m₁.attachStagedForSwap b addIds).1 = .ok () ∧
        (m.swap b env addIds removeIds expected).2 =
          ((m₁.attachStagedForSwap b addIds).2.commitSwap b addIds removeIds).2)) := by
  have hr := checkSwapIntegrity_restaged b env m addIds removeIds expected
  unfold swap
  split
  · rename_i m₁ he
    rw [he] at hr
    exact ⟨m₁, hr, Or.inl ⟨m₁, Or.inl rfl, rfl⟩⟩
  · rename_i m₁ he
    have hok : (m.checkSwapIntegrity b env addIds removeIds expected).1 = .ok () := by rw [he]
    have hst := checkSwapIntegrity_staged hok
    rw [he] at hr
    refine ⟨m₁, hr, ?_⟩
    obtain ⟨⟩ := hr
    grind

theorem mem_stagedAdds {t : AdapterTable} :
    id ∈ t.stagedAddsForSwap addIds ↔ id ∈ addIds ∧ id ∈ t.staged ∧ id ∉ t.active := by
  simp [stagedAddsForSwap, List.mem_eraseDups]

theorem rollback_state (b : Backend K) (m : HotSwapManager K) :
    (m.rollback b).2 = { m with table := m.table.rollback.2 } := by
  unfold HotSwapManager.rollback
  split
  · rename_i he
    rw [he]
  · rename_i he
    rw [he]

theorem execute_state (command : AdapterCommand) :
    (m.execute b env command).2 = (m.dispatch b env command).2 := by
  unfold execute
  split
  · rename_i he
    rw [he]
  · rename_i he
    rw [he]
  · rename_i he
    rw [he]

end AdapterOS.HotSwap.HotSwapManager
