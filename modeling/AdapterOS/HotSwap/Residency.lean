import AdapterOS.HotSwap.ManagerSpec

/-! Whether the active adapters are resident on a device that keeps a set of slots. -/
namespace AdapterOS.HotSwap

open Library AdapterTable HotSwapManager

def residentBackend (exclusiveSwitch : Bool) (hash : ByteArray → B3Hash) :
    Backend (Finset UInt16) :=
  { residentKernels exclusiveSwitch with hash := hash }

abbrev ResidentManager := HotSwapManager (Finset UInt16)

def ResidentManager.device (m : ResidentManager) : Finset UInt16 := m.kernels.getD ∅

variable {exclusiveSwitch : Bool} {hash : ByteArray → B3Hash} {S : Set AdapterId}
  {m : ResidentManager} {id : AdapterId} {addIds removeIds : List AdapterId} {t : AdapterTable}

def Resident (hash : ByteArray → B3Hash) (m : ResidentManager) : Prop :=
  ∀ id ∈ m.table.active, adapterIdToU16 hash id ∈ ResidentManager.device m

/-- Every id the table knows is one of the ids in play. -/
structure InPlay (S : Set AdapterId) (t : AdapterTable) : Prop where
  active : ∀ id ∈ t.active, id ∈ S
  staged : ∀ id ∈ t.staged, id ∈ S
  retired : ∀ stack ∈ t.retiredStacks, ∀ id ∈ stack.active, id ∈ S
  saved : ∀ stack, t.rollbackState = some stack → ∀ id ∈ stack.active, id ∈ S

/-- There is a device, the ids are in play, and the active ones are resident. -/
structure Sound (hash : ByteArray → B3Hash) (S : Set AdapterId) (m : ResidentManager) :
    Prop where
  kernels : m.kernels = some (ResidentManager.device m)
  inPlay : InPlay S m.table
  resident : Resident hash m

theorem sound_of_subset {k : Finset UInt16} (h : Sound hash S m) (m' : ResidentManager)
    (hk : m'.kernels = some k) (ht : m'.table = m.table)
    (hsub : ResidentManager.device m ⊆ k) : Sound hash S m' := by
  have hd : ResidentManager.device m' = k := by simp [ResidentManager.device, hk]
  refine ⟨by rw [hk, hd], by rw [ht]; exact h.inPlay, ?_⟩
  intro id hid
  rw [ht] at hid
  rw [hd]
  exact hsub (h.resident id hid)

theorem sound_of_table (h : Sound hash S m) (hp : InPlay S t)
    (ha : ∀ id ∈ t.active, adapterIdToU16 hash id ∈ ResidentManager.device m) :
    Sound hash S { m with table := t } :=
  ⟨h.kernels, hp, ha⟩

theorem onDevice_resident (h : Sound hash S m)
    (call : Finset UInt16 → Except AosError Unit × Finset UInt16) :
    m.onDevice call = ((call (ResidentManager.device m)).1,
      { m with kernels := some (call (ResidentManager.device m)).2 }) := by
  have hk := h.kernels
  unfold onDevice
  split <;> simp_all

section Detaching

variable (hinj : Set.InjOn (adapterIdToU16 hash) S) (h : Sound hash S m)

include hinj h

theorem sound_detach (hid : id ∈ S) (hn : id ∉ m.table.active) :
    Sound hash S (m.detach (residentBackend exclusiveSwitch hash) id).2 := by
  unfold HotSwapManager.detach
  rw [onDevice_resident h]
  refine ⟨rfl, h.inPlay, fun j hj => Finset.mem_erase.mpr ⟨?_, h.resident j hj⟩⟩
  intro he
  obtain rfl := hinj (h.inPlay.active j hj) hid he
  exact hn hj

theorem sound_detachEach {ids : List AdapterId} (hids : ∀ id ∈ ids, id ∈ S ∧ id ∉ m.table.active) :
    Sound hash S (m.detachEach (residentBackend exclusiveSwitch hash) ids) := by
  induction ids generalizing m with
  | nil => exact h
  | cons id ids ih =>
    obtain ⟨hS, hn⟩ := hids id (by simp)
    apply ih (sound_detach hinj h hS hn)
    intro j hj
    rw [detach_table]
    exact hids j (List.mem_cons_of_mem _ hj)

theorem sound_evict (id : AdapterId) :
    Sound hash S (m.evictAdapterById (residentBackend exclusiveSwitch hash) id).2 := by
  rcases evict_cases (b := residentBackend exclusiveSwitch hash) m id with he | ⟨hn, _, hheld, he⟩
  · rwa [he]
  · have hS : id ∈ S := by
      rcases hheld with hs | ⟨stack, hs, hid⟩
      · exact h.inPlay.staged id hs
      · exact h.inPlay.retired stack hs id hid
    have hd : Sound hash S (m.detach (residentBackend exclusiveSwitch hash) id).2 :=
      sound_detach hinj h hS hn
    rcases he with he | he
    · rwa [he]
    · rw [he]
      obtain ⟨ha, hst, hret, hroll, _⟩ := forget_frame m.table id
      obtain ⟨hactive, hstaged, hretired, hsaved⟩ := h.inPlay
      apply sound_of_table hd
      · refine ⟨by rwa [ha], by grind, ?_, by rwa [hroll]⟩
        grind [mem_removeAdapterFromRetired]
      · rw [ha]
        have hr := hd.resident
        rwa [Resident, detach_table] at hr

theorem sound_evictions {m' : ResidentManager}
    (he : Evictions (residentBackend exclusiveSwitch hash) m m') : Sound hash S m' := by
  induction he with
  | refl => exact h
  | step id _ ih => exact sound_evict hinj ih id

end Detaching

theorem sound_loadAndAttach (h : Sound hash S m) (id : AdapterId) (weights : ByteArray) :
    Sound hash S (m.loadAndAttach (residentBackend exclusiveSwitch hash) id weights).2 := by
  let slot := adapterIdToU16 hash id
  let m' : ResidentManager :=
    { m with kernels := some (insert slot (insert slot (ResidentManager.device m))) }
  have he : (m.loadAndAttach (residentBackend exclusiveSwitch hash) id weights).2 = m' := by
    unfold loadAndAttach
    rw [onDevice_resident h]
    rfl
  grind [sound_of_subset]

theorem sound_preload (hinj : Set.InjOn (adapterIdToU16 hash) S) (h : Sound hash S m)
    (env : Env) (digest : B3Hash) (hid : id ∈ S) :
    Sound hash S (m.preload (residentBackend exclusiveSwitch hash) env id digest).2 := by
  obtain ⟨m₁, m₂, hev, hl, he⟩ := preload_cases (residentBackend exclusiveSwitch hash) env m
    id digest
  have h₁ := sound_evictions hinj h hev
  have h₂ : Sound hash S m₂ := by grind [sound_loadAndAttach]
  rcases he with he | ⟨observed, vramMb, backing, hev'⟩
  · rwa [he]
  · apply sound_evictions hinj _ hev'
    have hstaged : ∀ j ∈ (m₂.table.preloadWithBacking id digest observed vramMb backing
        env.now).2.staged, j = id ∨ j ∈ m₂.table.staged := fun j => mem_preload_staged
    obtain ⟨staged, rc, heap, hf⟩ :=
      preload_frame m₂.table id digest observed vramMb backing env.now
    rw [hf] at hstaged ⊢
    have hp := h₂.inPlay.staged
    exact sound_of_table h₂ ⟨h₂.inPlay.active, by grind, h₂.inPlay.retired, h₂.inPlay.saved⟩
      h₂.resident

theorem sound_restaged {m' : ResidentManager} (h : Sound hash S m) (hr : Restaged m m') :
    Sound hash S m' := by
  obtain ⟨staged, rfl⟩ := hr.eq
  refine sound_of_table h ⟨h.inPlay.active, ?_, h.inPlay.retired, h.inPlay.saved⟩ h.resident
  intro j hj
  exact h.inPlay.staged j ((hr.mem j).mp hj)

theorem sound_attachEach (exclusiveSwitch : Bool) (h : Sound hash S m) (ids : List AdapterId) :
    Sound hash S (attachEach (residentBackend exclusiveSwitch hash) m ids).2 ∧
      ResidentManager.device m ⊆
        ResidentManager.device (attachEach (residentBackend exclusiveSwitch hash) m ids).2 ∧
      ∀ id ∈ ids, adapterIdToU16 hash id ∈
        ResidentManager.device (attachEach (residentBackend exclusiveSwitch hash) m ids).2 := by
  induction ids generalizing m with
  | nil => exact ⟨h, Finset.Subset.refl _, by simp⟩
  | cons id ids ih =>
    let m₁ : ResidentManager :=
      { m with kernels := some (insert (adapterIdToU16 hash id) (ResidentManager.device m)) }
    have he : attachEach (residentBackend exclusiveSwitch hash) m (id :: ids) =
        attachEach (residentBackend exclusiveSwitch hash) m₁ ids := by
      rw [attachEach, onDevice_resident h]
      rfl
    have hsub : ResidentManager.device m ⊆ ResidentManager.device m₁ := Finset.subset_insert _ _
    have h₁ : Sound hash S m₁ := sound_of_subset h _ rfl rfl hsub
    obtain ⟨hs, hd, hids⟩ := ih h₁
    rw [he]
    exact ⟨hs, hsub.trans hd, List.forall_mem_cons.mpr ⟨hd (Finset.mem_insert_self _ _), hids⟩⟩

theorem sound_cleanup (hinj : Set.InjOn (adapterIdToU16 hash) S) (h : Sound hash S m)
    (addIds : List AdapterId) :
    Sound hash S (m.cleanupStagedOnFailure (residentBackend exclusiveSwitch hash) addIds) := by
  have hids : ∀ id ∈ m.table.stagedAddsForSwap addIds, id ∈ S ∧ id ∉ m.table.active := by
    intro id hid
    obtain ⟨_, hs, hn⟩ := mem_stagedAdds.mp hid
    exact ⟨h.inPlay.staged id hs, hn⟩
  have hd : Sound hash S (m.detachEach (residentBackend exclusiveSwitch hash) _) :=
    sound_detachEach hinj h hids
  refine sound_of_table hd ⟨hd.inPlay.active, ?_, hd.inPlay.retired, hd.inPlay.saved⟩ hd.resident
  intro j hj
  exact hd.inPlay.staged j (AList.mem_eraseAll.mp hj).2

theorem inPlay_swap (h : InPlay S t)
    (hst : ∀ id ∈ addIds, id ∈ t.staged) : InPlay S (t.swap addIds removeIds).2 := by
  rcases AdapterTable.swap_cases t addIds removeIds with ⟨⟨id, hid, hn⟩, _⟩ | ⟨_, hi⟩
  · exact (hn (hst id hid)).elim
  · obtain ⟨⟩ := h
    obtain ⟨⟩ := hi
    constructor <;> grind [mem_swapActive, saveRollback]

theorem sound_hintSwitch (h : Sound hash S m) (addIds : List AdapterId) :
    Sound hash S (m.hintSwitchAdapterAfterSwap (residentBackend exclusiveSwitch hash) addIds) := by
  unfold hintSwitchAdapterAfterSwap
  split
  · rename_i id
    split
    · rename_i hc
      obtain ⟨hone, hid⟩ := hc
      rw [onDevice_resident h]
      refine ⟨rfl, h.inPlay, ?_⟩
      intro j hj
      -- the switch keeps the slot of the single active adapter
      have hj' : j = id := by grind [List.length_eq_one_iff, AList.mem_keys]
      subst j
      have hr := h.resident id hj
      cases exclusiveSwitch with
      | false => exact hr
      | true => exact Finset.mem_filter.mpr ⟨hr, rfl⟩
    · exact h
  · exact h

theorem sound_swap (hinj : Set.InjOn (adapterIdToU16 hash) S) (h : Sound hash S m) (env : Env)
    (expected : Option B3Hash) (hrem : ∀ id ∈ removeIds, id ∈ S) :
    Sound hash S (m.swap (residentBackend exclusiveSwitch hash) env addIds removeIds
      expected).2 := by
  obtain ⟨m₁, hr, he⟩ := HotSwapManager.swap_cases (residentBackend exclusiveSwitch hash) env m
    addIds removeIds expected
  have h₁ := sound_restaged h hr
  obtain ⟨ha, hsub, hatt⟩ := sound_attachEach exclusiveSwitch h₁ (m₁.table.stagedAddsForSwap addIds)
  rcases he with ⟨m₂, hm₂, he⟩ | ⟨hst, _, he⟩
  · rw [he]
    apply sound_cleanup hinj
    rcases hm₂ with rfl | rfl
    · exact h₁
    · exact ha
  · let m₂ := (m₁.attachStagedForSwap (residentBackend exclusiveSwitch hash) addIds).2
    have ht : m₂.table = m₁.table := attachEach_table _
    have hst₂ : ∀ id ∈ addIds, id ∈ m₂.table.staged := by rwa [ht]
    rw [he, (commitSwap_of_staged hst₂).2]
    apply sound_hintSwitch
    -- every adapter of the new stack was active before, or has just been attached
    have hswap : Sound hash S { m₂ with table := (m₂.table.swap addIds removeIds).2 } := by
      apply sound_of_table ha (inPlay_swap ha.inPlay hst₂)
      intro id hid
      rcases AdapterTable.swap_cases m₂.table addIds removeIds with ⟨⟨j, hj, hn⟩, _⟩ | ⟨_, hi⟩
      · exact (hn (hst₂ j hj)).elim
      · change id ∈ (m₂.table.swap addIds removeIds).2.active at hid
        rw [hi.active_eq] at hid
        by_cases hact : id ∈ m₁.table.active
        · exact hsub (h₁.resident id hact)
        all_goals grind [mem_swapActive, mem_stagedAdds]
    apply sound_detachEach hinj hswap
    grind [List.mem_eraseDups]

/-- Before a rollback: what it would bring back, and is not active now, is still resident. -/
def SavedResident (hash : ByteArray → B3Hash) (m : ResidentManager) : Prop :=
  ∀ stack, m.table.rollbackState = some stack → ∀ id ∈ stack.active, id ∉ m.table.active →
    adapterIdToU16 hash id ∈ ResidentManager.device m

theorem inPlay_rollback (h : InPlay S t) : InPlay S t.rollback.2 := by
  cases hr : t.rollbackState with
  | none => rwa [rollback_none hr]
  | some stack =>
    obtain ⟨_, hres⟩ := rollback_some hr
    obtain ⟨⟩ := h
    obtain ⟨⟩ := hres
    constructor <;> grind

theorem resident_rollback_iff (h : Sound hash S m) :
    Resident hash (m.rollback (residentBackend exclusiveSwitch hash)).2 ↔ SavedResident hash m := by
  rw [rollback_state]
  have hd : ResidentManager.device { m with table := m.table.rollback.2 } =
    ResidentManager.device m := rfl
  cases hr : m.table.rollbackState with
  | none =>
    have he : { m with table := m.table.rollback.2 } = m := by rw [rollback_none hr]
    rw [he]
    exact ⟨fun _ stack hs => by simp [hr] at hs, fun _ => h.resident⟩
  | some stack =>
    obtain ⟨_, hres⟩ := rollback_some hr
    constructor
    · intro hn s hs id hid _
      obtain rfl : stack = s := Option.some.inj (hr.symm.trans hs)
      exact hn id (by simpa [hres.active_eq] using hid)
    · intro hs id hid
      simp only [hres.active_eq] at hid
      by_cases ha : id ∈ m.table.active
      · exact h.resident id ha
      · exact hs stack hr id hid ha

/-- A command with the answers it gets from outside. -/
abbrev Request := Env × AdapterCommand

def residentStep (exclusiveSwitch : Bool) (hash : ByteArray → B3Hash) (m : ResidentManager)
    (r : Request) : ResidentManager :=
  (m.execute (residentBackend exclusiveSwitch hash) r.1 r.2).2

def commandIds : AdapterCommand → List AdapterId
  | .preload id _ => [id]
  | .swap addIds removeIds _ => addIds ++ removeIds
  | .rollback => []

def idsInPlay (requests : List Request) : Set AdapterId :=
  { id | ∃ r ∈ requests, id ∈ commandIds r.2 }

def RollbackResident (hash : ByteArray → B3Hash) (m : ResidentManager) (r : Request) : Prop :=
  match r.2 with
  | .rollback => SavedResident hash m
  | .preload _ _ | .swap _ _ _ => True

def succeeds (exclusiveSwitch : Bool) (hash : ByteArray → B3Hash) (m : ResidentManager)
    (r : Request) : Bool :=
  match (m.execute (residentBackend exclusiveSwitch hash) r.1 r.2).1 with
  | .ok result => result.success
  | .error _ => false

theorem step_cases (exclusiveSwitch : Bool) (hinj : Set.InjOn (adapterIdToU16 hash) S)
    (h : Sound hash S m) (r : Request) (hids : ∀ id ∈ commandIds r.2, id ∈ S) :
    InPlay S (residentStep exclusiveSwitch hash m r).table ∧
      (residentStep exclusiveSwitch hash m r).kernels =
        some (ResidentManager.device (residentStep exclusiveSwitch hash m r)) ∧
      (Resident hash (residentStep exclusiveSwitch hash m r) ↔ RollbackResident hash m r) := by
  obtain ⟨env, command⟩ := r
  unfold residentStep
  simp only [execute_state]
  cases command with
  | preload id digest =>
    have hs : Sound hash S (m.preload (residentBackend exclusiveSwitch hash) env id digest).2 :=
      sound_preload hinj h env digest (hids id (by simp [commandIds]))
    exact ⟨hs.inPlay, hs.kernels, fun _ => trivial, fun _ => hs.resident⟩
  | swap addIds removeIds expected =>
    have hrem : ∀ id ∈ removeIds, id ∈ S :=
      fun id hid => hids id (by simp [commandIds, hid])
    have hs : Sound hash S (m.swap (residentBackend exclusiveSwitch hash) env addIds removeIds
        expected).2 := sound_swap hinj h env expected hrem
    exact ⟨hs.inPlay, hs.kernels, fun _ => trivial, fun _ => hs.resident⟩
  | rollback =>
    refine ⟨?_, ?_, resident_rollback_iff h⟩ <;> simp only [dispatch, rollback_state]
    · exact inPlay_rollback h.inPlay
    · exact h.kernels

/-- A manager with an empty table over any device, budget and verification mode. -/
def emptyManager (identity : AdapterCacheIdentity) (device : Finset UInt16) (repoRoot : Path)
    (tenantId : String) (mode : AdapterIntegrityMode) (budget : Option Nat) : ResidentManager :=
  (newWithKernels identity device repoRoot tenantId mode).setAdapterCacheBudgetBytes budget

theorem sound_emptyManager (identity : AdapterCacheIdentity) (device : Finset UInt16)
    (repoRoot : Path) (tenantId : String) (mode : AdapterIntegrityMode) (budget : Option Nat) :
    Sound hash S (emptyManager identity device repoRoot tenantId mode budget) := by
  have hnone : ∀ id : AdapterId, id ∉ (∅ : AdapterMap) := fun _ => AList.notMem_empty _
  exact ⟨rfl, ⟨fun id hid => (hnone id hid).elim, fun id hid => (hnone id hid).elim, nofun, nofun⟩,
    fun id hid => (hnone id hid).elim⟩

/-- Preloads and swaps keep every active adapter resident. A rollback does not attach anything,
so residency holds throughout exactly when no rollback returns to an adapter that has left the
device. -/
theorem residency_iff (exclusiveSwitch : Bool) (hash : ByteArray → B3Hash)
    (identity : AdapterCacheIdentity) (device : Finset UInt16) (repoRoot : Path)
    (tenantId : String) (mode : AdapterIntegrityMode) (budget : Option Nat)
    (requests : List Request)
    (hinj : Set.InjOn (adapterIdToU16 hash) (idsInPlay requests)) :
    Always (residentStep exclusiveSwitch hash) (Resident hash)
        (emptyManager identity device repoRoot tenantId mode budget) requests ↔
      Guarded (residentStep exclusiveSwitch hash) (RollbackResident hash)
        (emptyManager identity device repoRoot tenantId mode budget) requests := by
  have h₀ : Sound hash (idsInPlay requests)
      (emptyManager identity device repoRoot tenantId mode budget) :=
    sound_emptyManager identity device repoRoot tenantId mode budget
  have hplay : Guarded (residentStep exclusiveSwitch hash)
      (fun _ r => ∀ id ∈ commandIds r.2, id ∈ idsInPlay requests)
      (emptyManager identity device repoRoot tenantId mode budget) requests :=
    guarded_of_forall fun _ r hr id hid => ⟨r, hr, hid⟩
  apply always_iff_guarded (I := fun m => InPlay (idsInPlay requests) m.table ∧
    m.kernels = some (ResidentManager.device m)) _ _ ⟨h₀.inPlay, h₀.kernels⟩ h₀.resident hplay
  · intro m r hi hres hids
    exact (step_cases exclusiveSwitch hinj ⟨hi.2, hi.1, hres⟩ r hids).imp_right And.left
  · intro m r hi hres hids
    exact (step_cases exclusiveSwitch hinj ⟨hi.2, hi.1, hres⟩ r hids).2.2

instance (hash : ByteArray → B3Hash) : DecidablePred (Resident hash) := fun m =>
  inferInstanceAs (Decidable (∀ id ∈ m.table.active.keys,
    adapterIdToU16 hash id ∈ ResidentManager.device m))

instance (hash : ByteArray → B3Hash) : DecidablePred (SavedResident hash) := fun m =>
  decidable_of_iff (∀ stack ∈ m.table.rollbackState, ∀ id ∈ stack.active.keys,
    id ∉ m.table.active → adapterIdToU16 hash id ∈ ResidentManager.device m) Iff.rfl

instance (hash : ByteArray → B3Hash) (m : ResidentManager) :
    (r : Request) → Decidable (RollbackResident hash m r)
  | (_, .rollback) => inferInstanceAs (Decidable (SavedResident hash m))
  | (_, .preload _ _) | (_, .swap _ _ _) => inferInstanceAs (Decidable True)

def testManager : ResidentManager :=
  emptyManager testIdentity ∅ ["repo"] "tenant" .enforce none

theorem residency_additive_swap :
    Always (residentStep true testHash) (Resident testHash) testManager
      [(testEnv, .preload "a" 1), (testEnv, .swap ["a"] [] none), (testEnv, .preload "b" 2),
        (testEnv, .swap ["b"] [] none), (testEnv, .rollback)] := by
  apply (residency_iff true testHash testIdentity ∅ ["repo"] "tenant" .enforce none _ _).mpr
  · decide
  · intro i hi j hj
    simp only [idsInPlay, commandIds, Set.mem_ofPred_eq, List.mem_cons, List.not_mem_nil, or_false,
      exists_eq_or_imp, List.append_nil, exists_eq_left] at hi hj
    rcases hi with rfl | rfl | rfl | rfl | hi <;> rcases hj with rfl | rfl | rfl | rfl | hj <;>
      decide

/-- The second swap takes `a` off the device, and the rollback makes `a` active again. -/
theorem rollback_not_resident :
    Guarded (residentStep false testHash) (fun m r => succeeds false testHash m r = true)
        testManager
        [(testEnv, .preload "a" 1), (testEnv, .swap ["a"] [] none), (testEnv, .preload "b" 2),
          (testEnv, .swap ["b"] ["a"] none), (testEnv, .rollback)] ∧
      ¬ Always (residentStep false testHash) (Resident testHash) testManager
        [(testEnv, .preload "a" 1), (testEnv, .swap ["a"] [] none), (testEnv, .preload "b" 2),
          (testEnv, .swap ["b"] ["a"] none), (testEnv, .rollback)] := by
  decide

end AdapterOS.HotSwap
