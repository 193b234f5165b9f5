import AdapterOS.Worker.GuardSafety

/-! Threads that use, pin, unload and load models at the same time. A step runs from one lock
acquisition to the next; the write lock of the cache is the only one held over several steps. -/
namespace AdapterOS.Worker

open Library ModelHandleCache

variable {H : Type*} {n : Nat}

structure LoadRequest (H : Type*) where
  key : ModelKey
  now : Instant
  loader : Loaded H

structure Insertion (H : Type*) where
  key : ModelKey
  now : Instant
  handle : H
  memoryBytes : UInt64

/-- An eviction under way: what is still listed and what has been freed. -/
structure Eviction (H : Type*) where
  insertion : Insertion H
  short : Shortage
  freed : UInt64
  entries : List (ModelKey × CachedModelEntry H)

/-- Where a thread stands: which lock it takes next. -/
inductive Pc (H : Type*) where
  | idle
  | beginUse (key : ModelKey)
  | useChecked (key : ModelKey)
  | pin (key : ModelKey) (now : Instant)
  | pinChecked (key : ModelKey) (now : Instant)
  | unload (key : ModelKey)
  | unloadUnpinned (key : ModelKey)
  | unloadIdle (key : ModelKey)
  | unloadRemoved (key : ModelKey) (memoryBytes : UInt64)
  | load (request : LoadRequest H)
  | loaded (insertion : Insertion H)
  | listing (insertion : Insertion H)
  | evicting (eviction : Eviction H)
  | evictRead (eviction : Eviction H) (key : ModelKey) (memoryBytes : UInt64) (isActive : Bool)
  | evictRemoved (eviction : Eviction H) (key : ModelKey) (memoryBytes : UInt64)

namespace Pc

def PendingOn (k : ModelKey) : Pc H → Prop
  | .useChecked key => key = k
  | .pinChecked key _ => key = k
  | _ => False

def Pending : Pc H → Prop
  | .useChecked _ => True
  | .pinChecked .. => True
  | _ => False

def Evicts : Pc H → Prop
  | .listing _ => True
  | .evicting _ => True
  | .evictRead .. => True
  | .evictRemoved .. => True
  | _ => False

instance (k : ModelKey) : DecidablePred (PendingOn (H := H) k)
  | .useChecked key => inferInstanceAs (Decidable (key = k))
  | .pinChecked key _ => inferInstanceAs (Decidable (key = k))
  | .idle | .beginUse _ | .pin .. | .unload _ | .unloadUnpinned _ | .unloadIdle _
  | .unloadRemoved .. | .load _ | .loaded _ | .listing _ | .evicting _ | .evictRead ..
  | .evictRemoved .. => .isFalse id

instance : DecidablePred (Pending (H := H))
  | .useChecked _ | .pinChecked .. => .isTrue trivial
  | .idle | .beginUse _ | .pin .. | .unload _ | .unloadUnpinned _ | .unloadIdle _
  | .unloadRemoved .. | .load _ | .loaded _ | .listing _ | .evicting _ | .evictRead ..
  | .evictRemoved .. => .isFalse id

theorem PendingOn.pending {k : ModelKey} {pc : Pc H} (h : pc.PendingOn k) : pc.Pending := by
  cases pc <;> trivial

end Pc

/-- The cache, the guards alive, the thread that has the cache locked for writing and where each
thread stands. -/
structure SharedCache (n : Nat) (H : Type*) extends GuardedCache H where
  writer : Option (Fin n)
  pc : Fin n → Pc H

inductive Call (H : Type*) where
  | beginUse (key : ModelKey)
  | pin (key : ModelKey) (now : Instant)
  | unload (key : ModelKey)
  | load (request : LoadRequest H)

def Call.entry : Call H → Pc H
  | .beginUse key => .beginUse key
  | .pin key now => .pin key now
  | .unload key => .unload key
  | .load request => .load request

inductive LockAction (n : Nat) (H : Type*) where
  | call (t : Fin n) (call : Call H)
  | advance (t : Fin n)
  | dropGuard (key : ModelKey)
  | unpin (key : ModelKey)

namespace SharedCache

variable {c : SharedCache n H} {t u : Fin n} {k : ModelKey} {pc : Pc H}

def goto (c : SharedCache n H) (t : Fin n) (pc : Pc H) : SharedCache n H :=
  { c with pc := Function.update c.pc t pc }

/-- The end of an eviction: the new model goes in if enough was freed. -/
def finishEviction (c : SharedCache n H) (t : Fin n) (e : Eviction H) : SharedCache n H :=
  let handles := c.handles.recordSkips e.short
  let handles := if e.freed < e.short.target then handles
    else handles.insertEntry e.insertion.key e.insertion.now e.insertion.handle
      e.insertion.memoryBytes
  { c with handles, writer := none }.goto t .idle

/-- One step of a thread; a thread that needs a lock another one has does not move. -/
def advance (c : SharedCache n H) (t : Fin n) : SharedCache n H :=
  match c.pc t with
  | .idle => c
  | .beginUse key =>
    if c.writer = none then c.goto t (if key ∈ c.handles.cache then .useChecked key else .idle)
    else c
  | .useChecked key =>
    { c with handles := c.handles.registerActive key, guards := key :: c.guards }.goto t .idle
  | .pin key now =>
    if c.writer = none then c.goto t (if key ∈ c.handles.cache then .pinChecked key now else .idle)
    else c
  | .pinChecked key now => { c with handles := (c.handles.registerPin key now).2 }.goto t .idle
  | .unload key => c.goto t (if c.handles.isPinned key then .idle else .unloadUnpinned key)
  | .unloadUnpinned key => c.goto t (if c.handles.isActive key then .idle else .unloadIdle key)
  | .unloadIdle key =>
    if c.writer = none then
      match c.handles.cache.get? key with
      | none => c.goto t .idle
      | some entry =>
        { c with handles := c.handles.takeOut key, writer := some t }.goto t
          (.unloadRemoved key entry.memoryBytes)
    else c
  | .unloadRemoved key memoryBytes =>
    { c with handles := c.handles.settleRemoval key memoryBytes, writer := none }.goto t .idle
  | .load request =>
    if c.writer = none then
      match c.handles.cache.get? request.key, request.loader with
      | some _, _ => { c with handles := c.handles.recordHit }.goto t .idle
      | none, .error _ => c.goto t .idle
      | none, .ok (handle, memoryBytes) =>
        c.goto t (.loaded ⟨request.key, request.now, handle, memoryBytes⟩)
    else c
  | .loaded i =>
    if c.writer = none then
      match c.handles.cache.get? i.key with
      | some _ => c.goto t .idle
      | none =>
        if c.handles.memoryUsage + i.memoryBytes ≤ c.handles.maxMemoryBytes then
          { c with handles := c.handles.insertEntry i.key i.now i.handle i.memoryBytes }.goto t .idle
        else { c with writer := some t }.goto t (.listing i)
    else c
  | .listing i =>
    -- both locks are held for reading while the entries are listed
    c.goto t (.evicting ⟨i, c.handles.shortage i.memoryBytes, 0, c.handles.evictionEntries⟩)
  | .evicting e =>
    match e.entries with
    | [] => c.finishEviction t e
    | (key, entry) :: entries =>
      if e.short.target ≤ e.freed then c.finishEviction t e
      else c.goto t
        (.evictRead { e with entries } key entry.memoryBytes (c.handles.isActive key))
  | .evictRead e key memoryBytes isActive =>
    if isActive || c.handles.isPinned key then c.goto t (.evicting e)
    else { c with handles := c.handles.takeOut key }.goto t (.evictRemoved e key memoryBytes)
  | .evictRemoved e key memoryBytes =>
    { c with handles := c.handles.settleRemoval key memoryBytes }.goto t
      (.evicting { e with freed := e.freed + memoryBytes })

def step (c : SharedCache n H) : LockAction n H → SharedCache n H
  | .call t call =>
    match c.pc t with
    | .idle => c.goto t call.entry
    | _ => c
  | .advance t => c.advance t
  | .dropGuard key => { c with toGuardedCache := c.toGuardedCache.perform (.dropGuard key) }
  | .unpin key => { c with toGuardedCache := c.toGuardedCache.perform (.unpin key) }

/-- Every model with a guard or a pin is in the cache. -/
structure Covered (c : SharedCache n H) : Prop where
  guarded_mem : ∀ k ∈ c.guards, k ∈ c.handles.cache
  pinned_mem : ∀ k ∈ c.handles.pinnedKeys, k ∈ c.handles.cache

/-- A load that has to evict takes the cache while no use or pin is between its check and its
registration; an unload takes it while none of its key is and what it read before still holds. -/
def SettledAt (c : SharedCache n H) : Pc H → Prop
  | .loaded i =>
    c.handles.memoryUsage + i.memoryBytes ≤ c.handles.maxMemoryBytes ∨ ∀ u, ¬ (c.pc u).Pending
  | .unloadIdle key =>
    (∀ u, ¬ (c.pc u).PendingOn key) ∧ c.handles.isPinned key = false ∧
      c.handles.isActive key = false
  | _ => True

/-- The check and the registration of a use or a pin fall on the same side of a removal. -/
def Settled (c : SharedCache n H) : LockAction n H → Prop
  | .advance t => c.SettledAt (c.pc t)
  | _ => True

section Invariant

/-- What a thread relies on where it stands. -/
def Local (c : SharedCache n H) (t : Fin n) : Pc H → Prop
  | .useChecked key => key ∈ c.handles.cache
  | .pinChecked key _ => key ∈ c.handles.cache
  | .unloadRemoved key _ => c.writer = some t ∧ key ∉ c.handles.cache
  | .listing _ => c.writer = some t
  | .evicting _ => c.writer = some t
  | .evictRead _ key _ isActive =>
    c.writer = some t ∧ (isActive = false → c.handles.activeCount key = 0)
  | .evictRemoved _ key _ => c.writer = some t ∧ key ∉ c.handles.cache
  | _ => True

theorem local_goto {u : Fin n} {pc' : Pc H} : (c.goto t pc).Local u pc' ↔ c.Local u pc' := by
  cases pc' <;> exact Iff.rfl

structure Inv (c : SharedCache n H) : Prop where
  accounted : c.toGuardedCache.Accounted
  locals : ∀ t, c.Local t (c.pc t)
  quiet : ∀ t u, (c.pc t).Evicts → ¬ (c.pc u).Pending

theorem Inv.covered (h : c.Inv) : c.Covered where
  guarded_mem := h.accounted.protected.mem
  pinned_mem := h.accounted.protected.pinned_mem

theorem Local.writer (h : c.Local t pc) (he : pc.Evicts) : c.writer = some t := by
  cases pc <;> simp_all [Local, Pc.Evicts]

theorem Inv.not_evicts (h : c.Inv) (hw : c.writer = none) (u : Fin n) : ¬ (c.pc u).Evicts := by
  intro he
  cases hw.symm.trans ((h.locals u).writer he)

variable {c' : SharedCache n H}

theorem Local.of_not_writer (h : c.Local t pc) (hw : c.writer ≠ some t)
    (hmem : ∀ k, pc.PendingOn k → k ∈ c.handles.cache → k ∈ c'.handles.cache) : c'.Local t pc := by
  cases pc <;> simp_all [Local, Pc.PendingOn]

theorem Local.of_cache_eq (h : c.Local t pc) (hw : c'.writer = c.writer)
    (hcache : c'.handles.cache = c.handles.cache)
    (hzero : pc.Evicts → ∀ k, c.handles.activeCount k = 0 → c'.handles.activeCount k = 0) :
    c'.Local t pc := by
  cases pc <;> simp_all [Local, Pc.Evicts]

theorem Inv.goto (h : c.Inv) (hpc : c'.pc = c.pc)
    (hacc : c'.toGuardedCache.Accounted) (hown : c'.Local t pc)
    (hothers : ∀ u, u ≠ t → c'.Local u (c.pc u))
    (hpend : pc.Pending → ∀ u, ¬ (c.pc u).Evicts)
    (hevict : pc.Evicts → (c.pc t).Evicts ∨ ∀ u, ¬ (c.pc u).Pending) : (c'.goto t pc).Inv := by
  have hquiet := h.quiet
  have hboth : pc.Evicts → ¬ pc.Pending := by cases pc <;> simp [Pc.Evicts, Pc.Pending]
  refine ⟨hacc, fun u => local_goto.mpr ?_, ?_⟩ <;>
    simp only [SharedCache.goto, hpc, Function.update_apply] <;> grind

theorem Inv.read (h : c.Inv) (hown : c.Local t pc) (hpend : pc.Pending → ∀ u, ¬ (c.pc u).Evicts)
    (hevict : pc.Evicts → (c.pc t).Evicts ∨ ∀ u, ¬ (c.pc u).Pending) : (c.goto t pc).Inv :=
  h.goto rfl h.accounted hown (fun u _ => h.locals u) hpend hevict

theorem Inv.leave (h : c.Inv) (hown : c.Local t pc) (hpend : ¬ pc.Pending) (hevict : ¬ pc.Evicts) :
    (c.goto t pc).Inv :=
  h.read hown (fun hp => absurd hp hpend) (fun he => absurd he hevict)

theorem Inv.write {handles : ModelHandleCache H} {writer : Option (Fin n)} (h : c.Inv)
    (hw : ∀ u, u ≠ t → c.writer ≠ some u) (hkeeps : c.handles.Keeps handles)
    (hown : Local { c with handles, writer } t pc)
    (hmem : ∀ u k, u ≠ t → (c.pc u).PendingOn k → k ∈ c.handles.cache → k ∈ handles.cache)
    (hpend : ¬ pc.Pending) (hevict : pc.Evicts → (c.pc t).Evicts ∨ ∀ u, ¬ (c.pc u).Pending) :
    ({ c with handles, writer }.goto t pc).Inv :=
  h.goto rfl (h.accounted.safe hkeeps.safe) hown
    (fun u hu => (h.locals u).of_not_writer (hw u hu) (hmem u · hu)) (fun hp => absurd hp hpend)
    hevict

theorem ne_writer_of_some (hw : c.writer = some t) (u : Fin n) (hu : u ≠ t) :
    c.writer ≠ some u := by
  rw [hw]
  exact fun heq => hu (Option.some.inj heq).symm

section Steps

variable (h : c.Inv) {key : ModelKey} {e : Eviction H} {bytes : UInt64}
include h

theorem inv_useChecked (hpc : c.pc t = .useChecked key) : (c.advance t).Inv := by
  have hmem : key ∈ c.handles.cache :=
    show c.Local t (.useChecked key) from hpc ▸ h.locals t
  have hacc := GuardedCache.accounted_beginUse key h.accounted
  simp only [GuardedCache.perform, markActive, if_pos hmem] at hacc
  have hnone : ∀ u, ¬ (c.pc u).Evicts := fun u he => h.quiet u t he (by rw [hpc]; trivial)
  simp only [advance, hpc]
  refine h.goto rfl hacc trivial (fun u _ => ?_) (fun _ => hnone) (fun he => he.elim)
  exact (h.locals u).of_cache_eq rfl rfl fun he => absurd he (hnone u)

theorem inv_pinChecked {now : Instant} (hpc : c.pc t = .pinChecked key now) :
    (c.advance t).Inv := by
  have hmem : key ∈ c.handles.cache :=
    show c.Local t (.pinChecked key now) from hpc ▸ h.locals t
  have hpin := c.handles.repins_pin key now
  rw [ModelHandleCache.pin, if_pos hmem] at hpin
  simp only [advance, hpc]
  refine h.goto rfl (h.accounted.safe hpin.safe) trivial (fun u _ => ?_) (fun hp => hp.elim)
    (fun he => he.elim)
  exact (h.locals u).of_cache_eq rfl hpin.cache fun _ k hk => (hpin.activeCount k).trans hk

theorem inv_unloadIdle (hpc : c.pc t = .unloadIdle key)
    (hpend : ∀ u, ¬ (c.pc u).PendingOn key) (hpinned : c.handles.isPinned key = false)
    (hactive : c.handles.isActive key = false) : (c.advance t).Inv := by
  have hheld : ¬ c.handles.Held key := not_held_iff.mpr (by simp [hpinned, hactive])
  simp only [advance, hpc]
  split
  · rename_i hw
    split
    · exact h.leave trivial id id
    · refine h.write (fun u _ => by simp [hw]) (keeps_takeOut hheld) ⟨rfl, ?_⟩ ?_ id
        (fun he => he.elim)
      · exact fun hmem => (AList.mem_erase.mp hmem).1 rfl
      · intro u k _ hp hmem
        have hne : k ≠ key := fun heq => hpend u (heq ▸ hp)
        exact AList.mem_erase.mpr ⟨hne, hmem⟩
  · exact h

theorem keeps_settle_of_notMem (hmiss : key ∉ c.handles.cache) :
    c.handles.Keeps (c.handles.settleRemoval key bytes) :=
  keeps_settleRemoval fun hheld => hmiss (h.accounted.resident key hheld)

theorem inv_unloadRemoved (hpc : c.pc t = .unloadRemoved key bytes) : (c.advance t).Inv := by
  obtain ⟨hw, hmiss⟩ : c.Local t (.unloadRemoved key bytes) := hpc ▸ h.locals t
  simp only [advance, hpc]
  exact h.write (ne_writer_of_some hw) (keeps_settle_of_notMem h hmiss) trivial
    (fun _ _ _ _ hmem => hmem) id (fun he => he.elim)

theorem inv_load {request : LoadRequest H} (hpc : c.pc t = .load request) : (c.advance t).Inv := by
  simp only [advance, hpc]
  split
  · rename_i hw
    split
    · exact h.write (fun u _ => by simp [hw]) ((Keeps.refl _).withStats _) trivial
        (fun _ _ _ _ hmem => hmem) id (fun he => he.elim)
    · exact h.leave trivial id id
    · exact h.leave trivial id id
  · exact h

theorem inv_loaded {i : Insertion H} (hpc : c.pc t = .loaded i)
    (hsettled : c.handles.memoryUsage + i.memoryBytes ≤ c.handles.maxMemoryBytes ∨
      ∀ u, ¬ (c.pc u).Pending) : (c.advance t).Inv := by
  simp only [advance, hpc]
  split
  · rename_i hw
    split
    · exact h.leave trivial id id
    · split
      · exact h.write (fun u _ => by simp [hw]) keeps_insertEntry trivial
          (fun _ _ _ _ hmem => (AList.mem_insert _).mpr (.inr hmem)) id (fun he => he.elim)
      · rename_i hover
        refine h.write (fun u _ => by simp [hw]) (.refl _) rfl (fun _ _ _ _ hmem => hmem)
          id (fun _ => .inr ?_)
        exact hsettled.resolve_left hover
  · exact h

theorem inv_finishEviction (hw : c.writer = some t) : (c.finishEviction t e).Inv := by
  have hskips := c.handles.keeps_recordSkips e.short
  have hcache : (c.handles.recordSkips e.short).cache = c.handles.cache := by
    unfold recordSkips
    dsimp only
    split <;> split <;> rfl
  unfold finishEviction
  dsimp only
  split
  · exact h.write (ne_writer_of_some hw) hskips trivial (fun _ _ _ _ hmem => hcache ▸ hmem) id
      (fun he => he.elim)
  · exact h.write (ne_writer_of_some hw) (hskips.trans keeps_insertEntry) trivial
      (fun _ _ _ _ hmem => (AList.mem_insert _).mpr (.inr (hcache ▸ hmem))) id (fun he => he.elim)

theorem inv_evicting (hpc : c.pc t = .evicting e) : (c.advance t).Inv := by
  have hw : c.writer = some t := (h.locals t).writer (by rw [hpc]; trivial)
  have hevicts : (c.pc t).Evicts := by rw [hpc]; trivial
  simp only [advance, hpc]
  split
  · exact inv_finishEviction h hw
  · split
    · exact inv_finishEviction h hw
    · refine h.read ⟨hw, fun hidle => ?_⟩ (fun hp => hp.elim) (fun _ => .inl hevicts)
      simpa [isActive] using hidle

theorem inv_evictRead {isActive : Bool}
    (hpc : c.pc t = .evictRead e key bytes isActive) : (c.advance t).Inv := by
  have hevicts : (c.pc t).Evicts := by rw [hpc]; trivial
  obtain ⟨hw, hzero⟩ : c.Local t (.evictRead e key bytes isActive) := hpc ▸ h.locals t
  simp only [advance, hpc]
  split
  · exact h.read hw (fun hp => hp.elim) (fun _ => .inl hevicts)
  · rename_i hidle
    obtain ⟨hactive, hpinned⟩ : isActive = false ∧ c.handles.isPinned key = false := by
      simpa using hidle
    have hheld : ¬ c.handles.Held key := by
      rintro (hact | hpin)
      · exact hact (hzero hactive)
      · simp [ModelHandleCache.isPinned, hpin] at hpinned
    refine h.write (ne_writer_of_some hw) (keeps_takeOut hheld) ⟨hw, ?_⟩ ?_ id
      (fun _ => .inl hevicts)
    · exact fun hmem => (AList.mem_erase.mp hmem).1 rfl
    · exact fun u k _ hp => absurd hp.pending (h.quiet t u hevicts)

theorem inv_evictRemoved (hpc : c.pc t = .evictRemoved e key bytes) : (c.advance t).Inv := by
  have hevicts : (c.pc t).Evicts := by rw [hpc]; trivial
  obtain ⟨hw, hmiss⟩ : c.Local t (.evictRemoved e key bytes) := hpc ▸ h.locals t
  simp only [advance, hpc]
  exact h.write (ne_writer_of_some hw) (keeps_settle_of_notMem h hmiss) hw
    (fun _ _ _ _ hmem => hmem) id (fun _ => .inl hevicts)

theorem inv_advance (hs : c.SettledAt (c.pc t)) : (c.advance t).Inv := by
  cases hpc : c.pc t with
  | idle => simpa only [advance, hpc] using h
  | beginUse key | pin key now =>
    simp only [advance, hpc]
    split
    · rename_i hw
      split
      · exact h.read ‹_› (fun _ => h.not_evicts hw) (fun he => he.elim)
      · exact h.leave trivial id id
    · exact h
  | useChecked key => exact inv_useChecked h hpc
  | pinChecked key now => exact inv_pinChecked h hpc
  | unload key | unloadUnpinned key =>
    simp only [advance, hpc]
    split <;> exact h.leave trivial id id
  | unloadIdle key =>
    rw [hpc] at hs
    exact inv_unloadIdle h hpc hs.1 hs.2.1 hs.2.2
  | unloadRemoved key bytes => exact inv_unloadRemoved h hpc
  | load request => exact inv_load h hpc
  | loaded i =>
    rw [hpc] at hs
    exact inv_loaded h hpc hs
  | listing i =>
    have hevicts : (c.pc t).Evicts := by rw [hpc]; trivial
    simp only [advance, hpc]
    exact h.read ((h.locals t).writer hevicts) (fun hp => hp.elim) (fun _ => .inl hevicts)
  | evicting e => exact inv_evicting h hpc
  | evictRead e key bytes isActive => exact inv_evictRead h hpc
  | evictRemoved e key bytes => exact inv_evictRemoved h hpc

end Steps

theorem Inv.release {g : GuardedCache H} (h : c.Inv) (hacc : g.Accounted)
    (hcache : g.handles.cache = c.handles.cache)
    (hzero : ∀ k, c.handles.activeCount k = 0 → g.handles.activeCount k = 0) :
    Inv { c with toGuardedCache := g } where
  accounted := hacc
  locals u := (h.locals u).of_cache_eq rfl hcache fun _ => hzero
  quiet := h.quiet

theorem inv_step {a : LockAction n H} (h : c.Inv) (hs : c.Settled a) : (c.step a).Inv := by
  cases a with
  | call t call =>
    simp only [step]
    split
    · cases call <;> exact h.leave trivial id id
    · exact h
  | advance t => exact inv_advance h hs
  | dropGuard key =>
    refine h.release (GuardedCache.accounted_dropGuard key h.accounted) ?_ ?_
    · simp only [GuardedCache.perform]
      split
      · exact (c.handles.cache_markInactive key).1
      · rfl
    · simp only [GuardedCache.perform]
      grind [activeCount_markInactive]
  | unpin key =>
    have hunpin := c.handles.repins_unpin key
    exact h.release (h.accounted.safe hunpin.safe) hunpin.cache
      fun k hk => (hunpin.activeCount k).trans hk

end Invariant

def new (n : Nat) (maxMemoryBytes : UInt64) (maxPinnedEntries : Nat) : SharedCache n H where
  toGuardedCache := .new maxMemoryBytes maxPinnedEntries .shadow
  writer := none
  pc _ := .idle

/-- Guards and pins cover their models in every interleaving in which no removal falls between the
check and the registration of a use or a pin. -/
theorem covered_of_settled (maxMemoryBytes : UInt64) (maxPinnedEntries : Nat)
    (actions : List (LockAction n H))
    (hs : Guarded step Settled (new n maxMemoryBytes maxPinnedEntries) actions) :
    Always step Covered (new n maxMemoryBytes maxPinnedEntries) actions := by
  refine always_of_guarded (fun _ _ h hop => inv_step h hop) (fun _ h => h.covered) ?_ hs
  exact ⟨GuardedCache.accounted_new maxMemoryBytes maxPinnedEntries .shadow, fun _ => trivial,
    fun _ _ he => he.elim⟩

section Runs

instance (c : SharedCache n H) : DecidablePred c.SettledAt
  | .loaded i => inferInstanceAs (Decidable
      (c.handles.memoryUsage + i.memoryBytes ≤ c.handles.maxMemoryBytes ∨ ∀ u, ¬ (c.pc u).Pending))
  | .unloadIdle key => inferInstanceAs (Decidable
      ((∀ u, ¬ (c.pc u).PendingOn key) ∧ c.handles.isPinned key = false ∧
        c.handles.isActive key = false))
  | .idle | .beginUse _ | .useChecked _ | .pin .. | .pinChecked .. | .unload _ | .unloadUnpinned _
  | .unloadRemoved .. | .load _ | .listing _ | .evicting _ | .evictRead .. | .evictRemoved .. =>
    .isTrue trivial

instance (c : SharedCache n H) : DecidablePred c.Settled
  | .advance t => inferInstanceAs (Decidable (c.SettledAt (c.pc t)))
  | .call .. | .dropGuard _ | .unpin _ => .isTrue trivial

open GuardedCache (metalKey)

def loadOf (m : Nat) : Call Unit := .load ⟨metalKey m, 0, .ok ((), 6)⟩

/-- The second thread has registered its use before the first one evicts, unloads meet the pins
and the guards, and the evicting load goes through once the model is free. -/
def settledActions : List (LockAction 2 Unit) :=
  [.call p₀ (loadOf 1), .advance p₀, .advance p₀, .call p₁ (.beginUse (metalKey 1)), .advance p₁,
    .call p₀ (loadOf 2), .advance p₀, .advance p₁, .advance p₀, .advance p₀, .advance p₀,
    .call p₁ (.pin (metalKey 1) 0), .advance p₁, .advance p₁, .call p₀ (.unload (metalKey 1)),
    .advance p₀, .dropGuard (metalKey 1), .unpin (metalKey 1), .call p₀ (loadOf 2), .advance p₀,
    .advance p₀, .advance p₀, .advance p₀, .advance p₀, .advance p₀, .advance p₀]

theorem settledActions_covered : Always step Covered (new 2 10 1) settledActions :=
  covered_of_settled 10 1 settledActions (by decide)

/-- The second thread sees the model, the first one evicts it, and the second one registers. -/
def evictedActions : List (LockAction 2 Unit) :=
  [.call p₀ (loadOf 1), .advance p₀, .advance p₀, .call p₁ (.beginUse (metalKey 1)), .advance p₁,
    .call p₀ (loadOf 2), .advance p₀, .advance p₀, .advance p₀, .advance p₀, .advance p₀,
    .advance p₀, .advance p₀, .advance p₁]

theorem evictedActions_uncovered : let c := run step (new 2 10 1) evictedActions
    metalKey 1 ∈ c.guards ∧ metalKey 1 ∉ c.handles.cache ∧
      ¬ Always step Covered (new 2 10 1) evictedActions := by
  have hguard : metalKey 1 ∈ (run step (new 2 10 1) evictedActions).guards := by decide
  have hmiss : metalKey 1 ∉ (run step (new 2 10 1) evictedActions).handles.cache := by
    decide
  refine ⟨hguard, hmiss, ?_⟩
  intro halways
  exact hmiss ((halways.initial (List.prefix_refl _)).guarded_mem _ hguard)

end Runs

end SharedCache

end AdapterOS.Worker
