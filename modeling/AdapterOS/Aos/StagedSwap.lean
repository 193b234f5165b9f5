import AdapterOS.Aos.Cache
import AdapterOS.Library.HashMap

/-! Staged adapters and the swap that makes them active, with the snapshot it can be taken back
to. -/
namespace AdapterOS.Aos

open Library

abbrev SlotMap := HashMap String LoadedAdapter

structure HotSwapManager where
  active : SlotMap
  staged : SlotMap
  rollbackState : Option SlotMap

namespace HotSwapManager

variable {m m' : HotSwapManager} {slot k : String} {slots : List String}

def new : HotSwapManager := ⟨∅, ∅, none⟩

/-- What the loader makes of the file is given. -/
def preload (m : HotSwapManager) (slot : String) (loaded : Except AosError LoadedAdapter) :
    Except AosError Unit × HotSwapManager :=
  match loaded with
  | .error e => (.error e, m)
  | .ok adapter => (.ok (), { m with staged := m.staged.insert slot adapter })

def rollbackInternal (m : HotSwapManager) : Except AosError Unit × HotSwapManager :=
  match m.rollbackState with
  | some saved => (.ok (), { m with active := saved })
  | none => (.error (.worker "No rollback state available"), m)

def rollback (m : HotSwapManager) : Except AosError Unit × HotSwapManager := m.rollbackInternal

def stagedNotFound (slot : String) : AosError :=
  .worker ("Staged adapter not found for slot: " ++ slot)

def moveSlot (m : HotSwapManager) (slot : String) (adapter : LoadedAdapter) : HotSwapManager :=
  { m with staged := m.staged.erase slot, active := m.active.insert slot adapter }

/-- The loop of a swap. What has left the staged map before a slot is missing is not put back. -/
def takeStaged (m : HotSwapManager) : List String → Except AosError Unit × HotSwapManager
  | [] => (.ok (), m)
  | slot :: slots =>
    match m.staged.get? slot with
    | some adapter => (m.moveSlot slot adapter).takeStaged slots
    | none =>
      match m.rollbackInternal with
      | (.error e, m) => (.error e, m)
      | (.ok (), m) => (.error (stagedNotFound slot), m)

def swap (m : HotSwapManager) (slots : List String) : Except AosError Unit × HotSwapManager :=
  { m with rollbackState := some m.active }.takeStaged slots

def validateMoe (staged : SlotMap) : List String → Except AosError Unit
  | [] => .ok ()
  | slot :: slots =>
    match staged.get? slot with
    | some adapter =>
      if adapter.isMoeAdapter then validateMoe staged slots
      else .error (.validation ("Adapter in slot '" ++ slot ++ "' is not an MoE adapter"))
    | none => .error (stagedNotFound slot)

def swapMoe (m : HotSwapManager) (slots : List String) : Except AosError Unit × HotSwapManager :=
  match validateMoe m.staged slots with
  | .error e => (.error e, m)
  | .ok () => m.swap slots

section Atomicity

def SameSlots (a b : SlotMap) : Prop := ∀ k, a.get? k = b.get? k

/-- The later state cannot be told from the earlier one, by a rollback either. -/
structure Untouched (m m' : HotSwapManager) : Prop where
  active : SameSlots m'.active m.active
  staged : SameSlots m'.staged m.staged
  result : m'.rollback.1 = m.rollback.1
  rolledBack : SameSlots m'.rollback.2.active m.rollback.2.active

/-- The listed slots, all of them staged, are active now, and a rollback brings the earlier active
map back. -/
structure Moved (m m' : HotSwapManager) (slots : List String) : Prop where
  listed : ∀ k ∈ slots, k ∈ m.staged
  active : ∀ k, m'.active.get? k = if k ∈ slots then m.staged.get? k else m.active.get? k
  staged : ∀ k, m'.staged.get? k = if k ∈ slots then none else m.staged.get? k
  result : m'.rollback.1 = .ok ()
  rolledBack : SameSlots m'.rollback.2.active m.active

def Atomic (m : HotSwapManager) (slots : List String) :
    Except AosError Unit × HotSwapManager → Prop
  | (.ok (), m') => Moved m m' slots
  | (.error _, m') => Untouched m m'

def AllStaged (m : HotSwapManager) (slots : List String) : Prop :=
  slots.Nodup ∧ ∀ slot ∈ slots, slot ∈ m.staged

def Saved (m : HotSwapManager) : Prop :=
  ∃ saved, m.rollbackState = some saved ∧ SameSlots saved m.active

theorem rollback_of_saved {saved : SlotMap} (h : m.rollbackState = some saved) :
    m.rollback = (.ok (), { m with active := saved }) := by
  simp only [rollback, rollbackInternal, h]

theorem allStaged_cons_iff {adapter : LoadedAdapter} (h : m.staged.get? slot = some adapter) :
    m.AllStaged (slot :: slots) ↔ (m.moveSlot slot adapter).AllStaged slots := by
  constructor
  · rintro ⟨hnodup, hall⟩
    obtain ⟨hslot, hnodup⟩ := List.nodup_cons.mp hnodup
    refine ⟨hnodup, ?_⟩
    intro k hk
    exact AList.mem_erase.mpr ⟨ne_of_mem_of_not_mem hk hslot, hall k (List.mem_cons_of_mem _ hk)⟩
  · rintro ⟨hnodup, hall⟩
    have hkept : ∀ k ∈ slots, k ≠ slot ∧ k ∈ m.staged :=
      fun k hk => AList.mem_erase.mp (hall k hk)
    refine ⟨List.nodup_cons.mpr ⟨fun hk => (hkept slot hk).1 rfl, hnodup⟩, ?_⟩
    grind

theorem takeStaged_of_allStaged (h : m.AllStaged slots) :
    ∃ m', m.takeStaged slots = (.ok (), m') ∧ m'.rollbackState = m.rollbackState ∧
      (∀ k, m'.active.get? k = if k ∈ slots then m.staged.get? k else m.active.get? k) ∧
      ∀ k, m'.staged.get? k = if k ∈ slots then none else m.staged.get? k := by
  induction slots generalizing m with
  | nil => exact ⟨m, rfl, rfl, by simp, by simp⟩
  | cons slot slots ih =>
    have hslot := (List.nodup_cons.mp h.1).1
    obtain ⟨adapter, hadapter⟩ := AList.mem_iff_get?.mp (h.2 slot List.mem_cons_self)
    grind [allStaged_cons_iff, takeStaged, moveSlot]

theorem takeStaged_of_missing {saved : SlotMap} (hsaved : m.rollbackState = some saved)
    (h : ¬ m.AllStaged slots) :
    ∃ e m', m.takeStaged slots = (.error e, m') ∧ m'.active = saved ∧
      m'.rollbackState = some saved ∧ ∀ k, k ∈ m'.staged → k ∈ m.staged := by
  induction slots generalizing m with
  | nil => exact absurd ⟨List.nodup_nil, by simp⟩ h
  | cons slot slots ih =>
    cases hadapter : m.staged.get? slot with
    | none =>
      refine ⟨stagedNotFound slot, { m with active := saved }, ?_, rfl, hsaved, fun _ => id⟩
      simp only [takeStaged, hadapter, rollbackInternal, hsaved]
    | some adapter =>
      obtain ⟨e, m', hrun, hactive, hstate, hstaged⟩ :=
        ih (m := m.moveSlot slot adapter) hsaved (mt (allStaged_cons_iff hadapter).mpr h)
      refine ⟨e, m', ?_, hactive, hstate, fun k hk => (AList.mem_erase.mp (hstaged k hk)).2⟩
      simp only [takeStaged, hadapter]
      exact hrun

theorem swap_of_allStaged (h : m.AllStaged slots) :
    ∃ m', m.swap slots = (.ok (), m') ∧ Moved m m' slots := by
  have hall : AllStaged { m with rollbackState := some m.active } slots := h
  obtain ⟨m', hrun, hsaved, hactive, hstaged⟩ := takeStaged_of_allStaged hall
  have hrollback := rollback_of_saved hsaved
  refine ⟨m', hrun, h.2, hactive, hstaged, ?_, ?_⟩
  · rw [hrollback]
  · rw [hrollback]
    exact fun _ => rfl

def FirstUnstaged (m : HotSwapManager) (slots : List String) : Prop :=
  ∃ slot, slots.head? = some slot ∧ slot ∉ m.staged

theorem swap_of_missing (h : ¬ m.AllStaged slots) :
    ∃ e m', m.swap slots = (.error e, m') ∧ m'.active = m.active ∧
      m'.rollbackState = some m.active ∧
      (SameSlots m'.staged m.staged ↔ m.FirstUnstaged slots) := by
  cases slots with
  | nil => exact absurd ⟨List.nodup_nil, by simp⟩ h
  | cons slot slots =>
    cases hadapter : m.staged.get? slot with
    | none =>
      refine ⟨stagedNotFound slot, { m with rollbackState := some m.active }, ?_, rfl, rfl, ?_⟩
      · simp only [swap, takeStaged, hadapter, rollbackInternal]
      · have hmissing : slot ∉ m.staged := AList.get?_eq_none.mp hadapter
        exact ⟨fun _ => ⟨slot, rfl, hmissing⟩, fun _ _ => rfl⟩
    | some adapter =>
      have hrest : ¬ (moveSlot { m with rollbackState := some m.active } slot adapter).AllStaged
          slots := mt (allStaged_cons_iff (m := { m with rollbackState := some m.active })
            hadapter).mpr h
      obtain ⟨e, m', hrun, hactive, hstate, hstaged⟩ := takeStaged_of_missing rfl hrest
      refine ⟨e, m', ?_, hactive, hstate, ?_⟩
      · simp only [swap, takeStaged, hadapter]
        exact hrun
      · constructor
        · intro hsame
          have hslot : slot ∈ m'.staged := AList.mem_of_get? ((hsame slot).trans hadapter)
          exact absurd rfl (AList.mem_erase.mp (hstaged slot hslot)).1
        · rintro ⟨_, hhead, hmissing⟩
          cases hhead
          exact absurd (AList.mem_of_get? hadapter) hmissing

theorem atomic_swap_iff (m : HotSwapManager) (slots : List String) :
    Atomic m slots (m.swap slots) ↔ m.AllStaged slots ∨ m.FirstUnstaged slots ∧ m.Saved := by
  by_cases hall : m.AllStaged slots
  · obtain ⟨m', hrun, hmoved⟩ := swap_of_allStaged hall
    rw [hrun]
    exact ⟨fun _ => .inl hall, fun _ => hmoved⟩
  · obtain ⟨e, m', hrun, hactive, hstate, hstaged⟩ := swap_of_missing hall
    have hrollback := rollback_of_saved hstate
    rw [hrun, or_iff_right hall]
    constructor
    · intro h
      refine ⟨hstaged.mp h.staged, ?_⟩
      have hresult := h.result
      have hrolled := h.rolledBack
      rw [hrollback] at hresult hrolled
      cases hsaved : m.rollbackState with
      | none => simp [rollback, rollbackInternal, hsaved] at hresult
      | some saved =>
        rw [rollback_of_saved hsaved] at hrolled
        exact ⟨saved, hsaved, fun k => (hrolled k).symm⟩
    · rintro ⟨hfirst, saved, hsaved, hsame⟩
      refine ⟨fun k => by rw [hactive], hstaged.mpr hfirst, ?_, ?_⟩
      · rw [hrollback, rollback_of_saved hsaved]
      · rw [hrollback, rollback_of_saved hsaved]
        exact fun k => (hsame k).symm

theorem validateMoe_ok_iff (staged : SlotMap) (slots : List String) :
    validateMoe staged slots = .ok () ↔
      ∀ slot ∈ slots, ∃ adapter, staged.get? slot = some adapter ∧ adapter.isMoeAdapter = true := by
  induction slots with
  | nil => simp [validateMoe]
  | cons slot slots ih =>
    cases hadapter : staged.get? slot with
    | none => simp [validateMoe, hadapter]
    | some adapter =>
      by_cases hmoe : adapter.isMoeAdapter
      · simp [validateMoe, hadapter, hmoe, ih]
      · simp [validateMoe, hadapter, hmoe]

theorem Untouched.refl (m : HotSwapManager) : Untouched m m :=
  ⟨fun _ => rfl, fun _ => rfl, rfl, fun _ => rfl⟩

def RefusedMoe (m : HotSwapManager) (slots : List String) : Prop :=
  ∃ slot ∈ slots, ∀ adapter, m.staged.get? slot = some adapter → adapter.isMoeAdapter = false

theorem atomic_swapMoe_iff (m : HotSwapManager) (slots : List String) :
    Atomic m slots (m.swapMoe slots) ↔ slots.Nodup ∨ m.RefusedMoe slots := by
  have hrefused : m.RefusedMoe slots ↔ validateMoe m.staged slots ≠ .ok () := by
    rw [Ne, validateMoe_ok_iff]
    simp [RefusedMoe]
  cases hvalid : validateMoe m.staged slots with
  | error e =>
    have hsome : m.RefusedMoe slots := hrefused.mpr (by simp [hvalid])
    simp only [swapMoe, hvalid]
    exact ⟨fun _ => .inr hsome, fun _ => Untouched.refl m⟩
  | ok =>
    have hnone : ¬ m.RefusedMoe slots := fun h => hrefused.mp h hvalid
    have hstaged : ∀ slot ∈ slots, slot ∈ m.staged := by
      grind [validateMoe_ok_iff]
    have hfirst : ¬ m.FirstUnstaged slots := by
      rintro ⟨slot, hhead, hmissing⟩
      exact hmissing (hstaged slot (List.mem_of_mem_head? hhead))
    simp only [swapMoe, hvalid, atomic_swap_iff, AllStaged]
    tauto

/-- Which swaps are atomic: those of distinct staged slots, and those that stop at the first slot
while the snapshot is of the active map as it is; a checked swap also when the check refuses it,
but not when it repeats a slot. -/
theorem swap_atomic_iff (m : HotSwapManager) (slots : List String) :
    (Atomic m slots (m.swap slots) ↔ m.AllStaged slots ∨ m.FirstUnstaged slots ∧ m.Saved) ∧
      (Atomic m slots (m.swapMoe slots) ↔ slots.Nodup ∨ m.RefusedMoe slots) :=
  ⟨atomic_swap_iff m slots, atomic_swapMoe_iff m slots⟩

def oneStaged : HotSwapManager := (new.preload "a" (.ok ⟨10, true⟩)).2

/-- The swap of a staged slot and of one that is not fails, and the staged adapter is gone; so it
is after a checked swap that names the slot twice. -/
theorem swap_loses_staged : ¬ Atomic oneStaged ["a", "b"] (oneStaged.swap ["a", "b"]) ∧
      ¬ Atomic oneStaged ["a", "a"] (oneStaged.swapMoe ["a", "a"]) ∧
      (oneStaged.swap ["a", "b"]).1 = .error (stagedNotFound "b") ∧
      oneStaged.staged.get? "a" = some ⟨10, true⟩ ∧
      (oneStaged.swap ["a", "b"]).2.staged.get? "a" = none ∧
      oneStaged.rollback.1 = .error (.worker "No rollback state available") ∧
      (oneStaged.swap ["a", "b"]).2.rollback.1 = .ok () ∧
      (oneStaged.swapMoe ["a", "a"]).1 = .error (stagedNotFound "a") ∧
      (oneStaged.swapMoe ["a", "a"]).2.staged.get? "a" = none := by
  refine ⟨fun h => ?_, fun h => ?_, by decide⟩
  · exact absurd (Untouched.staged h "a") (by decide)
  · exact absurd (Untouched.staged h "a") (by decide)

end Atomicity

end HotSwapManager

end AdapterOS.Aos
