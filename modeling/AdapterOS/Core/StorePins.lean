import AdapterOS.Core.AdapterStore
import Mathlib.Data.List.Perm.Basic

/-! The pins of the adapter index over whole histories of installs, pins, drops and drains. -/
namespace AdapterOS

open Library

/-- The index, the counters its records share, and the pins that requests still hold. -/
structure StoreState where
  store : AdapterStore
  heap : Heap
  live : List AdapterPins

namespace StoreState

def new : StoreState := ⟨.new, .empty, []⟩

def pinnedCount (live : List AdapterPins) (c : Cell) : Nat :=
  (live.map fun p => (p.pinned.map Prod.snd).count c).sum

def heldEntries (live : List AdapterPins) : Nat := (live.map fun p => p.pinned.length).sum

def setStore (s : StoreState) (store : AdapterStore) : StoreState := { s with store := store }

def pin (s : StoreState) : StoreState :=
  ⟨s.store, (s.store.pinCurrent s.heap).2, (s.store.pinCurrent s.heap).1 :: s.live⟩

def drop (s : StoreState) (p : AdapterPins) (i : Nat) : StoreState :=
  ⟨s.store, (p.drop s.heap).2, s.live.eraseIdx i⟩

end StoreState

open StoreState

inductive StoreStep : StoreState → StoreState → Prop
  | install {s : StoreState} (generation : Nat)
      (entries : HashMap AdapterCacheKey AdapterRecord) :
      StoreStep s (s.setStore (s.store.install generation entries))
  | installForce {s : StoreState} (generation : Nat)
      (entries : HashMap AdapterCacheKey AdapterRecord) :
      StoreStep s (s.setStore (s.store.installForce generation entries))
  | installWithRetry {s : StoreState} (generation : Nat)
      (entries : HashMap AdapterCacheKey AdapterRecord) (maxAttempts : Nat) :
      StoreStep s (s.setStore (s.store.installWithRetry generation entries maxAttempts).2)
  -- The entries of a pin are allocated: a process aborts before its address space holds 2^64.
  | pinCurrent {s : StoreState}
      (hroom : heldEntries s.live + s.store.current.entries.items.length < 2 ^ 64) :
      StoreStep s s.pin
  | dropPin {s : StoreState} {p : AdapterPins} {i : Nat} (hp : s.live[i]? = some p) :
      StoreStep s (s.drop p i)
  | drainRetired {s : StoreState} :
      StoreStep s (s.setStore (s.store.drainRetired s.heap).2)

def StoreReachable (s : StoreState) : Prop := Relation.ReflTransGen StoreStep .new s

/-- The counters are the live pins, and there are few enough for a machine word. -/
structure Counted (s : StoreState) : Prop where
  load_eq : ∀ c, s.heap.load c = pinnedCount s.live c
  few : heldEntries s.live < 2 ^ 64

section Counts

variable {live : List AdapterPins} {p : AdapterPins} {i : Nat} {c : Cell}

@[simp] theorem pinnedCount_cons :
    pinnedCount (p :: live) c = (p.pinned.map Prod.snd).count c + pinnedCount live c := rfl

@[simp] theorem heldEntries_cons :
    heldEntries (p :: live) = p.pinned.length + heldEntries live := rfl

theorem pinnedCount_le (live : List AdapterPins) (c : Cell) :
    pinnedCount live c ≤ heldEntries live := by
  induction live with
  | nil => exact Nat.le_refl _
  | cons p live ih =>
    have hp : (p.pinned.map Prod.snd).count c ≤ p.pinned.length := by
      simpa using List.count_le_length (a := c) (l := p.pinned.map Prod.snd)
    simp only [pinnedCount_cons, heldEntries_cons]
    omega

theorem perm_eraseIdx (hp : live[i]? = some p) : (p :: live.eraseIdx i).Perm live := by
  obtain ⟨hlt, rfl⟩ := List.getElem?_eq_some_iff.mp hp
  exact List.getElem_cons_eraseIdx_perm hlt

theorem pinnedCount_eraseIdx (hp : live[i]? = some p) (c : Cell) :
    (p.pinned.map Prod.snd).count c + pinnedCount (live.eraseIdx i) c = pinnedCount live c :=
  ((perm_eraseIdx hp).map fun q : AdapterPins => (q.pinned.map Prod.snd).count c).sum_nat

theorem heldEntries_eraseIdx (hp : live[i]? = some p) :
    p.pinned.length + heldEntries (live.eraseIdx i) = heldEntries live :=
  ((perm_eraseIdx hp).map fun q : AdapterPins => q.pinned.length).sum_nat

theorem unpinned_of_pinnedCount (h : pinnedCount live c = 0) (hp : p ∈ live) :
    c ∉ p.pinned.map Prod.snd := by
  obtain ⟨i, hi⟩ := List.getElem?_of_mem hp
  have hsum := pinnedCount_eraseIdx hi c
  apply List.count_eq_zero.mp
  omega

end Counts

section Steps

variable {s t : StoreState} {p : AdapterPins} {i : Nat}

theorem counted_new : Counted .new := ⟨fun _ => rfl, by decide⟩

theorem counted_pin (h : Counted s)
    (hroom : heldEntries s.live + s.store.current.entries.items.length < 2 ^ 64) :
    Counted s.pin := by
  have hcells : (s.store.pinCurrent s.heap).1.pinned.map Prod.snd =
      s.store.current.entries.items.map (·.2.refcount) := by
    simp [AdapterStore.pinCurrent, Function.comp_def]
  have hfits : ∀ c ∈ s.store.current.entries.items.map (·.2.refcount),
      s.heap.load c + (s.store.current.entries.items.map (·.2.refcount)).count c < 2 ^ 64 := by
    obtain ⟨⟩ := h
    grind [pinnedCount_le, List.length_map]
  constructor
  · intro c
    refine (AdapterStore.load_pinEntries hfits c).trans ?_
    rw [h.load_eq, ← hcells]
    exact Nat.add_comm _ _
  all_goals grind [AdapterStore.pinCurrent, StoreState.pin, heldEntries_cons]

theorem counted_drop (h : Counted s) (hp : s.live[i]? = some p) :
    (p.drop s.heap).1 = true ∧ Counted (s.drop p i) := by
  have hcovers : ∀ c, (p.pinned.map Prod.snd).count c ≤ s.heap.load c := by
    intro c
    rw [h.load_eq, ← pinnedCount_eraseIdx hp]
    exact Nat.le_add_right _ _
  have hfits : ∀ c ∈ p.pinned.map Prod.snd, s.heap.load c < 2 ^ 64 := by
    intro c _
    rw [h.load_eq]
    exact Nat.lt_of_le_of_lt (pinnedCount_le s.live c) h.few
  obtain ⟨hok, _, hload⟩ := AdapterPins.load_dropFrom hcovers hfits
  refine ⟨hok, ?_, ?_⟩
  · intro c
    have hc := pinnedCount_eraseIdx hp c
    refine (hload c).trans ?_
    rw [h.load_eq]
    simp only [StoreState.drop]
    omega
  · have hsum := heldEntries_eraseIdx hp
    have hfew := h.few
    simp only [StoreState.drop]
    omega

theorem counted_step (h : Counted s) (hs : StoreStep s t) : Counted t := by
  cases hs with
  | install generation entries => exact ⟨h.load_eq, h.few⟩
  | installForce generation entries => exact ⟨h.load_eq, h.few⟩
  | installWithRetry generation entries maxAttempts => exact ⟨h.load_eq, h.few⟩
  | pinCurrent hroom => exact counted_pin h hroom
  | dropPin hp => exact (counted_drop h hp).2
  | drainRetired => exact ⟨h.load_eq, h.few⟩

theorem counted_reachable (h : StoreReachable s) : Counted s := by
  induction h with
  | refl => exact counted_new
  | tail _ hs ih => exact counted_step ih hs

theorem freed_unpinned (h : Counted s) {snapshot : AdapterSnapshot}
    (hf : snapshot ∈ s.store.freed s.heap) {key : AdapterCacheKey} {record : AdapterRecord}
    (hr : snapshot.entries.get? key = some record) (hp : p ∈ s.live) :
    record.refcount ∉ p.pinned.map Prod.snd := by
  have hidle : snapshot.inUse s.heap = false := by
    simpa using (List.mem_filter.mp hf).2
  have hload : s.heap.load record.refcount = 0 := by
    have hz := List.any_eq_false.mp hidle (key, record) (AList.mem_items.mpr hr)
    simpa using hz
  apply unpinned_of_pinnedCount _ hp
  rw [← h.load_eq]
  exact hload

end Steps

/-- What an index promises in a state: counters that count, drains that free only unpinned
snapshots up to the retention limit, and installs, retried or not, that move on. -/
structure StoreSound (s : StoreState) : Prop where
  counted : ∀ c, s.heap.load c = pinnedCount s.live c
  no_underflow : ∀ p ∈ s.live, (p.drop s.heap).1 = true
  drained : ∃ freed, (s.store.drainRetired s.heap).1 =
      (freed ++ s.store.forceEvicted s.heap).map (·.generation) ∧
    ∀ snapshot ∈ freed, snapshot ∈ s.store.retired ∧
      ∀ key record, snapshot.entries.get? key = some record →
        ∀ p ∈ s.live, record.refcount ∉ p.pinned.map Prod.snd
  capped : (s.store.drainRetired s.heap).2.retired.length ≤ maxRetiredSnapshots
  monotone : ∀ generation entries,
    (s.store.install generation entries).current ≠ s.store.current →
      s.store.current.generation < (s.store.install generation entries).current.generation
  retried : ∀ generation entries maxAttempts,
    (s.store.installWithRetry generation entries maxAttempts).2 = s.store.install generation entries

theorem storeSound_of_reachable {s : StoreState} (h : StoreReachable s) : StoreSound s := by
  have hc := counted_reachable h
  refine ⟨hc.load_eq, ?_, ?_, AdapterStore.length_drainRetired _ _, ?_,
    fun _ _ => AdapterStore.installWithRetry_eq_install⟩
  · intro p hp
    obtain ⟨i, hi⟩ := List.getElem?_of_mem hp
    exact (counted_drop hc hi).1
  · refine ⟨s.store.freed s.heap, rfl, ?_⟩
    intro snapshot hf
    refine ⟨List.mem_of_mem_filter hf, ?_⟩
    intro key record hr p hp
    exact freed_unpinned hc hf hr hp
  · intro generation entries hne
    exact AdapterStore.generation_lt_of_install_ne hne

def sharedEntries : HashMap AdapterCacheKey AdapterRecord :=
  (AList.insert (.new "a" 1 none "mlx" "k1" none none) ⟨1, 7⟩ ∅).insert
    (.new "b" 1 none "mlx" "k1" none none) ⟨1, 7⟩

def firstInstalled : StoreState := StoreState.new.setStore (AdapterStore.new.install 1 sharedEntries)

def pinnedThenReplaced : StoreState :=
  firstInstalled.pin.setStore (firstInstalled.pin.store.install 2 ∅)

theorem pinnedThenReplaced_sound :
    StoreSound pinnedThenReplaced ∧ pinnedThenReplaced.heap.load 7 = 2 ∧
      (pinnedThenReplaced.store.drainRetired pinnedThenReplaced.heap).1 = [0] := by
  refine ⟨storeSound_of_reachable ?_, by decide, by decide⟩
  have hinstall : StoreStep .new firstInstalled := .install 1 sharedEntries
  have hpin : StoreStep firstInstalled firstInstalled.pin := .pinCurrent (by decide)
  have hreplace : StoreStep firstInstalled.pin pinnedThenReplaced := .install 2 ∅
  exact ((Relation.ReflTransGen.single hinstall).tail hpin).tail hreplace

end AdapterOS
