import AdapterOS.HotSwap.Kernels
import AdapterOS.HotSwap.TableInvariant

/-! Pinning a request: three atomic steps with whole table calls in between. -/
namespace AdapterOS.HotSwap

open Library AdapterTable

structure PinnedRequest where
  pins : AdapterPins
  stack : Stack
  stackHash : B3Hash

/-- The table calls that happen before each step of one attempt; the last ones fall before the
stack hash, or before the pins are dropped again. -/
structure Gaps where
  beforeHandle : List TableOp
  beforePin : List TableOp
  beforeHash : List TableOp

/-- The table as each step of an attempt finds it. -/
structure Attempt where
  handleAt : AdapterTable
  pinAt : AdapterTable
  hashAt : AdapterTable

def attempt (t : AdapterTable) (g : Gaps) : Attempt :=
  let t₁ := run tableStep t g.beforeHandle
  let t₂ := run tableStep t₁ g.beforePin
  let pinned := { t₂ with heap := (t₂.store.pinCurrent t₂.heap).2 }
  ⟨t₁, t₂, run tableStep pinned g.beforeHash⟩

def Attempt.pins (a : Attempt) : AdapterPins := (a.pinAt.store.pinCurrent a.pinAt.heap).1

def Attempt.Agrees (a : Attempt) : Prop :=
  a.pins.generation = a.handleAt.getCurrentStackHandle.generation

instance (a : Attempt) : Decidable a.Agrees :=
  inferInstanceAs (Decidable (a.pins.generation = _))

def Attempt.dropped (a : Attempt) : AdapterTable :=
  { a.hashAt with heap := (a.pins.drop a.hashAt.heap).2 }

def noActiveError : AosError := .worker "No active adapters available to pin"

def stackChangedError : AosError := .worker "Adapter stack changed while pinning request"

/-- One attempt per element of the list; the code makes two. -/
def pinAttempts (hash : ByteArray → B3Hash) (allowEmpty : Bool) :
    AdapterTable → List Gaps → Except AosError PinnedRequest × AdapterTable
  | t, [] => (.error stackChangedError, t)
  | t, g :: gs =>
    let a := attempt t g
    if a.handleAt.active.keys = [] ∧ ¬ allowEmpty then (.error noActiveError, a.handleAt)
    else if a.Agrees then
      (.ok ⟨a.pins, a.handleAt.getCurrentStackHandle, a.hashAt.tableStackHash hash⟩, a.hashAt)
    else pinAttempts hash allowEmpty a.dropped gs

def pinInternal (hash : ByteArray → B3Hash) (allowEmpty : Bool) (t : AdapterTable)
    (first second : Gaps) : Except AosError PinnedRequest × AdapterTable :=
  pinAttempts hash allowEmpty t [first, second]

def pin (hash : ByteArray → B3Hash) (t : AdapterTable) (first second : Gaps) :
    Except AosError PinnedRequest × AdapterTable :=
  pinInternal hash false t first second

def pinAllowEmpty (hash : ByteArray → B3Hash) (t : AdapterTable) (first second : Gaps) :
    Except AosError PinnedRequest × AdapterTable :=
  pinInternal hash true t first second

/-- The counters held are those of the stack's adapters, with the same hashes, and the stack
hash is that of the stack. -/
structure Consistent (hash : ByteArray → B3Hash) (p : PinnedRequest) : Prop where
  ids : ∀ id, id ∈ p.pins.ids ↔ id ∈ p.stack.active
  hashes : ∀ key record, p.pins.snapshot.entries.get? key = some record →
    (p.stack.active.get? key.adapterId).map (·.hash) = some record.hash
  stackHash_eq : p.stackHash = computeStackHash hash (stackPairs p.stack.active)

def SameStack (t t' : AdapterTable) : Prop :=
  ∀ id, (t.active.get? id).map (·.hash) = (t'.active.get? id).map (·.hash)

/-- The first attempt whose generations agree found the same stack at all three steps. -/
def Steady (hash : ByteArray → B3Hash) : AdapterTable → List Gaps → Prop
  | _, [] => True
  | t, g :: gs =>
    if (attempt t g).Agrees then
      SameStack (attempt t g).pinAt (attempt t g).handleAt ∧
        (attempt t g).hashAt.tableStackHash hash = (attempt t g).handleAt.tableStackHash hash
    else Steady hash (attempt t g).dropped gs

variable {t : AdapterTable} {a : Attempt} {hash : ByteArray → B3Hash}

theorem coherent_run (h : Coherent t) (ops : List TableOp) : Coherent (run tableStep t ops) :=
  run_invariant (fun _ op ht => coherent_step op ht) h ops

theorem coherent_heap (h : Coherent t) (heap : Heap) : Coherent { t with heap := heap } :=
  ⟨h.generation, h.index, h.saved⟩

theorem coherent_attempt (h : Coherent t) (g : Gaps) :
    Coherent (attempt t g).pinAt ∧ Coherent (attempt t g).dropped := by
  have h₁ := coherent_run h g.beforeHandle
  have h₂ := coherent_run h₁ g.beforePin
  have h₃ : Coherent (attempt t g).hashAt := coherent_run (coherent_heap h₂ _) g.beforeHash
  exact ⟨h₂, coherent_heap h₃ _⟩

theorem mem_pins_ids (id : AdapterId) : id ∈ a.pins.ids ↔ ∃ key record,
      a.pinAt.store.current.entries.get? key = some record ∧ key.adapterId = id := by
  simp only [Attempt.pins, AdapterStore.pinCurrent_ids, List.mem_map]
  constructor
  · rintro ⟨key, hk, rfl⟩
    obtain ⟨record, hr⟩ := AList.mem_iff_get?.mp (AList.mem_keys.mpr hk)
    exact ⟨key, record, hr, rfl⟩
  · rintro ⟨key, record, hr, rfl⟩
    exact ⟨key, AList.mem_keys.mp (AList.mem_of_get? hr), rfl⟩

/-- The index agrees with the active map at the moment of the pin, so the pins fit the stack
exactly when that map is the one the handle has. -/
theorem pins_fit_iff (h : Coherent a.pinAt) : ((∀ id, id ∈ a.pins.ids ↔ id ∈ a.handleAt.active) ∧
      ∀ key record, a.pins.snapshot.entries.get? key = some record →
        (a.handleAt.active.get? key.adapterId).map (·.hash) = some record.hash) ↔
      SameStack a.pinAt a.handleAt := by
  constructor
  · rintro ⟨hids, hhash⟩ id
    cases hp : a.pinAt.active.get? id with
    | none =>
      have hn : id ∉ a.handleAt.active := by
        intro hid
        obtain ⟨key, record, hr, rfl⟩ := (mem_pins_ids id).mp ((hids id).mpr hid)
        obtain ⟨state, hs, _⟩ := h.index.sound key record hr
        simp [hp] at hs
      simp [AList.get?_eq_none.mpr hn]
    | some state =>
      obtain ⟨key, record, hr, rfl, hh⟩ := h.index.complete id state hp
      rw [hhash key record hr, hh]
      rfl
  · intro hsame
    refine ⟨?_, ?_⟩
    · intro id
      rw [mem_pins_ids]
      constructor
      · rintro ⟨key, record, hr, rfl⟩
        obtain ⟨state, hs, _⟩ := h.index.sound key record hr
        have he := hsame key.adapterId
        grind [Option.map_eq_some_iff]
      · intro hid
        obtain ⟨state, hs⟩ := AList.mem_iff_get?.mp hid
        have he := hsame id
        rw [hs] at he
        obtain ⟨state', hs', _⟩ := Option.map_eq_some_iff.mp he
        obtain ⟨key, record, hr, hk, _⟩ := h.index.complete id state' hs'
        exact ⟨key, record, hr, hk⟩
    · intro key record hr
      obtain ⟨state, hs, hh⟩ := h.index.sound key record hr
      rw [← hsame key.adapterId, hs, hh]
      rfl

theorem pinAttempts_consistent_iff {allowEmpty : Bool} {gs : List Gaps} {p : PinnedRequest}
    (h : Coherent t) (hok : (pinAttempts hash allowEmpty t gs).1 = .ok p) :
    Consistent hash p ↔ Steady hash t gs := by
  induction gs generalizing t with
  | nil => cases hok
  | cons g gs ih =>
    obtain ⟨hpin, hdrop⟩ := coherent_attempt h g
    simp only [pinAttempts] at hok
    split at hok
    · cases hok
    · split at hok
      · rename_i hagree
        cases hok
        simp only [Steady, hagree, if_true]
        rw [← pins_fit_iff hpin]
        constructor
        · intro hc
          exact ⟨⟨hc.ids, hc.hashes⟩, hc.stackHash_eq⟩
        · rintro ⟨⟨hids, hhash⟩, hh⟩
          exact ⟨hids, hhash, hh⟩
      · rename_i hagree
        simp only [Steady, hagree, if_false]
        exact ih hdrop hok

def noGaps : Gaps := ⟨[], [], []⟩

def oneActive : AdapterTable :=
  tableAfter testIdentity [.preload "a" 1 10 0, .swap ["a"] [], .preload "b" 2 10 1]

end AdapterOS.HotSwap
