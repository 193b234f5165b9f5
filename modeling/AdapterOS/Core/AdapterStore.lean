import AdapterOS.Core.Basic
import AdapterOS.Library.HashMap
import AdapterOS.Library.Counter

/-! The RCU-style adapter index: snapshots of ref-counted entries, one per generation. -/
namespace AdapterOS

open Library

structure AdapterCacheKey where
  adapterId : AdapterId
  adapterHash : B3Hash
  baseManifestHash : Option B3Hash
  backendType : String
  kernelVersionId : String
  tenantId : Option String
  adapterDirHash : Option B3Hash
  galaxyId : Option String
  deriving DecidableEq, Repr

def AdapterCacheKey.new (adapterId : AdapterId) (adapterHash : B3Hash)
    (baseManifestHash : Option B3Hash) (backendType kernelVersionId : String)
    (tenantId : Option String) (adapterDirHash : Option B3Hash) : AdapterCacheKey :=
  ⟨adapterId, adapterHash, baseManifestHash, backendType, kernelVersionId, tenantId,
    adapterDirHash, none⟩

def AdapterCacheKey.withGalaxy (key : AdapterCacheKey) (galaxyId : Option String) :
    AdapterCacheKey :=
  { key with galaxyId := galaxyId }

/-- The counter is shared: the table and every snapshot of the adapter may hold it. -/
structure AdapterRecord where
  hash : B3Hash
  refcount : Cell
  deriving DecidableEq, Repr

structure AdapterSnapshot where
  generation : Nat
  entries : HashMap AdapterCacheKey AdapterRecord

/-- The references one request holds until it drops them. -/
structure AdapterPins where
  snapshot : AdapterSnapshot
  pinned : List (AdapterCacheKey × Cell)

def AdapterPins.generation (p : AdapterPins) : Nat := p.snapshot.generation

def AdapterPins.ids (p : AdapterPins) : List AdapterId := p.pinned.map (·.1.adapterId)

/-- Dropping decrements counter by counter and stops where the underflow assertion fires. -/
def AdapterPins.dropFrom : Heap → List (AdapterCacheKey × Cell) → Bool × Heap
  | h, [] => (true, h)
  | h, (_, rc) :: rest =>
    if h.load rc ≥ 1 then dropFrom (h.fetchSub rc) rest else (false, h.fetchSub rc)

def AdapterPins.drop (p : AdapterPins) (h : Heap) : Bool × Heap := dropFrom h p.pinned

theorem AdapterPins.load_dropFrom {es : List (AdapterCacheKey × Cell)} {heap : Heap}
    (hcovers : ∀ c, (es.map Prod.snd).count c ≤ heap.load c)
    (hfits : ∀ c ∈ es.map Prod.snd, heap.load c < 2 ^ 64) :
    (dropFrom heap es).1 = true ∧ (dropFrom heap es).2.next = heap.next ∧
      ∀ c, (dropFrom heap es).2.load c = heap.load c - (es.map Prod.snd).count c := by
  induction es generalizing heap with
  | nil => simp [dropFrom]
  | cons e es ih =>
    obtain ⟨key, rc⟩ := e
    simp only [List.map_cons, List.count_cons, beq_iff_eq] at hcovers ⊢
    have hpos : 1 ≤ heap.load rc := by
      have hc := hcovers rc
      rw [if_pos rfl] at hc
      omega
    have hload : ∀ d, (heap.fetchSub rc).load d = heap.load d - if rc = d then 1 else 0 := by
      grind [Heap.load_fetchSub, wrapSub64_of_le]
    have hstep : dropFrom heap ((key, rc) :: es) = dropFrom (heap.fetchSub rc) es := if_pos hpos
    rw [hstep]
    have hcovers' : ∀ d, (es.map Prod.snd).count d ≤ (heap.fetchSub rc).load d := by
      intro d
      have hd := hcovers d
      rw [hload]
      omega
    have hfits' : ∀ d ∈ es.map Prod.snd, (heap.fetchSub rc).load d < 2 ^ 64 := by
      intro d hd
      have hfit := hfits d (List.mem_cons_of_mem _ hd)
      rw [hload]
      omega
    obtain ⟨hok, hnext, hrest⟩ := ih hcovers' hfits'
    refine ⟨hok, hnext, ?_⟩
    intro c
    rw [hrest, hload]
    omega

def maxRetiredSnapshots : Nat := 50

def AdapterSnapshot.inUse (snapshot : AdapterSnapshot) (h : Heap) : Bool :=
  snapshot.entries.items.any fun e => h.load e.2.refcount > 0

structure AdapterStore where
  current : AdapterSnapshot
  retired : List AdapterSnapshot

namespace AdapterStore

variable {s : AdapterStore} {generation : Nat} {entries : HashMap AdapterCacheKey AdapterRecord}

def new : AdapterStore := ⟨⟨0, ∅⟩, []⟩

def replace (s : AdapterStore) (generation : Nat)
    (entries : HashMap AdapterCacheKey AdapterRecord) : AdapterStore :=
  { current := ⟨generation, entries⟩
    retired := if s.current.generation ≠ generation then s.retired ++ [s.current] else s.retired }

def install (s : AdapterStore) (generation : Nat)
    (entries : HashMap AdapterCacheKey AdapterRecord) : AdapterStore :=
  if generation ≤ s.current.generation then s else s.replace generation entries

def installForce (s : AdapterStore) (generation : Nat)
    (entries : HashMap AdapterCacheKey AdapterRecord) : AdapterStore :=
  s.replace generation entries

@[simp] theorem installForce_current :
    (s.installForce generation entries).current = ⟨generation, entries⟩ := rfl

theorem install_current_of_lt (entries : HashMap AdapterCacheKey AdapterRecord)
    (h : s.current.generation < generation) :
    (s.install generation entries).current = ⟨generation, entries⟩ := by
  rw [install, if_neg (Nat.not_le.mpr h)]
  rfl

theorem install_of_le (h : generation ≤ s.current.generation) :
    s.install generation entries = s := if_pos h

def retryInstall (s : AdapterStore) (generation : Nat)
    (entries : HashMap AdapterCacheKey AdapterRecord) : Nat → AdapterSnapshot × AdapterStore
  | 0 => (s.current, s)
  | attempts + 1 =>
    let s' := s.install generation entries
    if s'.current.generation = generation then (s'.current, s')
    else retryInstall s' generation entries attempts

def installWithRetry (s : AdapterStore) (generation : Nat)
    (entries : HashMap AdapterCacheKey AdapterRecord) (maxAttempts : Nat) :
    AdapterSnapshot × AdapterStore :=
  s.retryInstall generation entries (max maxAttempts 1)

theorem retryInstall_of_le (h : generation ≤ s.current.generation) (attempts : Nat) :
    (s.retryInstall generation entries attempts).2 = s := by
  induction attempts with
  | zero => rfl
  | succ n ih =>
    simp only [retryInstall, install_of_le h]
    split
    · rfl
    · exact ih

theorem installWithRetry_eq_install (maxAttempts : Nat) :
    (s.installWithRetry generation entries maxAttempts).2 = s.install generation entries := by
  by_cases h : generation ≤ s.current.generation
  · exact (retryInstall_of_le h _).trans (install_of_le h).symm
  · obtain ⟨n, hn⟩ : ∃ n, max maxAttempts 1 = n + 1 := ⟨max maxAttempts 1 - 1, by omega⟩
    grind [install_current_of_lt, installWithRetry, retryInstall]

theorem generation_lt_of_install_ne (h : (s.install generation entries).current ≠ s.current) :
    s.current.generation < (s.install generation entries).current.generation := by
  by_cases hle : generation ≤ s.current.generation
  · rw [install_of_le hle] at h
    exact absurd rfl h
  · rw [install_current_of_lt entries (Nat.not_le.mp hle)]
    exact Nat.not_le.mp hle

def pinEntries : Heap → List (AdapterCacheKey × AdapterRecord) → Heap
  | h, [] => h
  | h, (_, record) :: rest => pinEntries (h.fetchAdd record.refcount) rest

def pinCurrent (s : AdapterStore) (h : Heap) : AdapterPins × Heap :=
  (⟨s.current, s.current.entries.items.map fun e => (e.1, e.2.refcount)⟩,
    pinEntries h s.current.entries.items)

theorem load_pinEntries {es : List (AdapterCacheKey × AdapterRecord)} {heap : Heap}
    (hfits : ∀ c ∈ es.map (·.2.refcount),
      heap.load c + (es.map (·.2.refcount)).count c < 2 ^ 64) (c : Cell) :
    (pinEntries heap es).load c = heap.load c + (es.map (·.2.refcount)).count c := by
  induction es generalizing heap with
  | nil => rfl
  | cons e es ih =>
    obtain ⟨key, record⟩ := e
    simp only [List.map_cons, List.count_cons, beq_iff_eq] at hfits ⊢
    have hload : ∀ d, (heap.fetchAdd record.refcount).load d =
        heap.load d + if record.refcount = d then 1 else 0 := by
      grind [Heap.load_fetchAdd, wrap64_of_lt]
    change (pinEntries (heap.fetchAdd record.refcount) es).load c = _
    grind

theorem next_pinEntries (heap : Heap) (es : List (AdapterCacheKey × AdapterRecord)) :
    (pinEntries heap es).next = heap.next := by
  induction es generalizing heap with
  | nil => rfl
  | cons e es ih => exact ih _

theorem pinCurrent_ids (s : AdapterStore) (h : Heap) :
    (s.pinCurrent h).1.ids = s.current.entries.keys.map (·.adapterId) := by
  simp [pinCurrent, AdapterPins.ids, ← AList.items_keys, Function.comp_def]

def freed (s : AdapterStore) (h : Heap) : List AdapterSnapshot :=
  s.retired.filter fun snapshot => !snapshot.inUse h

def kept (s : AdapterStore) (h : Heap) : List AdapterSnapshot :=
  s.retired.filter (·.inUse h)

def excess (s : AdapterStore) (h : Heap) : Nat := (s.kept h).length - maxRetiredSnapshots

/-- The second pass evicts the oldest of the others above the limit, referenced or not. -/
def forceEvicted (s : AdapterStore) (h : Heap) : List AdapterSnapshot :=
  (s.kept h).take (s.excess h)

def drainRetired (s : AdapterStore) (h : Heap) : List Nat × AdapterStore :=
  ((s.freed h ++ s.forceEvicted h).map (·.generation),
    { s with retired := (s.kept h).drop (s.excess h) })

theorem length_drainRetired (s : AdapterStore) (h : Heap) :
    (s.drainRetired h).2.retired.length ≤ maxRetiredSnapshots := by
  simp only [drainRetired, excess, List.length_drop]
  omega

end AdapterStore

end AdapterOS
