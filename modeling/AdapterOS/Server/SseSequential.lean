import AdapterOS.Server.SseReplay
import Mathlib.Algebra.Order.Ring.Nat

/-! The replay of a stream whose events are created one after another. -/
namespace AdapterOS.Sse

namespace SseRingBuffer

def hasGap (b : SseRingBuffer) (lastEventId : UInt64) : Bool :=
  lastEventId < b.lowestId && 0 < b.lowestId

end SseRingBuffer

structure ReplayResult where
  events : List SseEvent
  hasGap : Bool
  droppedCount : UInt64
  deriving DecidableEq

def getReplayWithAnalysis (b : SseRingBuffer) (lastEventId : UInt64) : ReplayResult :=
  ⟨b.replayFrom lastEventId, b.hasGap lastEventId, b.droppedCount⟩

/-- The type, the data, the time and the retry delay of an event. -/
abbrev EventContent := String × String × UInt64 × UInt32

def eventOf (id : Nat) (c : EventContent) : SseEvent :=
  ⟨.ofNat id, c.1, c.2.1, c.2.2.1, some c.2.2.2⟩

def createEvent (b : SseRingBuffer) (c : EventContent) : SseRingBuffer :=
  b.nextId.2.push ⟨b.nextId.1, c.1, c.2.1, c.2.2.1, some c.2.2.2⟩

section Sequential

variable {contents : List EventContent} {capacity lastEventId : UInt64}

def created (contents : List EventContent) : List SseEvent :=
  contents.zipIdx.map fun (c, id) => eventOf id c

def bufferAfter (capacity : UInt64) (contents : List EventContent) : SseRingBuffer :=
  contents.foldl createEvent (.new capacity)

theorem length_created (contents : List EventContent) :
    (created contents).length = contents.length := by
  simp [created]

theorem id_getElem?_created {i : Nat} {e : SseEvent} (h : (created contents)[i]? = some e) :
    e.id = .ofNat i := by
  simp only [created, List.getElem?_map, List.getElem?_zipIdx, Option.map_eq_some_iff] at h
  obtain ⟨⟨c, j⟩, ⟨d, -, hd⟩, rfl⟩ := h
  cases hd
  simp [eventOf]

/-- Of the created events the last ones are kept; the others are counted, and the first id that is
kept is their number. -/
theorem bufferAfter_eq (hcap : 1 ≤ capacity.toNat) (contents : List EventContent) :
    bufferAfter capacity contents =
      ⟨(created contents).drop (contents.length - capacity.toNat), capacity, .ofNat contents.length,
        .ofNat (contents.length - capacity.toNat), .ofNat (contents.length - capacity.toNat)⟩ := by
  induction contents using List.reverseRecOn with
  | nil => simp [bufferAfter, created, SseRingBuffer.new]
  | append_singleton contents c ih =>
    have hcreated : created (contents ++ [c]) = created contents ++ [eventOf contents.length c] := by
      simp [created, List.zipIdx_append]
    have hlen := length_created contents
    have hid := fun i e => @id_getElem?_created contents i e
    rw [bufferAfter, List.foldl_concat, ← bufferAfter, ih, hcreated]
    generalize created contents = l at *
    simp only [createEvent, SseRingBuffer.nextId, SseRingBuffer.push, List.length_drop,
      List.length_append, List.length_singleton]
    have hone : UInt64.ofNat contents.length + 1 = UInt64.ofNat (contents.length + 1) := by simp
    rcases Nat.lt_or_ge contents.length capacity.toNat with hroom | hfull
    · have hdrop : contents.length - capacity.toNat = 0 := by omega
      have hdrop' : contents.length + 1 - capacity.toNat = 0 := by omega
      rw [if_neg (by omega), hdrop, hdrop']
      cases l with
      | nil =>
        obtain rfl : contents = [] := List.eq_nil_of_length_eq_zero hlen.symm
        simp [eventOf]
      | cons x l => simp_all [eventOf]
    · -- a full buffer: its first event goes
      have hsucc : contents.length + 1 - capacity.toNat = contents.length - capacity.toNat + 1 := by
        omega
      obtain ⟨x, rest, hx⟩ := List.exists_cons_of_ne_nil (show
        l.drop (contents.length - capacity.toNat) ≠ [] by rw [ne_eq, List.drop_eq_nil_iff]; omega)
      have hrest : l.drop (contents.length - capacity.toNat + 1) = rest := by
        rw [← List.drop_drop, hx]
        rfl
      have hdropped : UInt64.ofNat (contents.length - capacity.toNat) + 1 =
          UInt64.ofNat (contents.length - capacity.toNat + 1) := by simp
      rw [if_pos (by omega), hsucc, List.drop_append_of_le_length (by omega), hrest]
      cases rest with
      | nil =>
        have hlast : contents.length - capacity.toNat + 1 = contents.length := by
          have := congrArg List.length hrest
          simp only [List.length_drop, List.length_nil] at this
          omega
        simp only [hx, SseRingBuffer.dropOldest, eventOf, hone, hdropped, hlast, List.isEmpty_nil,
          if_true]
      | cons oldest rest =>
        have hsecond : (l.drop (contents.length - capacity.toNat))[1]? = some oldest := by rw [hx]; rfl
        rw [List.getElem?_drop] at hsecond
        simp only [hx, SseRingBuffer.dropOldest, eventOf, hone, hdropped, hid _ _ hsecond,
          List.isEmpty_cons, Bool.false_eq_true, if_false]

theorem toNat_id {i : Nat} {e : SseEvent} (hlen : contents.length < 2 ^ 64)
    (h : (created contents)[i]? = some e) : e.id.toNat = i := by
  have hi := (List.getElem?_eq_some_iff.mp h).1
  rw [length_created] at hi
  rw [id_getElem?_created h, UInt64.toNat_ofNat', Nat.mod_eq_of_lt (by omega)]

theorem created_sorted (hlen : contents.length < 2 ^ 64) :
    (created contents).Pairwise fun a b => a.id < b.id := by
  refine List.pairwise_iff_getElem.mpr fun i j hi hj hij => ?_
  rw [UInt64.lt_iff_toNat_lt, toNat_id hlen (List.getElem?_eq_getElem hi),
    toNat_id hlen (List.getElem?_eq_getElem hj)]
  exact hij

theorem lost_iff (hlen : contents.length < 2 ^ 64) (d : Nat) (hd : d ≤ contents.length) :
    (∃ e ∈ created contents, lastEventId < e.id ∧ e ∉ (created contents).drop d) ↔
      lastEventId.toNat + 1 < d := by
  constructor
  · rintro ⟨e, he, hlast, hnot⟩
    obtain ⟨i, hi⟩ := List.mem_iff_getElem?.mp he
    have hid := toNat_id hlen hi
    by_contra hge
    refine hnot (List.mem_iff_getElem?.mpr ⟨i - d, ?_⟩)
    rw [UInt64.lt_iff_toNat_lt] at hlast
    rwa [List.getElem?_drop, Nat.add_sub_cancel' (by omega)]
  · intro hlt
    have hi : lastEventId.toNat + 1 < (created contents).length := by
      rw [length_created]
      omega
    have hget := List.getElem?_eq_getElem hi
    refine ⟨_, List.getElem_mem hi, ?_, fun hmem => ?_⟩
    · rw [UInt64.lt_iff_toNat_lt, toNat_id hlen hget]
      omega
    · obtain ⟨j, hj⟩ := List.mem_iff_getElem?.mp hmem
      rw [List.getElem?_drop] at hj
      have := toNat_id hlen hj
      have := toNat_id hlen hget
      omega

/-- The replay and the number of dropped events are exact; whether there is a gap is said rightly
except to a client that has seen exactly the events that were dropped. -/
theorem replay_sequential_iff (hcap : 1 ≤ capacity.toNat) (hlen : contents.length < 2 ^ 64)
    (lastEventId : UInt64) :
    let dropped := contents.length - capacity.toNat
    let r := getReplayWithAnalysis (bufferAfter capacity contents) lastEventId
    r.events = ((created contents).drop dropped).filter (fun e => lastEventId < e.id) ∧
      (r.events.Pairwise fun a b => a.id < b.id) ∧ r.droppedCount.toNat = dropped ∧
      ((r.hasGap = true ↔ ∃ e ∈ created contents, lastEventId < e.id ∧
          e ∉ (bufferAfter capacity contents).events) ↔
        lastEventId.toNat + 1 ≠ dropped) := by
  intro dropped r
  have hbuffer := bufferAfter_eq hcap contents
  have hevents : r.events = ((created contents).drop dropped).filter
      (fun e => lastEventId < e.id) := by
    simp only [r, getReplayWithAnalysis, hbuffer, SseRingBuffer.replayFrom, dropped]
  have hnat : (UInt64.ofNat dropped).toNat = dropped :=
    (UInt64.toNat_ofNat').trans (Nat.mod_eq_of_lt (by omega))
  refine ⟨hevents, ?_, ?_, ?_⟩
  · rw [hevents]
    exact ((created_sorted hlen).drop).filter _
  · simpa only [r, getReplayWithAnalysis, hbuffer] using hnat
  · rw [hbuffer, lost_iff hlen dropped (by omega)]
    have hgap : r.hasGap = true ↔ lastEventId.toNat < dropped := by
      simp only [r, getReplayWithAnalysis, SseRingBuffer.hasGap, hbuffer, Bool.and_eq_true,
        decide_eq_true_eq, UInt64.lt_iff_toNat_lt, UInt64.toNat_zero]
      rw [hnat]
      omega
    rw [hgap]
    omega

theorem replay_sequential_iff_room :
    (getReplayWithAnalysis (bufferAfter 2 [("a", "", 0, 0)]) 0).events = [] :=
  (@replay_sequential_iff [("a", "", 0, 0)] 2 (by decide) (by decide) 0).1.trans (by decide)

theorem gap_at_boundary :
    let b := bufferAfter 1 [("a", "", 0, 0), ("b", "", 0, 0)]
    (getReplayWithAnalysis b 0).hasGap = true ∧
      ¬ ∃ e ∈ created [("a", "", 0, 0), ("b", "", 0, 0)], 0 < e.id ∧ e ∉ b.events := by
  decide

end Sequential

end AdapterOS.Sse
