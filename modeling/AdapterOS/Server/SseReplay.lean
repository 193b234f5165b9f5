import AdapterOS.Library.Run
import Mathlib.Data.List.Perm.Subperm

/-! The events of one stream and their replay. The id of an event is drawn before the buffer is
locked, so an event may enter the buffer after one with a larger id. -/
namespace AdapterOS.Sse

open Library

structure SseEvent where
  id : UInt64
  eventType : String
  data : String
  timestampMs : UInt64
  retryMs : Option UInt32
  deriving DecidableEq

structure SseRingBuffer where
  events : List SseEvent
  capacity : UInt64
  sequence : UInt64
  droppedCount : UInt64
  lowestId : UInt64

namespace SseRingBuffer

def new (capacity : UInt64) : SseRingBuffer := ⟨[], capacity, 0, 0, 0⟩

variable (b : SseRingBuffer)

def nextId : UInt64 × SseRingBuffer := (b.sequence, { b with sequence := b.sequence + 1 })

/-- Makes room: the oldest event goes, and the next one is the lowest. -/
def dropOldest : SseRingBuffer :=
  match b.events with
  | [] => b
  | [_] => { b with events := [], droppedCount := b.droppedCount + 1 }
  | _ :: oldest :: rest =>
    { b with events := oldest :: rest, droppedCount := b.droppedCount + 1, lowestId := oldest.id }

def push (event : SseEvent) : SseRingBuffer :=
  let b := if b.capacity.toNat ≤ b.events.length then b.dropOldest else b
  { b with
    lowestId := if b.events.isEmpty then event.id else b.lowestId
    events := b.events ++ [event] }

def replayFrom (lastEventId : UInt64) : List SseEvent := b.events.filter fun e => lastEventId < e.id

end SseRingBuffer

/-- Where a call of `create_event` stands. -/
inductive Pc where
  | idle
  -- the id is drawn and the event is not in the buffer yet
  | drawn (event : SseEvent)
  | returned (event : SseEvent)

def Pc.drawn? : Pc → Option SseEvent
  | .drawn event => some event
  | _ => none

def largestId (received : List SseEvent) : UInt64 :=
  received.foldl (fun m e => if m < e.id then e.id else m) 0

/-- The stream, the calls and what one client has received. -/
structure Stream (n : Nat) where
  buffer : SseRingBuffer
  pc : Fin n → Pc
  received : List SseEvent

inductive Action (n : Nat) where
  | create (t : Fin n) (eventType data : String) (timestampMs : UInt64) (retryMs : UInt32)
  | push (t : Fin n)
  -- a new client receives every event pushed so far
  | connect
  -- the client asks for what follows the largest id it has seen
  | reconnect

namespace Stream

variable {n : Nat}

def new (n : Nat) (capacity : UInt64) : Stream n := ⟨.new capacity, fun _ => .idle, []⟩

def goto (c : Stream n) (t : Fin n) (next : SseRingBuffer × Pc) : Stream n :=
  { c with buffer := next.1, pc := Function.update c.pc t next.2 }

def create (b : SseRingBuffer) (eventType data : String) (timestampMs : UInt64) (retryMs : UInt32) :
    SseRingBuffer × Pc :=
  (b.nextId.2, .drawn ⟨b.nextId.1, eventType, data, timestampMs, some retryMs⟩)

def step (c : Stream n) : Action n → Stream n
  | .create t eventType data timestampMs retryMs =>
    match c.pc t with
    | .idle | .returned _ => c.goto t (create c.buffer eventType data timestampMs retryMs)
    | _ => c
  | .push t =>
    match c.pc t with
    | .drawn event => c.goto t (c.buffer.push event, .returned event)
    | _ => c
  | .connect => { c with received := c.buffer.events }
  | .reconnect =>
    match c.received with
    | [] => c
    | _ => { c with received := c.received ++ c.buffer.replayFrom (largestId c.received) }

/-- What a step can do. -/
inductive Effect (c : Stream n) : Action n → Stream n → Prop
  | rest {a} : Effect c a c
  | create {t eventType data timestampMs retryMs} : (c.pc t).drawn? = none →
      Effect c (.create t eventType data timestampMs retryMs)
        (c.goto t (create c.buffer eventType data timestampMs retryMs))
  | push {t} (e) : e ∈ (c.pc t).drawn? →
      Effect c (.push t) (c.goto t (c.buffer.push e, .returned e))
  | connect : Effect c .connect { c with received := c.buffer.events }
  | reconnect : c.received ≠ [] → Effect c .reconnect
      { c with received := c.received ++ c.buffer.replayFrom (largestId c.received) }

def Ordered (c : Stream n) : Prop := c.buffer.events.Pairwise fun a b => a.id < b.id

/-- With the next replay a client that has seen an event has every event exactly once. -/
def CatchesUp (c : Stream n) : Prop :=
  c.received ≠ [] →
    (c.received ++ c.buffer.replayFrom (largestId c.received)).Perm c.buffer.events

def Replays (c : Stream n) : Prop := c.Ordered ∧ c.CatchesUp

def HasRoom (c : Stream n) : Action n → Prop
  | .create .. => c.buffer.sequence.toNat + 1 < c.buffer.capacity.toNat
  | _ => True

def InOrder (c : Stream n) : Action n → Prop
  | .push t => ∀ e ∈ (c.pc t).drawn?, ∀ u, ∀ d ∈ (c.pc u).drawn?, e.id ≤ d.id
  | _ => True

def Quiet (c : Stream n) : Prop := ∀ t, (c.pc t).drawn? = none

instance (c : Stream n) : (a : Action n) → Decidable (c.HasRoom a)
  | .create .. =>
    inferInstanceAs (Decidable (c.buffer.sequence.toNat + 1 < c.buffer.capacity.toNat))
  | .push _ | .connect | .reconnect => .isTrue trivial

instance (c : Stream n) : (a : Action n) → Decidable (c.InOrder a)
  | .push t =>
    @Option.decidableForallMem _ _ (fun e => @Nat.decidableForallFin n _ fun u =>
      @Option.decidableForallMem _ _ (fun d => inferInstanceAs (Decidable (e.id ≤ d.id)))
        (c.pc u).drawn?) (c.pc t).drawn?
  | .create .. | .connect | .reconnect => .isTrue trivial

end Stream

section Replay

variable {b : SseRingBuffer} {e : SseEvent} {l m : List SseEvent}

theorem SseRingBuffer.events_push (h : b.events.length < b.capacity.toNat) (e : SseEvent) :
    (b.push e).events = b.events ++ [e] := by
  simp only [push]
  rw [if_neg (Nat.not_le.mpr h)]

theorem largestId_le {bound : UInt64} (h : ∀ e ∈ l, e.id ≤ bound) : largestId l ≤ bound := by
  have hfold : ∀ init, init ≤ bound →
      l.foldl (fun m e => if m < e.id then e.id else m) init ≤ bound := by
    induction l with
    | nil => exact fun init hinit => hinit
    | cons d l ih => grind
  exact hfold 0 (UInt64.zero_le)

theorem largestId_concat (h : (l ++ [e]).Pairwise fun a b => a.id < b.id) :
    largestId (l ++ [e]) = e.id := by
  have hless : ∀ d ∈ l, d.id < e.id := by
    intro d hd
    exact (List.pairwise_append.mp h).2.2 d hd e List.mem_cons_self
  have hle : largestId l ≤ e.id := largestId_le fun d hd => UInt64.le_of_lt (hless d hd)
  grind [largestId]

theorem replayFrom_of_append (h : b.events.Pairwise fun a b => a.id < b.id) (hl : l ≠ [])
    (hb : b.events = l ++ m) : b.replayFrom (largestId l) = m := by
  obtain ⟨init, last, rfl⟩ := List.eq_nil_or_concat' l |>.resolve_left hl
  rw [hb] at h
  obtain ⟨hseen, -, hcross⟩ := List.pairwise_append.mp h
  rw [SseRingBuffer.replayFrom, largestId_concat hseen, hb, List.filter_append]
  grind [List.filter_eq_nil_iff, List.filter_eq_self]

end Replay

namespace Stream

variable {n : Nat} {c : Stream n} {t u : Fin n} {e : SseEvent} {a : Action n}
  {actions : List (Action n)}

theorem pc_goto (next : SseRingBuffer × Pc) (u : Fin n) :
    (c.goto t next).pc u = if u = t then next.2 else c.pc u :=
  Function.update_apply c.pc t next.2 u

theorem mem_drawn_goto {next : SseRingBuffer × Pc} : e ∈ ((c.goto t next).pc u).drawn? ↔
      u = t ∧ e ∈ next.2.drawn? ∨ u ≠ t ∧ e ∈ (c.pc u).drawn? := by
  rw [pc_goto]
  split
  · next hu => simp [hu]
  · next hu => simp [hu]

theorem effect_step (c : Stream n) (a : Action n) : c.Effect a (c.step a) := by
  cases a with
  | create t eventType data timestampMs retryMs =>
    simp only [step]
    split
    · next hpc => exact .create (by simp [hpc, Pc.drawn?])
    · next hpc => exact .create (by simp [hpc, Pc.drawn?])
    · exact .rest
  | push t =>
    simp only [step]
    split
    · next e hpc => exact .push e (by simp [hpc, Pc.drawn?])
    · exact .rest
  | connect => exact .connect
  | reconnect =>
    simp only [step]
    split
    · exact .rest
    · next hsome => exact .reconnect hsome

/-- What holds of the ids in any run: each is drawn once, and none reaches the capacity. -/
structure Drawn (c : Stream n) : Prop where
  pushed : ∀ e ∈ c.buffer.events, e.id < c.buffer.sequence
  pending : ∀ t, ∀ e ∈ (c.pc t).drawn?, e.id < c.buffer.sequence
  apart : ∀ t u, ∀ e ∈ (c.pc t).drawn?, ∀ d ∈ (c.pc u).drawn?, e.id = d.id → t = u
  room : ∀ t, ∀ _e ∈ (c.pc t).drawn?, c.buffer.sequence.toNat < c.buffer.capacity.toNat

theorem Drawn.length_le (h : c.Drawn) (hord : c.Ordered) :
    c.buffer.events.length ≤ c.buffer.sequence.toNat := by
  have hnodup : (c.buffer.events.map fun e => e.id.toNat).Nodup := by
    refine List.pairwise_map.mpr (hord.imp ?_)
    intro a b hab
    exact Nat.ne_of_lt (UInt64.lt_iff_toNat_lt.mp hab)
  have hsub : (c.buffer.events.map fun e => e.id.toNat) ⊆ List.range c.buffer.sequence.toNat := by
    obtain ⟨⟩ := h
    grind [UInt64.lt_iff_toNat_lt]
  have hle := (hnodup.subperm hsub).length_le
  rwa [List.length_map, List.length_range] at hle

theorem Drawn.events_push (h : c.Drawn) (hord : c.Ordered) (he : e ∈ (c.pc t).drawn?) :
    (c.buffer.push e).events = c.buffer.events ++ [e] := by
  have hlength := h.length_le hord
  have hroom := h.room t e he
  exact SseRingBuffer.events_push (by omega) e

theorem push_bounds (b : SseRingBuffer) (e : SseEvent) :
    (b.push e).sequence = b.sequence ∧ (b.push e).capacity = b.capacity := by
  grind [SseRingBuffer.dropOldest, SseRingBuffer.push]

theorem sequence_succ (h : c.buffer.sequence.toNat + 1 < c.buffer.capacity.toNat) :
    (c.buffer.sequence + 1).toNat = c.buffer.sequence.toNat + 1 := by
  have hmod : (c.buffer.sequence + 1).toNat = (c.buffer.sequence.toNat + 1) % 2 ^ 64 := by simp
  have hlt := c.buffer.capacity.toNat_lt
  omega

theorem Drawn.create (h : c.Drawn) (hroom : c.buffer.sequence.toNat + 1 < c.buffer.capacity.toNat)
    (eventType data : String) (timestampMs : UInt64) (retryMs : UInt32) :
    (c.goto t (create c.buffer eventType data timestampMs retryMs)).Drawn := by
  have hsucc := sequence_succ hroom
  have hgrow : ∀ id : UInt64, id < c.buffer.sequence → id < c.buffer.sequence + 1 := by
    intro id hid
    rw [UInt64.lt_iff_toNat_lt] at hid ⊢
    omega
  have hnew : c.buffer.sequence < c.buffer.sequence + 1 := by
    rw [UInt64.lt_iff_toNat_lt]
    omega
  refine ⟨?_, ?_, ?_, ?_⟩
  · intro e he
    exact hgrow _ (h.pushed e he)
  · intro u e hu
    rcases mem_drawn_goto.mp hu with ⟨-, ⟨⟩⟩ | ⟨-, hold⟩
    · exact hnew
    · exact hgrow _ (h.pending u e hold)
  · intro u v e hu d hv hid
    rcases mem_drawn_goto.mp hu with ⟨hut, ⟨⟩⟩ | ⟨-, hu⟩
    · rcases mem_drawn_goto.mp hv with ⟨hvt, -⟩ | ⟨-, hv⟩
      · rw [hut, hvt]
      · have hlt := h.pending v d hv
        rw [← hid] at hlt
        exact absurd hlt (UInt64.lt_irrefl _)
    · rcases mem_drawn_goto.mp hv with ⟨-, ⟨⟩⟩ | ⟨-, hv⟩
      · have hlt := h.pending u e hu
        rw [hid] at hlt
        exact absurd hlt (UInt64.lt_irrefl _)
      · exact h.apart u v e hu d hv hid
  · intro u e _
    change (c.buffer.sequence + 1).toNat < c.buffer.capacity.toNat
    omega

theorem Drawn.push (h : c.Drawn) (hord : c.Ordered) (he : e ∈ (c.pc t).drawn?) :
    (c.goto t (c.buffer.push e, .returned e)).Drawn := by
  have hpending : ∀ u, ∀ d ∈ ((c.goto t (c.buffer.push e, .returned e)).pc u).drawn?,
      d ∈ (c.pc u).drawn? := by
    intro u d hd
    rcases mem_drawn_goto.mp hd with ⟨-, hnone⟩ | ⟨-, hd⟩
    · cases hnone
    · exact hd
  obtain ⟨hsequence, hcapacity⟩ := push_bounds c.buffer e
  refine ⟨?_, ?_, ?_, ?_⟩
  · intro d hd
    change d ∈ (c.buffer.push e).events at hd
    change d.id < (c.buffer.push e).sequence
    rw [h.events_push hord he] at hd
    obtain ⟨⟩ := h
    grind
  · intro u d hd
    change d.id < (c.buffer.push e).sequence
    rw [hsequence]
    exact h.pending u d (hpending u d hd)
  · obtain ⟨⟩ := h
    grind
  · intro u d hd
    change (c.buffer.push e).sequence.toNat < (c.buffer.push e).capacity.toNat
    rw [hsequence, hcapacity]
    exact h.room u d (hpending u d hd)

theorem Drawn.receive (h : c.Drawn) (received : List SseEvent) : { c with received }.Drawn :=
  ⟨h.pushed, h.pending, h.apart, h.room⟩

theorem Drawn.step (h : c.Drawn) (hord : c.Ordered) (hroom : c.HasRoom a) : (c.step a).Drawn := by
  have heffect := c.effect_step a
  generalize c.step a = c' at heffect ⊢
  cases heffect with
  | rest => exact h
  | create _ => exact h.create hroom _ _ _ _
  | push e he => exact h.push hord he
  | connect => exact h.receive _
  | reconnect _ => exact h.receive _

/-- The invariant of runs in order: what waits to be pushed comes after what is in the buffer, of
which the client has seen a first part. -/
structure Advancing (c : Stream n) : Prop where
  drawn : c.Drawn
  ordered : c.Ordered
  ahead : ∀ x ∈ c.buffer.events, ∀ t, ∀ e ∈ (c.pc t).drawn?, x.id < e.id
  seen : c.received <+: c.buffer.events

theorem Advancing.create (h : c.Advancing)
    (hroom : c.buffer.sequence.toNat + 1 < c.buffer.capacity.toNat)
    (eventType data : String) (timestampMs : UInt64) (retryMs : UInt32) :
    (c.goto t (create c.buffer eventType data timestampMs retryMs)).Advancing := by
  refine ⟨h.drawn.create hroom _ _ _ _, h.ordered, ?_, h.seen⟩
  intro x hx u e hu
  rcases mem_drawn_goto.mp hu with ⟨-, ⟨⟩⟩ | ⟨-, hold⟩
  · exact h.drawn.pushed x hx
  · exact h.ahead x hx u e hold

theorem Advancing.push (h : c.Advancing) (he : e ∈ (c.pc t).drawn?)
    (hfirst : ∀ u, ∀ d ∈ (c.pc u).drawn?, e.id ≤ d.id) :
    (c.goto t (c.buffer.push e, .returned e)).Advancing := by
  have hevents := h.drawn.events_push h.ordered he
  refine ⟨h.drawn.push h.ordered he, ?_, ?_, ?_⟩
  · change (c.buffer.push e).events.Pairwise _
    rw [hevents, List.pairwise_append]
    refine ⟨h.ordered, List.pairwise_singleton _ _, ?_⟩
    obtain ⟨⟩ := h
    grind
  · intro x hx u d hd
    change x ∈ (c.buffer.push e).events at hx
    rw [hevents] at hx
    rcases mem_drawn_goto.mp hd with ⟨-, hnone⟩ | ⟨hut, hd⟩
    · cases hnone
    · rcases List.mem_append.mp hx with hx | hx
      · exact h.ahead x hx u d hd
      · rw [List.mem_singleton.mp hx]
        refine UInt64.lt_of_le_of_ne (hfirst u d hd) ?_
        intro hid
        exact hut (h.drawn.apart u t d hd e he hid.symm)
  · change c.received <+: (c.buffer.push e).events
    rw [hevents]
    exact h.seen.trans (List.prefix_append _ _)

theorem Advancing.append_replay (h : c.Advancing) (hsome : c.received ≠ []) :
    c.received ++ c.buffer.replayFrom (largestId c.received) = c.buffer.events := by
  obtain ⟨rest, hrest⟩ := h.seen
  rw [replayFrom_of_append h.ordered hsome hrest.symm]
  exact hrest

theorem Advancing.receive (h : c.Advancing) {received : List SseEvent}
    (hseen : received <+: c.buffer.events) : { c with received }.Advancing :=
  ⟨h.drawn.receive received, h.ordered, h.ahead, hseen⟩

theorem Advancing.step (h : c.Advancing) (hroom : c.HasRoom a) (horder : c.InOrder a) :
    (c.step a).Advancing := by
  have heffect := c.effect_step a
  generalize c.step a = c' at heffect ⊢
  cases heffect with
  | rest => exact h
  | create _ => exact h.create hroom _ _ _ _
  | push e he => exact h.push he (horder e he)
  | connect => exact h.receive (List.prefix_refl _)
  | reconnect hsome =>
    refine h.receive ?_
    rw [h.append_replay hsome]

theorem Advancing.replays (h : c.Advancing) : c.Replays := by
  refine ⟨h.ordered, ?_⟩
  intro hsome
  rw [h.append_replay hsome]

theorem advancing_new (n : Nat) (capacity : UInt64) : (new n capacity).Advancing where
  drawn := by
    refine ⟨?_, ?_, ?_, ?_⟩
    · intro e he
      cases he
    · intro t e he
      cases he
    · intro t u e he
      cases he
    · intro t e he
      cases he
  ordered := List.Pairwise.nil
  ahead := by
    intro x hx
    cases hx
  seen := List.prefix_refl _

section Overtaking

def Overtaken (c : Stream n) : Prop :=
  ∃ t, ∃ e ∈ (c.pc t).drawn?, ∃ x ∈ c.buffer.events, e.id < x.id

theorem step_keeps (h : c.Drawn) (hord : c.Ordered) (a : Action n) :
    (∀ x ∈ c.buffer.events, x ∈ (c.step a).buffer.events) ∧ ∀ t, ∀ e ∈ (c.pc t).drawn?,
        e ∈ ((c.step a).pc t).drawn? ∨ (c.step a).buffer.events = c.buffer.events ++ [e] := by
  have heffect := c.effect_step a
  generalize c.step a = c' at heffect ⊢
  cases heffect with
  | create hidle =>
    refine ⟨fun x hx => hx, ?_⟩
    grind [mem_drawn_goto]
  | @push u d hd =>
    have hevents := h.events_push hord hd
    refine ⟨?_, ?_⟩
    · intro x hx
      change x ∈ (c.buffer.push d).events
      rw [hevents]
      exact List.mem_append_left _ hx
    · intro t e he
      by_cases htu : t = u
      · right
        rw [htu] at he
        rw [Option.mem_unique he hd]
        exact hevents
      · exact .inl (mem_drawn_goto.mpr (.inr ⟨htu, he⟩))
  | _ => exact ⟨fun x hx => hx, fun t e he => .inl he⟩

theorem Overtaken.not_always (hover : c.Overtaken) (h : c.Drawn)
    (hroom : Guarded step HasRoom c actions) (hquiet : (run step c actions).Quiet) :
    ¬ Always step Replays c actions := by
  induction actions generalizing c with
  | nil =>
    obtain ⟨t, e, he, -⟩ := hover
    rw [run_nil] at hquiet
    rw [hquiet t] at he
    cases he
  | cons a actions ih =>
    rintro ⟨hnow, hlater⟩
    obtain ⟨t, e, he, x, hx, hlt⟩ := hover
    obtain ⟨hevents, hpending⟩ := step_keeps h hnow.1 a
    rcases hpending t e he with hwaits | hpushed
    · exact ih ⟨t, e, hwaits, x, hevents x hx, hlt⟩ (h.step hnow.1 hroom.1) hroom.2 hquiet hlater
    · have hord : (c.step a).Ordered := hlater.head.1
      grind [Ordered]

theorem overtaken_of_not_inOrder (h : c.Drawn) (hord : c.Ordered) (hnot : ¬ c.InOrder a) :
    (c.step a).Overtaken := by
  cases a with
  | push t =>
    simp only [InOrder, not_forall, exists_prop] at hnot
    obtain ⟨e, he, u, d, hd, hlt⟩ := hnot
    rw [UInt64.not_le] at hlt
    have hut : u ≠ t := by grind [Option.mem_unique]
    cases hpc : c.pc t with
    | drawn event =>
      have hevent : event = e := by
        rw [hpc] at he
        exact Option.some.inj he
      subst hevent
      have hstep : c.step (.push t) = c.goto t (c.buffer.push event, .returned event) := by
        simp only [Stream.step, hpc]
      rw [hstep]
      refine ⟨u, d, mem_drawn_goto.mpr (.inr ⟨hut, hd⟩), event, ?_, hlt⟩
      change event ∈ (c.buffer.push event).events
      rw [h.events_push hord he]
      exact List.mem_append_right _ List.mem_cons_self
    | _ => rw [hpc] at he; cases he
  | _ => exact absurd trivial hnot

theorem inOrder_of_replays (h : c.Drawn) (hroom : Guarded step HasRoom c actions)
    (hquiet : (run step c actions).Quiet) (halways : Always step Replays c actions) :
    Guarded step InOrder c actions := by
  induction actions generalizing c with
  | nil => trivial
  | cons a actions ih =>
    have hord := halways.1.1
    have hstep := h.step hord hroom.1
    refine ⟨?_, ih hstep hroom.2 hquiet halways.2⟩
    by_contra hnot
    exact (overtaken_of_not_inOrder h hord hnot).not_always hstep hroom.2 hquiet halways.2

end Overtaking

/-- With fewer events than places, pushes in the order of the ids keep the buffer ordered and every
replay complete; and in a run that leaves no call behind nothing else does. -/
theorem replays_of_inOrder {capacity : UInt64}
    (hroom : Guarded step HasRoom (new n capacity) actions) :
    (Guarded step InOrder (new n capacity) actions → Always step Replays (new n capacity) actions) ∧
    ((run step (new n capacity) actions).Quiet → Always step Replays (new n capacity) actions →
      Guarded step InOrder (new n capacity) actions) := by
  have hnew := advancing_new n capacity
  constructor
  · intro horder
    exact always_of_guarded (fun _ _ h hboth => Advancing.step h hboth.1 hboth.2)
      (fun _ h => h.replays) hnew (hroom.and horder)
  · exact inOrder_of_replays hnew.drawn hroom

/-- Two calls draw their ids, and a client that has seen the first event is sent the second. -/
theorem replays_inOrder_two : Always step Replays (new 2 10)
      [.create p₀ "metrics" "a" 0 3000, .create p₁ "metrics" "b" 0 3000, .push p₀, .connect,
        .push p₁, .reconnect] :=
  (replays_of_inOrder (by decide)).1 (by decide)

/-- The second call overtakes the first: the client has seen the id 1 when the event with the id 0
enters the buffer behind it, and no replay sends it. -/
theorem not_replays_overtaken : Guarded step HasRoom (new 2 10)
      [.create p₀ "metrics" "a" 0 3000, .create p₁ "metrics" "b" 0 3000, .push p₁, .connect,
        .push p₀, .reconnect] ∧
    ¬ Always step Replays (new 2 10)
      [.create p₀ "metrics" "a" 0 3000, .create p₁ "metrics" "b" 0 3000, .push p₁, .connect,
        .push p₀, .reconnect] ∧
    let c : Stream 2 := run step (new 2 10)
      [.create p₀ "metrics" "a" 0 3000, .create p₁ "metrics" "b" 0 3000, .push p₁, .connect,
        .push p₀, .reconnect]
    c.buffer.events.map SseEvent.id = [1, 0] ∧ c.received.map SseEvent.id = [1] := by
  refine ⟨by decide, ?_, by decide⟩
  intro halways
  have hord := (halways.initial (List.prefix_refl _)).1
  revert hord
  unfold Ordered
  decide

end Stream

end AdapterOS.Sse
