import AdapterOS.Library.Run
import Mathlib.Algebra.Order.Ring.Nat
import Mathlib.Data.Fintype.Basic

/-! The deterministic channel: senders, one receiver and the flag that closes it, at the grain of
locks and atomics. -/
namespace AdapterOS.Exec

open Library

inductive ChannelError where
  | closed
  | full (capacity : Nat)
  deriving DecidableEq

structure SequencedMessage (α : Type*) where
  sequence : UInt64
  payload : α
  agentId : Option String
  deriving DecidableEq

/-- Where a sender stands: it has found the channel open, or has an answer. -/
inductive SendPc (α : Type*) where
  | idle
  | admitted (payload : α)
  | returned (payload : α) (result : Except ChannelError Unit)

def SendPc.IsAdmitted {α : Type*} : SendPc α → Prop
  | .admitted _ => True
  | _ => False

/-- Where the receiver stands that calls `recv` again and again: `missed` after an empty
`try_recv`, `ended` once it has been told that the channel is closed. -/
inductive RecvPc where
  | trying
  | missed
  | ended
  deriving DecidableEq

/-- The channel, the process-wide counter and the tasks `S` that send; `accepted` and `received`
record the messages whose `send` returned `Ok`, and those that `recv` returned. -/
structure Channel (S α : Type*) where
  capacity : Nat
  agentId : S → Option String
  queue : List (SequencedMessage α) := []
  closed : Bool := false
  globalSequence : UInt64
  senders : S → SendPc α := fun _ => .idle
  receiver : RecvPc := .trying
  accepted : List (SequencedMessage α) := []
  received : List (SequencedMessage α) := []

inductive ChannelAction (S α : Type*) where
  /-- A call of `send`, up to its look at the flag. -/
  | send (sender : S) (payload : α)
  /-- What a sender does under the lock of the queue. -/
  | enqueue (sender : S)
  | close
  /-- The next step of the receiver. -/
  | recv
  /-- A message of another channel takes a number. -/
  | otherChannel

namespace Channel

variable {S α : Type*}

def tryRecv (c : Channel S α) : Channel S α :=
  match c.queue with
  | message :: rest => { c with queue := rest, received := c.received ++ [message] }
  | [] => { c with receiver := .missed }

def recv (c : Channel S α) : Channel S α :=
  match c.receiver with
  | .trying => c.tryRecv
  | .missed => if c.closed then { c with receiver := .ended } else { c with receiver := .trying }
  | .ended => c

variable [DecidableEq S]

def setSender (c : Channel S α) (sender : S) (pc : SendPc α) : Channel S α :=
  { c with senders := Function.update c.senders sender pc }

def send (c : Channel S α) (sender : S) (payload : α) : Channel S α :=
  match c.senders sender with
  | .admitted _ => c
  | _ =>
    if c.closed then c.setSender sender (.returned payload (.error .closed))
    else c.setSender sender (.admitted payload)

def enqueue (c : Channel S α) (sender : S) : Channel S α :=
  match c.senders sender with
  | .admitted payload =>
    if c.capacity ≤ c.queue.length then
      c.setSender sender (.returned payload (.error (.full c.capacity)))
    else
      let message := ⟨c.globalSequence, payload, c.agentId sender⟩
      { c with
        globalSequence := c.globalSequence + 1
        queue := c.queue ++ [message]
        accepted := c.accepted ++ [message] }.setSender sender (.returned payload (.ok ()))
  | _ => c

def step (c : Channel S α) : ChannelAction S α → Channel S α
  | .send sender payload => c.send sender payload
  | .enqueue sender => c.enqueue sender
  | .close => { c with closed := true }
  | .recv => c.recv
  | .otherChannel => { c with globalSequence := c.globalSequence + 1 }

/-- The queue is within its capacity, messages come out once, in the order of their numbers, and
a receiver that was told of the end has got all that were accepted. -/
structure Delivers (c : Channel S α) : Prop where
  bounded : c.queue.length ≤ c.capacity
  increasing : c.received.Pairwise fun m m' => m.sequence < m'.sequence
  accounted : c.received ++ c.queue = c.accepted
  complete : c.receiver = .ended → c.received = c.accepted

/-- The receiver learns of the end only when nothing is queued and no sender is past its look at
the flag; and the counter is not at its last number when a message takes one. -/
def Settled (c : Channel S α) : ChannelAction S α → Prop
  | .recv => c.receiver = .missed → c.closed = true →
      c.queue = [] ∧ ∀ sender, ¬ (c.senders sender).IsAdmitted
  | .enqueue _ | .otherChannel => c.globalSequence.toNat + 1 < 2 ^ 64
  | _ => True

section Safety

variable {c : Channel S α} {a : ChannelAction S α}

structure Inv (c : Channel S α) : Prop where
  bounded : c.queue.length ≤ c.capacity
  accounted : c.received ++ c.queue = c.accepted
  increasing : c.accepted.Pairwise fun m m' => m.sequence < m'.sequence
  below : ∀ m ∈ c.accepted, m.sequence < c.globalSequence
  ended : c.receiver = .ended →
    c.closed = true ∧ c.queue = [] ∧ ∀ sender, ¬ (c.senders sender).IsAdmitted

omit [DecidableEq S] in
theorem Inv.delivers (h : c.Inv) : c.Delivers where
  bounded := h.bounded
  increasing := (h.accounted ▸ h.increasing).sublist (List.sublist_append_left _ _)
  accounted := h.accounted
  complete hend := by simpa [(h.ended hend).2.1] using h.accounted

theorem Inv.setSender (h : c.Inv) {sender : S} {pc : SendPc α}
    (hpc : c.receiver = .ended → ¬ pc.IsAdmitted) : (c.setSender sender pc).Inv := by
  refine ⟨h.bounded, h.accounted, h.increasing, h.below, fun hend => ?_⟩
  obtain ⟨hclosed, hempty, hsenders⟩ := h.ended hend
  refine ⟨hclosed, hempty, fun other => ?_⟩
  by_cases hother : other = sender
  · subst other
    simpa [Channel.setSender] using hpc hend
  · simpa [Channel.setSender, hother] using hsenders other

omit [DecidableEq S] in
theorem lt_add_one (hroom : c.globalSequence.toNat + 1 < 2 ^ 64) :
    c.globalSequence < c.globalSequence + 1 := by
  rw [UInt64.lt_iff_toNat_lt, UInt64.toNat_add, UInt64.toNat_one, Nat.mod_eq_of_lt hroom]
  omega

theorem inv_send (h : c.Inv) (sender : S) (payload : α) : (c.send sender payload).Inv := by
  unfold send
  split
  · exact h
  · split
    · exact h.setSender fun _ => id
    · rename_i hopen
      exact h.setSender fun hend => absurd (h.ended hend).1 hopen

theorem inv_enqueue (h : c.Inv) (sender : S) (hroom : c.globalSequence.toNat + 1 < 2 ^ 64) :
    (c.enqueue sender).Inv := by
  unfold enqueue
  split
  · rename_i payload hpc
    split
    · exact h.setSender fun _ => id
    · rename_i hfree
      refine Inv.setSender ⟨?_, ?_, ?_, ?_, ?_⟩ fun _ => id
      · simp only [List.length_append, List.length_singleton]
        omega
      · simp only [← h.accounted, List.append_assoc]
      · refine List.pairwise_append.mpr ⟨h.increasing, by simp, ?_⟩
        simpa using h.below
      · obtain ⟨⟩ := h
        grind [lt_add_one]
      · intro hend
        have hnone := (h.ended hend).2.2 sender
        rw [hpc] at hnone
        exact absurd trivial hnone
  · exact h

omit [DecidableEq S] in
theorem inv_recv (h : c.Inv) (hset : c.receiver = .missed → c.closed = true →
    c.queue = [] ∧ ∀ sender, ¬ (c.senders sender).IsAdmitted) : c.recv.Inv := by
  unfold recv
  split
  · rename_i htrying
    unfold tryRecv
    split
    · rename_i message rest hqueue
      have hbounded := h.bounded
      have haccounted := h.accounted
      rw [hqueue] at hbounded haccounted
      refine ⟨?_, ?_, h.increasing, h.below, ?_⟩ <;> grind
    · exact ⟨h.bounded, h.accounted, h.increasing, h.below, by simp⟩
  · rename_i hmissed
    split
    · rename_i hclosed
      exact ⟨h.bounded, h.accounted, h.increasing, h.below, fun _ => ⟨hclosed, hset hmissed hclosed⟩⟩
    · exact ⟨h.bounded, h.accounted, h.increasing, h.below, by simp⟩
  · exact h

theorem inv_step (h : c.Inv) (hset : c.Settled a) : (c.step a).Inv := by
  cases a with
  | send sender payload => exact inv_send h sender payload
  | enqueue sender => exact inv_enqueue h sender hset
  | close =>
    exact ⟨h.bounded, h.accounted, h.increasing, h.below, fun hend => ⟨rfl, (h.ended hend).2⟩⟩
  | recv => exact inv_recv h hset
  | otherChannel =>
    exact ⟨h.bounded, h.accounted, h.increasing,
      fun m hm => UInt64.lt_trans (h.below m hm) (lt_add_one hset), h.ended⟩

end Safety

def new (capacity : Nat) (agentId : S → Option String) (globalSequence : UInt64) : Channel S α :=
  { capacity, agentId, globalSequence }

/-- Any senders and interleaving. Along every run of settled steps the channel delivers. -/
theorem always_delivers (capacity : Nat) (agentId : S → Option String) (globalSequence : UInt64)
    (actions : List (ChannelAction S α))
    (hset : Guarded step Settled (new capacity agentId globalSequence) actions) :
    Always step Delivers (new capacity agentId globalSequence) actions :=
  always_of_guarded (fun _ _ => inv_step) (fun _ => Inv.delivers)
    ⟨Nat.zero_le _, rfl, List.Pairwise.nil, by simp [new], by simp [new]⟩ hset

section Runs

instance : DecidablePred (SendPc.IsAdmitted (α := α))
  | .admitted _ => .isTrue trivial
  | .idle | .returned .. => .isFalse id

instance [Fintype S] (c : Channel S α) : DecidablePred c.Settled
  | .recv => by
    have : Decidable (c.queue = []) := decidable_of_iff (c.queue.isEmpty = true) List.isEmpty_iff
    exact inferInstanceAs (Decidable (_ → _ → _))
  | .enqueue _ | .otherChannel => inferInstanceAs (Decidable (_ < _))
  | .send .. | .close => .isTrue trivial

def plainChannel : Channel (Fin 2) Nat := new 1 (fun _ => none) 0

def settledRun : List (ChannelAction (Fin 2) Nat) :=
  [.send p₀ 7, .recv, .enqueue p₀, .send p₁ 8, .otherChannel, .enqueue p₁, .recv, .recv, .recv,
    .close, .recv, .recv, .send p₀ 9]

theorem settledRun_delivers : Always step Delivers plainChannel settledRun :=
  always_delivers 1 (fun _ => none) 0 settledRun (by decide)

/-- A sender that has found the channel open is answered `Ok` after the receiver has left. -/
def lateSend : List (ChannelAction (Fin 2) Nat) :=
  [.send p₀ 7, .close, .recv, .recv, .enqueue p₀]

/-- The message and the end come between the receiver's look into the queue and at the flag. -/
def lateLook : List (ChannelAction (Fin 2) Nat) :=
  [.recv, .send p₀ 7, .enqueue p₀, .close, .recv]

def Loses (actions : List (ChannelAction (Fin 2) Nat)) : Prop :=
  let c := run step plainChannel actions
  c.receiver = .ended ∧ c.accepted = [⟨0, 7, none⟩] ∧ c.received = [] ∧
    ¬ Always step Delivers plainChannel actions

theorem accepted_lost : Loses lateSend ∧ Loses lateLook := by
  suffices h : ∀ actions ∈ [lateSend, lateLook], Loses actions from ⟨h _ (by simp), h _ (by simp)⟩
  intro actions hactions
  have hlost : (run step plainChannel actions).receiver = .ended ∧
      (run step plainChannel actions).accepted = [⟨0, 7, none⟩] ∧
      (run step plainChannel actions).received = [] := by
    revert actions
    decide
  refine ⟨hlost.1, hlost.2.1, hlost.2.2, ?_⟩
  intro halways
  have hall := (halways.initial (List.prefix_refl _)).complete hlost.1
  rw [hlost.2.1, hlost.2.2] at hall
  cases hall

end Runs

end Channel

end AdapterOS.Exec
