import AdapterOS.Exec.Ledger
import Mathlib.Data.Fintype.Basic

/-! Threads that record ticks at the same time: the tick is drawn, the entry is linked under the
lock of the head and the row is inserted in three separate steps. -/
namespace AdapterOS.Exec

open Library GlobalTickLedger

/-- Where a call of `record_tick` stands. -/
inductive RecordPc where
  | idle
  | ticked (tick : UInt64) (call : Recording)
  | linked (entryHash : B3Hash) (entry : TickLedgerEntry)
  | stored (entryHash : B3Hash) (entry : TickLedgerEntry)

namespace RecordPc

def tick? : RecordPc → Option UInt64
  | .ticked tick _ => some tick
  | _ => none

def linked? : RecordPc → Option TickLedgerEntry
  | .linked _ entry => some entry
  | _ => none

end RecordPc

structure SharedLedger (n : Nat) where
  ledger : GlobalTickLedger
  pc : Fin n → RecordPc

inductive RecordAction (n : Nat) where
  | begin (t : Fin n) (call : Recording)
  | advance (t : Fin n)

namespace SharedLedger

variable {n : Nat} (hash : List UInt8 → B3Hash) (jcs : ExecutorEvent → List UInt8)

def new (n : Nat) (tenantId hostId : String) (useDeterministicTimestamps : Bool) :
    SharedLedger n :=
  ⟨GlobalTickLedger.new tenantId hostId useDeterministicTimestamps, fun _ => .idle⟩

def goto (c : SharedLedger n) (t : Fin n) (pc : RecordPc) (ledger : GlobalTickLedger) :
    SharedLedger n :=
  ⟨ledger, Function.update c.pc t pc⟩

/-- The next step of a call under way; every insert succeeds. -/
def advance (c : SharedLedger n) (t : Fin n) : SharedLedger n :=
  match c.pc t with
  | .idle => c
  | .ticked tick call =>
    let (entryHash, entry, ledger) := c.ledger.linkEntry hash jcs tick call
    c.goto t (.linked entryHash entry) ledger
  | .linked entryHash entry =>
    c.goto t (.stored entryHash entry) { c.ledger with rows := c.ledger.rows ++ [entry] }
  | .stored _ entry => c.goto t .idle (c.ledger.cacheEntry entry)

def step (c : SharedLedger n) : RecordAction n → SharedLedger n
  | .begin t call =>
    match c.pc t with
    | .idle =>
      c.goto t (.ticked c.ledger.localTick call)
        { c.ledger with localTick := c.ledger.localTick + 1 }
    | _ => c
  | .advance t => c.advance hash jcs t

def Quiescent (c : SharedLedger n) : Prop := ∀ t, (c.pc t).tick? = none ∧ (c.pc t).linked? = none

/-- Whenever no call is under way, the rows have the ticks 0, 1, 2, … and form a chain. -/
def Settled (c : SharedLedger n) : Prop :=
  c.Quiescent →
    (inTickOrder c.ledger.rows).map (fun row => row.tick.toNat) = List.range c.ledger.rows.length ∧
      Chained c.ledger.rows

/-- A tick is drawn before the counter wraps, and an entry is linked only when no smaller tick
waits for its entry. -/
def InOrder (c : SharedLedger n) : RecordAction n → Prop
  | .begin _ _ => c.ledger.localTick.toNat + 1 < 2 ^ 64
  | .advance t => ∀ tick ∈ (c.pc t).tick?, ∀ u, ∀ other ∈ (c.pc u).tick?, tick ≤ other

section Invariant

/-- The entries that have been linked, in the order of their links, against the state. -/
structure Inv (c : SharedLedger n) (chain : List TickLedgerEntry) : Prop where
  linked : Linked TickLedgerEntry.prevEntryHash TickLedgerEntry.eventHash none chain
  ticks : chain.map (fun entry => entry.tick.toNat) = List.range chain.length
  head : c.ledger.lastEntryHash = tip TickLedgerEntry.eventHash none chain
  drawn : chain.length ≤ c.ledger.localTick.toNat
  waiting : ∀ t, ∀ tick ∈ (c.pc t).tick?,
    chain.length ≤ tick.toNat ∧ tick.toNat < c.ledger.localTick.toNat
  apart : ∀ t u, ∀ tick ∈ (c.pc t).tick?, tick ∈ (c.pc u).tick? → t = u
  held : ∀ k, chain.length ≤ k → k < c.ledger.localTick.toNat →
    ∃ t, ∃ tick ∈ (c.pc t).tick?, tick.toNat = k
  nodup : c.ledger.rows.Nodup
  mem : ∀ entry, entry ∈ chain ↔ entry ∈ c.ledger.rows ∨ ∃ t, entry ∈ (c.pc t).linked?
  unstored : ∀ t, ∀ entry ∈ (c.pc t).linked?, entry ∉ c.ledger.rows
  single : ∀ t u, ∀ entry ∈ (c.pc t).linked?, entry ∈ (c.pc u).linked? → t = u

variable {hash jcs} {c : SharedLedger n} {chain : List TickLedgerEntry} {t : Fin n}
  {entry : TickLedgerEntry}

theorem Inv.tick_lt (h : c.Inv chain) (hmem : entry ∈ chain) : entry.tick.toNat < chain.length := by
  have htick : entry.tick.toNat ∈ chain.map fun entry => entry.tick.toNat :=
    List.mem_map_of_mem hmem
  rw [h.ticks] at htick
  exact List.mem_range.mp htick

theorem Inv.settled (h : c.Inv chain) : c.Settled := by
  intro hquiet
  have hmem : ∀ entry, entry ∈ c.ledger.rows ↔ entry ∈ chain := by
    intro entry
    rw [h.mem]
    refine ⟨.inl, ?_⟩
    rintro (hrow | ⟨t, ht⟩)
    · exact hrow
    · rw [(hquiet t).2] at ht
      cases ht
  have hticks : (chain.map fun entry => entry.tick.toNat).Pairwise (· < ·) := by
    rw [h.ticks]
    exact List.pairwise_lt_range
  have hsorted : chain.Pairwise fun a b => a.tick.toNat < b.tick.toNat :=
    List.pairwise_map.mp hticks
  have hnodup : chain.Nodup := hsorted.imp fun hlt heq => by
    rw [heq] at hlt
    exact lt_irrefl _ hlt
  have hperm : c.ledger.rows.Perm chain := (List.perm_ext_iff_of_nodup h.nodup hnodup).mpr hmem
  have horder : inTickOrder c.ledger.rows = chain := sortBy_eq_of_perm hsorted hperm
  refine ⟨?_, ?_⟩
  · rw [horder, h.ticks, hperm.length_eq]
  · unfold Chained
    rw [horder]
    exact h.linked

theorem Inv.begin (h : c.Inv chain) (hidle : c.pc t = .idle) (call : Recording)
    (hwrap : c.ledger.localTick.toNat + 1 < 2 ^ 64) :
    (c.goto t (.ticked c.ledger.localTick call)
      { c.ledger with localTick := c.ledger.localTick + 1 }).Inv chain := by
  have hsucc : (c.ledger.localTick + 1).toNat = c.ledger.localTick.toNat + 1 := by
    have hmod : (c.ledger.localTick + 1).toNat = (c.ledger.localTick.toNat + 1) % 2 ^ 64 := by simp
    omega
  obtain ⟨⟩ := h
  constructor <;> simp only [goto, Function.update_apply, Option.mem_def] at *
  all_goals grind [RecordPc.tick?, RecordPc.linked?]

theorem Inv.tick_eq (h : c.Inv chain) {tick : UInt64} (ht : tick ∈ (c.pc t).tick?)
    (hmin : ∀ u, ∀ other ∈ (c.pc u).tick?, tick ≤ other) : tick.toNat = chain.length := by
  obtain ⟨hlow, hhigh⟩ := h.waiting t tick ht
  obtain ⟨u, other, hu, hother⟩ := h.held chain.length le_rfl (by omega)
  have hle := UInt64.le_iff_toNat_le.mp (hmin u other hu)
  omega

theorem Inv.link (h : c.Inv chain) {tick : UInt64} {call : Recording}
    (hpc : c.pc t = .ticked tick call)
    (hmin : ∀ u, ∀ other ∈ (c.pc u).tick?, tick ≤ other) :
    ∃ entry, (c.advance hash jcs t).Inv (chain ++ [entry]) := by
  have htick : tick ∈ (c.pc t).tick? := by rw [hpc]; rfl
  have hnext : tick.toNat = chain.length := h.tick_eq htick hmin
  obtain ⟨entryHash, entry, hadvance, hentryTick, hprev⟩ : ∃ entryHash entry,
      c.advance hash jcs t = c.goto t (.linked entryHash entry)
        { c.ledger with lastEntryHash := some entry.eventHash } ∧
      entry.tick = tick ∧ entry.prevEntryHash = c.ledger.lastEntryHash := by
    simp only [advance, hpc]
    exact ⟨_, _, rfl, rfl, rfl⟩
  have hnew : entry ∉ chain := by
    intro hmem
    have hless := h.tick_lt hmem
    rw [hentryTick] at hless
    omega
  have hlinked := h.linked.concat (hprev.trans h.head)
  have hother : ∀ u, u ≠ t → ∀ other, (c.pc u).tick? = some other → other.toNat ≠ chain.length := by
    intro u hut other hu heq
    have hsame : other = tick := UInt64.toNat_inj.mp (heq.trans hnext.symm)
    exact hut (h.apart u t tick (hsame ▸ hu) htick)
  rw [hadvance]
  refine ⟨entry, ?_⟩
  obtain ⟨⟩ := h
  constructor <;> simp only [goto, Function.update_apply, Option.mem_def, List.mem_append,
    List.mem_singleton, List.length_append, List.length_singleton] at *
  case linked => exact hlinked
  case ticks => simp_all [List.range_succ]
  case head => rw [tip_concat]
  all_goals grind [RecordPc.tick?, RecordPc.linked?]

theorem Inv.store (h : c.Inv chain) {entryHash : B3Hash}
    (hpc : c.pc t = .linked entryHash entry) : (c.advance hash jcs t).Inv chain := by
  have hentry : entry ∈ (c.pc t).linked? := by rw [hpc]; rfl
  have hnot := h.unstored t entry hentry
  simp only [advance, hpc]
  obtain ⟨⟩ := h
  constructor <;> simp only [goto, Function.update_apply, Option.mem_def, List.mem_append,
    List.mem_singleton] at *
  all_goals grind [RecordPc.tick?, RecordPc.linked?]

theorem Inv.finish (h : c.Inv chain) {entryHash : B3Hash}
    (hpc : c.pc t = .stored entryHash entry) : (c.advance hash jcs t).Inv chain := by
  simp only [advance, hpc]
  obtain ⟨⟩ := h
  constructor <;> simp only [goto, Function.update_apply, Option.mem_def] at *
  all_goals grind [RecordPc.tick?, RecordPc.linked?, cacheEntry]

theorem inv_step {a : RecordAction n} (h : ∃ chain, c.Inv chain) (ha : c.InOrder a) :
    ∃ chain, (c.step hash jcs a).Inv chain := by
  obtain ⟨chain, h⟩ := h
  cases a with
  | begin t call =>
    simp only [step]
    split
    · exact ⟨chain, h.begin ‹_› call ha⟩
    · exact ⟨chain, h⟩
  | advance t =>
    change ∃ chain, (c.advance hash jcs t).Inv chain
    cases hpc : c.pc t with
    | idle => exact ⟨chain, by simpa only [advance, hpc] using h⟩
    | ticked tick call =>
      obtain ⟨entry, hentry⟩ : ∃ entry, (c.advance hash jcs t).Inv (chain ++ [entry]) :=
        h.link hpc (ha tick (by rw [hpc]; rfl))
      exact ⟨_, hentry⟩
    | linked entryHash entry => exact ⟨chain, h.store hpc⟩
    | stored entryHash entry => exact ⟨chain, h.finish hpc⟩

theorem inv_new (tenantId hostId : String) (useDeterministicTimestamps : Bool) :
    (new n tenantId hostId useDeterministicTimestamps).Inv [] := by
  constructor <;> simp [new, GlobalTickLedger.new, RecordPc.tick?, RecordPc.linked?, tip, Linked]

end Invariant

/-- Any number of threads and calls: as long as entries are linked in the order of their ticks, the
rows form a chain whenever no call is under way. -/
theorem inOrder_settled (tenantId hostId : String) (useDeterministicTimestamps : Bool)
    (actions : List (RecordAction n))
    (hactions : Guarded (step hash jcs) InOrder (new n tenantId hostId useDeterministicTimestamps)
      actions) :
    Always (step hash jcs) Settled (new n tenantId hostId useDeterministicTimestamps) actions :=
  always_of_guarded (I := fun c => ∃ chain, Inv c chain) (fun _ _ => inv_step)
    (fun _ ⟨_, h⟩ => h.settled) ⟨[], inv_new tenantId hostId useDeterministicTimestamps⟩ hactions

instance (c : SharedLedger n) : Decidable c.Settled :=
  inferInstanceAs (Decidable ((∀ t, (c.pc t).tick? = none ∧ (c.pc t).linked? = none) → _ ∧ _))

instance (c : SharedLedger n) : (a : RecordAction n) → Decidable (c.InOrder a)
  | .begin _ _ => inferInstanceAs (Decidable (_ < _))
  | .advance t =>
    -- over the waiting ticks only: `UInt64` is itself finite, and far too large to enumerate
    have (tick : UInt64) (u : Fin n) : Decidable (∀ other ∈ (c.pc u).tick?, tick ≤ other) :=
      Option.decidableForallMem _
    Option.decidableForallMem (c.pc t).tick?

/-- Two calls draw their ticks, `first` links its entry before `second`, and both insert. -/
def twoCalls (first second : Fin 2) : List (RecordAction 2) :=
  [.begin p₀ (sampleCall none), .begin p₁ (sampleCall none), .advance first, .advance second,
    .advance p₁, .advance p₀]

theorem linkedByTick_settled :
    Always (step digitHash fun _ => []) Settled (new 2 "test-tenant" "test-host" true)
      (twoCalls p₀ p₁) :=
  inOrder_settled digitHash (fun _ => []) "test-tenant" "test-host" true (twoCalls p₀ p₁)
    (by decide)

/-- The thread with tick 1 takes the lock first: the entry with tick 0 gets a predecessor and the
one with tick 1 has none. -/
theorem linkedLate_unsettled :
    ∃ first second, (run (step digitHash fun _ => []) (new 2 "test-tenant" "test-host" true)
        (twoCalls p₁ p₀)).ledger.rows = [second, first] ∧
      first.tick = 0 ∧ first.prevEntryHash = some second.eventHash ∧
      second.tick = 1 ∧ second.prevEntryHash = none ∧
      ¬ Settled (run (step digitHash fun _ => []) (new 2 "test-tenant" "test-host" true)
        (twoCalls p₁ p₀)) := by
  refine ⟨_, _, rfl, rfl, rfl, rfl, rfl, ?_⟩
  decide

end SharedLedger

end AdapterOS.Exec
