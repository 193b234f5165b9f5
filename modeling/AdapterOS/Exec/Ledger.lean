import AdapterOS.Exec.Executor
import AdapterOS.Library.Chain
import AdapterOS.Library.Ranking

/-! The global tick ledger: events recorded under consecutive ticks, each entry with the hash of the
event before it, and the table they are stored in. -/
namespace AdapterOS.Exec

open Library

structure TickLedgerEntry where
  tick : UInt64
  tenantId : String
  hostId : String
  taskId : TaskId
  eventType : String
  eventHash : B3Hash
  timestampUs : UInt64
  prevEntryHash : Option B3Hash
  deriving DecidableEq

def ExecutorEvent.eventType : ExecutorEvent → String
  | .taskSpawned .. => "TaskSpawned"
  | .taskCompleted .. => "TaskCompleted"
  | .taskFailed .. => "TaskFailed"
  | .taskTimeout .. => "TaskTimeout"
  | .inferenceStarted .. => "InferenceStarted"
  | .tickAdvanced .. => "TickAdvanced"

/-- `rows` is the table of the database, in the order of the inserts. -/
structure GlobalTickLedger where
  localTick : UInt64
  tenantId : String
  hostId : String
  entries : List TickLedgerEntry
  maxCacheSize : Nat
  lastEntryHash : Option B3Hash
  useDeterministicTimestamps : Bool
  rows : List TickLedgerEntry

/-- The arguments of a call, the wall clock it reads and, if its insert fails, the error. -/
structure Recording where
  taskId : TaskId
  event : ExecutorEvent
  now : UInt64 := 0
  failure : Option String := none

namespace GlobalTickLedger

variable (hash : List UInt8 → B3Hash) (jcs : ExecutorEvent → List UInt8)

def new (tenantId hostId : String) (useDeterministicTimestamps : Bool) : GlobalTickLedger :=
  ⟨0, tenantId, hostId, [], 1000, none, useDeterministicTimestamps, []⟩

def eventMessage (tick : UInt64) (taskId : TaskId) (event : ExecutorEvent) : List UInt8 :=
  le64 tick ++ taskId.asBytes ++ jcs event

def computeEventHash (tick : UInt64) (taskId : TaskId) (event : ExecutorEvent) : B3Hash :=
  hash (eventMessage jcs tick taskId event)

def entryMessage (eventHash : B3Hash) (prevHash : Option B3Hash) : List UInt8 :=
  (prevHash.map B3Hash.asBytes).getD [] ++ eventHash.asBytes

def computeEntryHash (eventHash : B3Hash) (prevHash : Option B3Hash) : B3Hash :=
  hash (entryMessage eventHash prevHash)

/-- The critical section of `last_entry_hash`: the entry, its hash, and the new head, which is the
event's hash. -/
def linkEntry (l : GlobalTickLedger) (tick : UInt64) (call : Recording) :
    B3Hash × TickLedgerEntry × GlobalTickLedger :=
  let timestampUs := if l.useDeterministicTimestamps then tick * 1000 else call.now
  let eventHash := computeEventHash hash jcs tick call.taskId call.event
  (computeEntryHash hash eventHash l.lastEntryHash,
    ⟨tick, l.tenantId, l.hostId, call.taskId, call.event.eventType, eventHash, timestampUs,
      l.lastEntryHash⟩,
    { l with lastEntryHash := some eventHash })

/-- A failed transaction leaves the table as it was. -/
def storeEntry (l : GlobalTickLedger) (entry : TickLedgerEntry) (failure : Option String) :
    Except AosError GlobalTickLedger :=
  match failure with
  | some error => .error (.database ("Failed to store ledger entry: " ++ error))
  | none => .ok { l with rows := l.rows ++ [entry] }

def cacheEntry (l : GlobalTickLedger) (entry : TickLedgerEntry) : GlobalTickLedger :=
  let entries := l.entries ++ [entry]
  { l with entries := entries.drop (entries.length - l.maxCacheSize) }

def recordTickWithAssignedTick (l : GlobalTickLedger) (tick : UInt64) (call : Recording) :
    Except AosError B3Hash × GlobalTickLedger :=
  let (entryHash, entry, linked) := l.linkEntry hash jcs tick call
  match linked.storeEntry entry call.failure with
  | .error error => (.error error, linked)
  | .ok stored => (.ok entryHash, stored.cacheEntry entry)

def recordTick (l : GlobalTickLedger) (call : Recording) :
    Except AosError B3Hash × GlobalTickLedger :=
  { l with localTick := l.localTick + 1 }.recordTickWithAssignedTick hash jcs l.localTick call

/-- `saturating_add`, then `fetch_max`. -/
def recordTickAt (l : GlobalTickLedger) (tick : UInt64) (call : Recording) :
    Except AosError B3Hash × GlobalTickLedger :=
  let next := if tick.toNat + 1 < 2 ^ 64 then tick + 1 else tick
  { l with localTick := max l.localTick next }.recordTickWithAssignedTick hash jcs tick call

def inTickOrder (rows : List TickLedgerEntry) : List TickLedgerEntry :=
  sortBy (fun entry => entry.tick.toNat) rows

/-- In the order of ticks, every entry names the event before it and the first one names none. -/
def Chained (rows : List TickLedgerEntry) : Prop :=
  Linked TickLedgerEntry.prevEntryHash TickLedgerEntry.eventHash none (inTickOrder rows)

instance (rows : List TickLedgerEntry) : Decidable (Chained rows) :=
  inferInstanceAs (Decidable (Linked _ _ _ _))

section Spec

variable {hash jcs} {l : GlobalTickLedger} {call : Recording} (tick : UInt64)

theorem recordTickWithAssignedTick_spec :
    (l.recordTickWithAssignedTick hash jcs tick call).2.localTick = l.localTick ∧
    (l.recordTickWithAssignedTick hash jcs tick call).2.lastEntryHash =
      some (computeEventHash hash jcs tick call.taskId call.event) ∧
    (l.recordTickWithAssignedTick hash jcs tick call).2.rows = l.rows ++
      if call.failure = none then [(l.linkEntry hash jcs tick call).2.1] else [] := by
  cases hfail : call.failure with
  | none => simp [recordTickWithAssignedTick, storeEntry, cacheEntry, linkEntry, hfail]
  | some error => simp [recordTickWithAssignedTick, storeEntry, linkEntry, hfail]

theorem recordTickWithAssignedTick_ok {entryHash : B3Hash}
    (h : (l.recordTickWithAssignedTick hash jcs tick call).1 = .ok entryHash) :
    entryHash = computeEntryHash hash (computeEventHash hash jcs tick call.taskId call.event)
      l.lastEntryHash := by
  grind [recordTickWithAssignedTick, linkEntry]

end Spec

section Sequential

def records (l : GlobalTickLedger) (calls : List Recording) : GlobalTickLedger :=
  run (fun l call => (l.recordTick hash jcs call).2) l calls

def eventMessages (tick : UInt64) : List Recording → List (List UInt8)
  | [] => []
  | call :: calls => eventMessage jcs tick call.taskId call.event :: eventMessages (tick + 1) calls

def eventHashes (tick : UInt64) (calls : List Recording) : List B3Hash :=
  (eventMessages jcs tick calls).map hash

/-- The rows that the calls add to the table. -/
def addedRows (l : GlobalTickLedger) : List Recording → List TickLedgerEntry
  | [] => []
  | call :: calls =>
    (if call.failure = none then [(l.linkEntry hash jcs l.localTick call).2.1] else []) ++
      addedRows (l.recordTick hash jcs call).2 calls

variable {hash jcs} {l : GlobalTickLedger} {call : Recording} {calls : List Recording}
  {tick : UInt64}

theorem recordTick_spec : (l.recordTick hash jcs call).2.localTick = l.localTick + 1 ∧
    (l.recordTick hash jcs call).2.lastEntryHash =
      some (computeEventHash hash jcs l.localTick call.taskId call.event) ∧
    (l.recordTick hash jcs call).2.rows = l.rows ++
      if call.failure = none then [(l.linkEntry hash jcs l.localTick call).2.1] else [] :=
  recordTickWithAssignedTick_spec (l := { l with localTick := l.localTick + 1 }) l.localTick

theorem records_rows : (l.records hash jcs calls).rows = l.rows ++ l.addedRows hash jcs calls := by
  induction calls generalizing l with
  | nil => simp [records, addedRows]
  | cons call calls ih =>
    obtain ⟨_, _, hrows⟩ := @recordTick_spec hash jcs l call
    have hrest : (l.records hash jcs (call :: calls)).rows =
        ((l.recordTick hash jcs call).2.records hash jcs calls).rows := rfl
    rw [hrest, ih, hrows, addedRows, List.append_assoc]

theorem fits_succ {next : Recording}
    (hwrap : tick.toNat + (call :: next :: calls).length ≤ 2 ^ 64) :
    (tick + 1).toNat = tick.toNat + 1 ∧ (tick + 1).toNat + (next :: calls).length ≤ 2 ^ 64 := by
  have hmod : (tick + 1).toNat = (tick.toNat + 1) % 2 ^ 64 := by simp
  simp only [List.length_cons] at hwrap ⊢
  omega

theorem le_of_mem_addedRows {row : TickLedgerEntry}
    (hwrap : l.localTick.toNat + calls.length ≤ 2 ^ 64) (hrow : row ∈ l.addedRows hash jcs calls) :
    l.localTick.toNat ≤ row.tick.toNat := by
  induction calls generalizing l with
  | nil => simp [addedRows] at hrow
  | cons call calls ih =>
    obtain ⟨htick, _, _⟩ := @recordTick_spec hash jcs l call
    rcases List.mem_append.mp hrow with hhead | htail
    · split at hhead
      · rw [List.mem_singleton.mp hhead]
        exact le_rfl
      · simp at hhead
    · cases calls with
      | nil => simp [addedRows] at htail
      | cons next calls => grind [fits_succ]

theorem pairwise_addedRows (hwrap : l.localTick.toNat + calls.length ≤ 2 ^ 64) :
    (l.addedRows hash jcs calls).Pairwise fun a b => a.tick.toNat ≤ b.tick.toNat := by
  induction calls generalizing l with
  | nil => exact .nil
  | cons call calls ih =>
    obtain ⟨htick, _, _⟩ := @recordTick_spec hash jcs l call
    cases calls with
    | nil =>
      simp only [addedRows, List.append_nil]
      split <;> simp
    | cons next calls =>
      obtain ⟨hsucc, hwrap'⟩ := fits_succ hwrap
      rw [← htick] at hwrap'
      refine List.pairwise_append.mpr ⟨by split <;> simp, ih hwrap', ?_⟩
      intro a ha b hb
      split at ha
      · have hle := le_of_mem_addedRows hwrap' hb
        rw [htick, hsucc] at hle
        rw [List.mem_singleton.mp ha]
        exact Nat.le_of_succ_le hle
      · simp at ha

theorem mem_eventMessages {message : List UInt8}
    (hwrap : tick.toNat + calls.length ≤ 2 ^ 64) (hm : message ∈ eventMessages jcs tick calls) :
    ∃ (later : UInt64) (rest : List UInt8), message = le64 later ++ rest ∧
      tick.toNat ≤ later.toNat := by
  induction calls generalizing tick with
  | nil => simp [eventMessages] at hm
  | cons call calls ih =>
    rcases List.mem_cons.mp hm with rfl | htail
    · exact ⟨tick, call.taskId.asBytes ++ jcs call.event, by simp [eventMessage], le_rfl⟩
    · cases calls with
      | nil => simp [eventMessages] at htail
      | cons next calls => grind [fits_succ]

theorem nodup_eventMessages (hwrap : tick.toNat + calls.length ≤ 2 ^ 64) :
    (eventMessages jcs tick calls).Nodup := by
  induction calls generalizing tick with
  | nil => simp [eventMessages]
  | cons call calls ih =>
    cases calls with
    | nil => simp [eventMessages]
    | cons next calls =>
      obtain ⟨hsucc, hwrap'⟩ := fits_succ hwrap
      refine List.nodup_cons.mpr ⟨?_, ih hwrap'⟩
      intro hmem
      obtain ⟨later, rest, hmessage, hle⟩ := mem_eventMessages hwrap' hmem
      rw [eventMessage, List.append_assoc] at hmessage
      have hsame : tick = later := le64_inj.mp (List.append_inj hmessage (by simp)).1
      rw [← hsame] at hle
      omega

theorem linked_addedRows_of_lost {p : Option B3Hash} (hhead : l.lastEntryHash ≠ p)
    (hnew : ∀ d ∈ eventHashes hash jcs l.localTick calls, some d ≠ p) :
    Linked TickLedgerEntry.prevEntryHash TickLedgerEntry.eventHash p (l.addedRows hash jcs calls) ↔
      ∀ call ∈ calls, call.failure ≠ none := by
  induction calls generalizing l with
  | nil => simp [addedRows]
  | cons call calls ih =>
    obtain ⟨htick, hlast, _⟩ := @recordTick_spec hash jcs l call
    simp only [eventHashes, eventMessages, List.map_cons, List.mem_cons] at hnew
    have hrest := @ih (l.recordTick hash jcs call).2 (by rw [hlast]; exact hnew _ (.inl rfl))
      (by rw [htick]; exact fun d hd => hnew d (.inr hd))
    by_cases hok : call.failure = none
    · simp only [addedRows, hok, if_true, List.singleton_append, linked_cons, List.mem_cons]
      constructor
      · intro h
        exact absurd h.1 hhead
      · intro h
        exact absurd hok (h call (.inl rfl))
    · simp [addedRows, hok, hrest]

theorem linked_addedRows_iff
    (hnew : ∀ d ∈ eventHashes hash jcs l.localTick calls, some d ≠ l.lastEntryHash)
    (hdistinct : (eventHashes hash jcs l.localTick calls).Nodup) :
    Linked TickLedgerEntry.prevEntryHash TickLedgerEntry.eventHash l.lastEntryHash
        (l.addedRows hash jcs calls) ↔
      calls.Pairwise fun earlier later => later.failure = none → earlier.failure = none := by
  induction calls generalizing l with
  | nil => simp [addedRows]
  | cons call calls ih =>
    obtain ⟨htick, hlast, _⟩ := @recordTick_spec hash jcs l call
    simp only [eventHashes, eventMessages, List.map_cons, List.mem_cons] at hnew
    simp only [eventHashes, eventMessages, List.map_cons, List.nodup_cons] at hdistinct
    have hfresh : ∀ d ∈ eventHashes hash jcs (l.localTick + 1) calls,
        some d ≠ some (computeEventHash hash jcs l.localTick call.taskId call.event) := by
      intro d hd heq
      rw [Option.some.inj heq] at hd
      exact hdistinct.1 hd
    rw [List.pairwise_cons]
    by_cases hok : call.failure = none
    · have hrest := @ih (l.recordTick hash jcs call).2
        (by rw [htick, hlast]; exact hfresh) (by rw [htick]; exact hdistinct.2)
      grind [addedRows, linked_cons, linkEntry]
    · have hrest := @linked_addedRows_of_lost hash jcs (l.recordTick hash jcs call).2 calls
        l.lastEntryHash (by rw [hlast]; exact hnew _ (.inl rfl))
        (by rw [htick]; exact fun d hd => hnew d (.inr hd))
      grind [addedRows, List.pairwise_of_forall_mem_list]

/-- Calls one after another on a new ledger: the stored entries form a chain exactly if no insert
succeeds after one that failed. The counter is not driven through its whole width. -/
theorem records_chained_iff (tenantId hostId : String) (useDeterministicTimestamps : Bool)
    (calls : List Recording) (hwrap : calls.length ≤ 2 ^ 64)
    (hfree : CollisionFree hash (eventMessages jcs 0 calls)) :
    Chained ((new tenantId hostId useDeterministicTimestamps).records hash jcs calls).rows ↔
      calls.Pairwise fun earlier later => later.failure = none → earlier.failure = none := by
  have hfits : (new tenantId hostId useDeterministicTimestamps).localTick.toNat + calls.length ≤
      2 ^ 64 := by
    change 0 + calls.length ≤ 2 ^ 64
    omega
  have hdistinct : (eventHashes hash jcs 0 calls).Nodup :=
    (nodup_eventMessages hfits).map_on fun a ha b hb heq => hfree ha hb heq
  unfold Chained inTickOrder
  rw [records_rows]
  change Linked _ _ none (sortBy _ ([] ++ _)) ↔ _
  rw [List.nil_append, sortBy_eq_self (pairwise_addedRows hfits)]
  exact linked_addedRows_iff (l := new tenantId hostId useDeterministicTimestamps)
    (fun d _ heq => by cases heq) hdistinct

def sampleCall (failure : Option String) : Recording :=
  { taskId := 0, event := .tickAdvanced 0 1 none 0, failure := failure }

/-- Two entries, and a last one that is lost. -/
theorem lastLost_chained :
    Chained ((new "test-tenant" "test-host" true).records digitHash (fun _ => [])
      [sampleCall none, sampleCall none, sampleCall (some "disk full")]).rows :=
  (records_chained_iff "test-tenant" "test-host" true
    [sampleCall none, sampleCall none, sampleCall (some "disk full")] (by decide)
    (by decide)).mpr (by simp [sampleCall])

/-- The entry after a lost one names an event that was never stored. -/
theorem lost_not_chained : CollisionFree digitHash (eventMessages (fun _ => []) 0
      [sampleCall none, sampleCall (some "disk full"), sampleCall none]) ∧
    ∃ first second, ((new "test-tenant" "test-host" true).records digitHash (fun _ => [])
        [sampleCall none, sampleCall (some "disk full"), sampleCall none]).rows = [first, second] ∧
      first.tick = 0 ∧ second.tick = 2 ∧ second.prevEntryHash ≠ some first.eventHash ∧
      ¬ Chained [first, second] := by
  refine ⟨by decide, _, _, rfl, rfl, rfl, ?_, ?_⟩
  · decide
  · decide

end Sequential

section History

/-- A call with the tick that is assigned to it. -/
abbrev Assigned := UInt64 × Recording

def recordsAt (l : GlobalTickLedger) (calls : List Assigned) : GlobalTickLedger :=
  run (fun l call => (l.recordTickAt hash jcs call.1 call.2).2) l calls

def eventHashAt (call : Assigned) : B3Hash :=
  computeEventHash hash jcs call.1 call.2.taskId call.2.event

/-- Everything that is hashed while the calls are recorded: the event and the entry of each. -/
def hashedMessages (l : GlobalTickLedger) : List Assigned → List (List UInt8)
  | [] => []
  | call :: calls =>
    eventMessage jcs call.1 call.2.taskId call.2.event ::
      entryMessage (eventHashAt hash jcs call) l.lastEntryHash ::
      hashedMessages (l.recordTickAt hash jcs call.1 call.2).2 calls

variable {hash jcs} {l : GlobalTickLedger}

theorem recordTickAt_lastEntryHash (call : Assigned) :
    (l.recordTickAt hash jcs call.1 call.2).2.lastEntryHash = some (eventHashAt hash jcs call) :=
  (recordTickWithAssignedTick_spec call.1).2.1

theorem recordTickAt_ok {call : Assigned} {entryHash : B3Hash}
    (h : (l.recordTickAt hash jcs call.1 call.2).1 = .ok entryHash) :
    entryHash = hash (entryMessage (eventHashAt hash jcs call) l.lastEntryHash) :=
  (recordTickWithAssignedTick_ok _ h :)

theorem recordsAt_lastEntryHash (calls : List Assigned) :
    (l.recordsAt hash jcs calls).lastEntryHash =
      tip (eventHashAt hash jcs) l.lastEntryHash calls := by
  induction calls generalizing l with
  | nil => rfl
  | cons call calls ih =>
    rw [tip_cons, ← recordTickAt_lastEntryHash call]
    exact ih

theorem entryMessage_mem (calls : List Assigned) (last : Assigned) :
    entryMessage (eventHashAt hash jcs last) (l.recordsAt hash jcs calls).lastEntryHash ∈
      l.hashedMessages hash jcs (calls ++ [last]) := by
  induction calls generalizing l with
  | nil => simp [hashedMessages, recordsAt]
  | cons call calls ih => exact List.mem_cons_of_mem _ (List.mem_cons_of_mem _ ih)

theorem entryMessage_inj {d e : B3Hash} {p q : Option B3Hash} :
    entryMessage d p = entryMessage e q ↔ d = e ∧ p = q := by
  constructor
  · intro h
    obtain ⟨hprev, hevent⟩ := List.append_inj' h (by simp)
    refine ⟨B3Hash.asBytes_inj.mp hevent, ?_⟩
    cases p with
    | none =>
      cases q with
      | none => rfl
      | some b => simpa using congrArg List.length hprev
    | some a =>
      cases q with
      | none => simpa using congrArg List.length hprev
      | some b => exact congrArg some (B3Hash.asBytes_inj.mp hprev)
  · rintro ⟨rfl, rfl⟩
    rfl

/-- Two new ledgers whose last calls return the same entry hash, at whatever ticks, recorded the
same last event hash and, before it, the same one or none. -/
theorem lastEntryHash_binds (tenant₁ host₁ tenant₂ host₂ : String) (flag₁ flag₂ : Bool)
    (calls₁ calls₂ : List Assigned) (last₁ last₂ : Assigned) (entryHash : B3Hash)
    (h₁ : (((new tenant₁ host₁ flag₁).recordsAt hash jcs calls₁).recordTickAt hash jcs last₁.1
      last₁.2).1 = .ok entryHash)
    (h₂ : (((new tenant₂ host₂ flag₂).recordsAt hash jcs calls₂).recordTickAt hash jcs last₂.1
      last₂.2).1 = .ok entryHash)
    (hfree : CollisionFree hash
      ((new tenant₁ host₁ flag₁).hashedMessages hash jcs (calls₁ ++ [last₁]) ++
        (new tenant₂ host₂ flag₂).hashedMessages hash jcs (calls₂ ++ [last₂]))) :
    eventHashAt hash jcs last₁ = eventHashAt hash jcs last₂ ∧
      (calls₁.map (eventHashAt hash jcs)).getLast? =
        (calls₂.map (eventHashAt hash jcs)).getLast? := by
  have hmem₁ := @entryMessage_mem hash jcs (new tenant₁ host₁ flag₁) calls₁ last₁
  have hmem₂ := @entryMessage_mem hash jcs (new tenant₂ host₂ flag₂) calls₂ last₂
  have hsame := (hfree.eq_iff (List.mem_append_left _ hmem₁) (List.mem_append_right _ hmem₂)).mp
    ((recordTickAt_ok h₁).symm.trans (recordTickAt_ok h₂))
  grind [entryMessage_inj, new, recordsAt_lastEntryHash, List.getLast?_map, tip]

def sampleJcs : ExecutorEvent → List UInt8
  | .taskSpawned _ description _ _ _ => utf8 description
  | _ => []

def spawnAt (tick : UInt64) (description : String) : Assigned :=
  (tick, { taskId := 0, event := .taskSpawned 0 description 0 none 0 })

set_option maxRecDepth 1000

/-- Three events each, the first ones different. -/
theorem lastTwo_bound : eventHashAt digitHash sampleJcs (spawnAt 2 "c") =
        eventHashAt digitHash sampleJcs (spawnAt 2 "c") ∧
      ([spawnAt 0 "a", spawnAt 1 "b"].map (eventHashAt digitHash sampleJcs)).getLast? =
        ([spawnAt 0 "x", spawnAt 1 "b"].map (eventHashAt digitHash sampleJcs)).getLast? :=
  lastEntryHash_binds "tenant" "host-a" "tenant" "host-b" true true
    [spawnAt 0 "a", spawnAt 1 "b"] [spawnAt 0 "x", spawnAt 1 "b"] (spawnAt 2 "c") (spawnAt 2 "c") _
    rfl rfl (by decide)

/-- Three events at the ticks 0, 1 and 2: the ledgers differ in the first one only, and the third
call returns the same in both. -/
theorem firstEvent_unbound : ∃ calls₁ calls₂ : List Assigned, ∃ last : Assigned,
      (calls₁ ++ [last]).map Prod.fst = [0, 1, 2] ∧ (calls₂ ++ [last]).map Prod.fst = [0, 1, 2] ∧
      CollisionFree digitHash
        ((new "tenant" "host-a" true).hashedMessages digitHash sampleJcs (calls₁ ++ [last]) ++
          (new "tenant" "host-b" true).hashedMessages digitHash sampleJcs (calls₂ ++ [last])) ∧
      (∃ entryHash,
        (((new "tenant" "host-a" true).recordsAt digitHash sampleJcs calls₁).recordTickAt digitHash
          sampleJcs last.1 last.2).1 = .ok entryHash ∧
        (((new "tenant" "host-b" true).recordsAt digitHash sampleJcs calls₂).recordTickAt digitHash
          sampleJcs last.1 last.2).1 = .ok entryHash) ∧
      (calls₁ ++ [last]).map (eventHashAt digitHash sampleJcs) ≠
        (calls₂ ++ [last]).map (eventHashAt digitHash sampleJcs) := by
  refine ⟨[spawnAt 0 "a", spawnAt 1 "b"], [spawnAt 0 "x", spawnAt 1 "b"], spawnAt 2 "c", rfl, rfl,
    by decide, ⟨_, rfl, ?_⟩, by decide⟩
  rfl

end History

end GlobalTickLedger

end AdapterOS.Exec
