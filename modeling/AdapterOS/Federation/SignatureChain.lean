import AdapterOS.Core.Hex
import AdapterOS.Library.Ranking
import AdapterOS.Library.Run
import Mathlib.Data.List.Chain

/-! Signatures of several hosts over one telemetry bundle, in a database that the hosts share, and
the verification of the chain that they form. -/
namespace AdapterOS.Federation

open Library

/-- The fields that a signature names; the payload has all of them. -/
structure StoredBundleMetadata where
  merkleRoot : B3Hash
  prevBundleHash : Option B3Hash
  deriving DecidableEq

/-- The texts of times. -/
structure DateTimeFormat (τ : Type*) where
  toRfc3339 : τ → String
  parseFromRfc3339 : String → Option τ
  display : τ → String

structure FederationSignature (τ : Type*) where
  id : Option String
  hostId : String
  bundleHash : String
  signature : String
  prevHostHash : Option String
  createdAt : τ
  verified : Bool
  deriving DecidableEq

/-- A row of `federation_bundle_signatures`. -/
structure SignatureRow where
  id : Option String
  hostId : String
  bundleHash : String
  signature : String
  prevHostHash : Option String
  createdAt : String
  verified : Bool
  deriving DecidableEq

structure TickLedgerEntry where
  tenantId : String
  tick : Int
  eventHash : String
  bundleHash : Option String
  federationSignature : Option String
  prevHostHash : Option String
  deriving DecidableEq

structure FederationDb where
  signatures : List SignatureRow
  ticks : List TickLedgerEntry
  deriving DecidableEq

/-- A host with its key, which is a function on payloads here. -/
structure FederationManager where
  hostId : String
  tenantId : String
  sign : List UInt8 → List UInt8

namespace FederationManager

variable {τ : Type*} (c : DateTimeFormat τ) (m : FederationManager) (db : FederationDb)

def getLatestTickHash : Option String :=
  (sortBy (fun e => -e.tick) (db.ticks.filter fun e => e.tenantId = m.tenantId)).head?.map
    TickLedgerEntry.eventHash

def linkToTickLedger (bundleHash tickHash federationSignature : String)
    (prevHostHash : Option String) : FederationDb × Except AosError Unit :=
  if db.ticks.any fun e => e.tenantId = m.tenantId ∧ e.eventHash = tickHash then
    ({ db with
        ticks := db.ticks.map fun e =>
          if e.tenantId = m.tenantId ∧ e.eventHash = tickHash then
            { e with
              bundleHash := some bundleHash
              federationSignature := some federationSignature
              prevHostHash := prevHostHash.or e.prevHostHash }
          else e }, .ok ())
  else
    (db, .error (.validation ("No tick ledger entry updated for tenant '" ++ m.tenantId ++
      "' and tick hash '" ++ tickHash ++ "'")))

/-- The row of a signature, with its time as a text. -/
def toRow (signature : FederationSignature τ) : SignatureRow where
  id := signature.id
  hostId := signature.hostId
  bundleHash := signature.bundleHash
  signature := signature.signature
  prevHostHash := signature.prevHostHash
  createdAt := c.toRfc3339 signature.createdAt
  verified := signature.verified

/-- A text that is no time is read as the present. -/
def ofRow (now : τ) (row : SignatureRow) : FederationSignature τ where
  id := row.id
  hostId := row.hostId
  bundleHash := row.bundleHash
  signature := row.signature
  prevHostHash := row.prevHostHash
  createdAt := (c.parseFromRfc3339 row.createdAt).getD now
  verified := row.verified

def storeSignature (signature : FederationSignature τ) : FederationDb × Except AosError Unit :=
  let db := { db with signatures := db.signatures ++ [toRow c signature] }
  match m.getLatestTickHash db with
  | some tickHash =>
    m.linkToTickLedger db signature.bundleHash tickHash signature.signature signature.prevHostHash
  | none => (db, .ok ())

/-- The record of a host over a bundle; its link is the bundle before. -/
def signatureOf (id : String) (now : τ) (metadata : StoredBundleMetadata) (payload : List UInt8) :
    FederationSignature τ where
  id := some id
  hostId := m.hostId
  bundleHash := metadata.merkleRoot.display
  signature := encodeHex (m.sign payload)
  prevHostHash := metadata.prevBundleHash.map B3Hash.display
  createdAt := now
  verified := false

def signBundle (serialize : StoredBundleMetadata → Except AosError (List UInt8)) (id : String)
    (now : τ) (metadata : StoredBundleMetadata) :
    FederationDb × Except AosError (FederationSignature τ) :=
  match serialize metadata with
  | .error e => (db, .error e)
  | .ok payload =>
    let record := m.signatureOf id now metadata payload
    let stored := m.storeSignature c db record
    (stored.1, stored.2.map fun _ => record)

def getSignaturesForBundle (now : τ) (bundleHash : String) : List (FederationSignature τ) :=
  (sortBy SignatureRow.createdAt (db.signatures.filter fun row => row.bundleHash = bundleHash)).map
    (ofRow c now)

/-- A record without a link passes. -/
def checkLink (prev curr : FederationSignature τ) : Except AosError Unit :=
  match curr.prevHostHash with
  | some prevHash =>
    if prevHash ≠ prev.bundleHash then
      .error (.validation ("Federation chain break: " ++ prev.hostId ++ " -> " ++ curr.hostId ++
        " (expected prev_hash: " ++ prev.bundleHash ++ ", got: " ++ prevHash ++ ")"))
    else .ok ()
  | none => .ok ()

def checkOrder [LT τ] [DecidableLT τ] (prev curr : FederationSignature τ) : Except AosError Unit :=
  if curr.createdAt < prev.createdAt then
    .error (.validation ("Federation chain timestamp violation: " ++ prev.hostId ++ " (" ++
      c.display prev.createdAt ++ ") -> " ++ curr.hostId ++ " (" ++ c.display curr.createdAt ++
      ")"))
  else .ok ()

def verifyWindows [LT τ] [DecidableLT τ] : List (FederationSignature τ) → Except AosError Unit
  | prev :: curr :: rest => do
    checkLink prev curr
    checkOrder c prev curr
    verifyWindows (curr :: rest)
  | _ => .ok ()

def verifyCrossHostChain [LT τ] [DecidableLT τ] (hostChain : List (FederationSignature τ)) :
    Except AosError Unit :=
  if hostChain.length ≤ 1 then .ok () else verifyWindows c hostChain

def verifyFederationSignaturesOnly [LT τ] [DecidableLT τ] (now : τ) (bundleHash : String) :
    Except AosError Bool :=
  let signatures := getSignaturesForBundle c db now bundleHash
  if signatures.isEmpty then .ok true else (verifyCrossHostChain c signatures).map fun _ => true

section Chains

variable {c} {prev curr : FederationSignature τ} {chain : List (FederationSignature τ)}

def Follows [LT τ] (prev curr : FederationSignature τ) : Prop :=
  (∀ h, curr.prevHostHash = some h → h = prev.bundleHash) ∧ ¬ curr.createdAt < prev.createdAt

theorem checkLink_ok :
    checkLink prev curr = .ok () ↔ ∀ h, curr.prevHostHash = some h → h = prev.bundleHash := by
  unfold checkLink
  cases curr.prevHostHash with
  | none => simp
  | some prevHash => simp

theorem checkOrder_ok [LT τ] [DecidableLT τ] :
    checkOrder c prev curr = .ok () ↔ ¬ curr.createdAt < prev.createdAt := by
  unfold checkOrder
  split_ifs with hlt
  · simp [hlt]
  · simp [hlt]

theorem verifyWindows_ok [LT τ] [DecidableLT τ] :
    verifyWindows c chain = .ok () ↔ chain.IsChain Follows := by
  induction chain with
  | nil => simp [verifyWindows]
  | cons prev chain ih =>
    cases chain with
    | nil => simp [verifyWindows]
    | cons curr rest =>
      rw [List.isChain_cons_cons, ← ih, Follows, ← checkLink_ok, ← checkOrder_ok (c := c),
        and_assoc]
      constructor
      · intro h
        obtain ⟨⟨⟩, hlink, h⟩ := bind_eq_ok.mp h
        obtain ⟨⟨⟩, horder, hrest⟩ := bind_eq_ok.mp h
        exact ⟨hlink, horder, hrest⟩
      · rintro ⟨hlink, horder, hrest⟩
        exact bind_eq_ok.mpr ⟨(), hlink, bind_eq_ok.mpr ⟨(), horder, hrest⟩⟩

theorem verifyCrossHostChain_ok [LT τ] [DecidableLT τ] :
    verifyCrossHostChain c chain = .ok () ↔ chain.IsChain Follows := by
  rw [← verifyWindows_ok (c := c), verifyCrossHostChain]
  split_ifs with hshort
  · match chain, hshort with
    | [], _ => simp [verifyWindows]
    | [_], _ => simp [verifyWindows]
  · rfl

end Chains

section Signing

variable {c m db} {serialize : StoredBundleMetadata → Except AosError (List UInt8)} {id : String}
  {now : τ} {metadata : StoredBundleMetadata} {payload : List UInt8}

theorem mem_ticks_of_latest {tickHash : String} (h : m.getLatestTickHash db = some tickHash) :
    ∃ e ∈ db.ticks, e.tenantId = m.tenantId ∧ e.eventHash = tickHash := by
  unfold getLatestTickHash at h
  rw [Option.map_eq_some_iff] at h
  obtain ⟨e, he, rfl⟩ := h
  have hmem := mem_sortBy.mp (List.mem_of_mem_head? he)
  rw [List.mem_filter, decide_eq_true_eq] at hmem
  exact ⟨e, hmem.1, hmem.2, rfl⟩

theorem storeSignature_spec (c : DateTimeFormat τ) (m : FederationManager) (db : FederationDb)
    (signature : FederationSignature τ) :
    (m.storeSignature c db signature).1.signatures = db.signatures ++ [toRow c signature] ∧
      (m.storeSignature c db signature).2 = .ok () := by
  grind [storeSignature, mem_ticks_of_latest, linkToTickLedger]

theorem signBundle_spec (hserialize : serialize metadata = .ok payload) :
    (m.signBundle c db serialize id now metadata).1.signatures =
        db.signatures ++ [toRow c (m.signatureOf id now metadata payload)] ∧
      (m.signBundle c db serialize id now metadata).2 =
        .ok (m.signatureOf id now metadata payload) := by
  obtain ⟨hrows, hresult⟩ := storeSignature_spec c m db (m.signatureOf id now metadata payload)
  unfold signBundle
  rw [hserialize]
  exact ⟨hrows, by simp only [hresult, Except.map]⟩

end Signing

end FederationManager

/-- A host that signs, with the id and the time of its record. -/
structure Signing (τ : Type*) where
  manager : FederationManager
  id : String
  time : τ

namespace Signing

open FederationManager

variable {τ : Type*} {c : DateTimeFormat τ} {db : FederationDb}
  {serialize : StoredBundleMetadata → Except AosError (List UInt8)}
  {metadata : StoredBundleMetadata} {payload : List UInt8} {signings : List (Signing τ)}

def record (metadata : StoredBundleMetadata) (payload : List UInt8) (s : Signing τ) :
    FederationSignature τ :=
  s.manager.signatureOf s.id s.time metadata payload

def step (c : DateTimeFormat τ) (serialize : StoredBundleMetadata → Except AosError (List UInt8))
    (metadata : StoredBundleMetadata) (db : FederationDb) (s : Signing τ) : FederationDb :=
  (s.manager.signBundle c db serialize s.id s.time metadata).1

theorem signatures_run (hserialize : serialize metadata = .ok payload)
    (signings : List (Signing τ)) (db : FederationDb) :
    (run (step c serialize metadata) db signings).signatures =
      db.signatures ++ signings.map fun s => toRow c (s.record metadata payload) := by
  induction signings generalizing db with
  | nil => simp
  | cons s signings ih =>
    rw [run_cons, ih, step, (signBundle_spec hserialize).1, List.append_assoc]
    rfl

theorem getSignaturesForBundle_run (hserialize : serialize metadata = .ok payload)
    (hnew : ∀ row ∈ db.signatures, row.bundleHash ≠ metadata.merkleRoot.display)
    (hparse : ∀ s ∈ signings, c.parseFromRfc3339 (c.toRfc3339 s.time) = some s.time)
    (htexts : signings.Pairwise fun s t => c.toRfc3339 s.time < c.toRfc3339 t.time) (now : τ) :
    getSignaturesForBundle c (run (step c serialize metadata) db signings) now
        metadata.merkleRoot.display = signings.map (record metadata payload) := by
  have hold : db.signatures.filter (fun row => row.bundleHash = metadata.merkleRoot.display) =
      [] := by
    rw [List.filter_eq_nil_iff]
    intro row hrow
    rw [decide_eq_true_eq]
    exact hnew row hrow
  have hall : (signings.map fun s => toRow c (s.record metadata payload)).filter
      (fun row => row.bundleHash = metadata.merkleRoot.display) =
      signings.map fun s => toRow c (s.record metadata payload) := by
    rw [List.filter_eq_self]
    intro row hrow
    obtain ⟨s, -, rfl⟩ := List.mem_map.mp hrow
    exact decide_eq_true rfl
  have hsorted : sortBy SignatureRow.createdAt
      (signings.map fun s => toRow c (s.record metadata payload)) =
      signings.map fun s => toRow c (s.record metadata payload) := by
    refine sortBy_eq_self (List.pairwise_map.mpr ?_)
    exact htexts.imp fun h => le_of_lt h
  unfold getSignaturesForBundle
  rw [signatures_run hserialize, List.filter_append, hold, hall, List.nil_append, hsorted,
    List.map_map]
  refine List.map_congr_left ?_
  intro s hs
  have htime : (c.parseFromRfc3339 (c.toRfc3339 s.time)).getD now = s.time := by
    rw [hparse s hs, Option.getD_some]
  simp only [Function.comp_apply, ofRow, toRow, record, signatureOf, htime]

/-- The records of one bundle are a chain if there is only one, if the bundle is the first, or if
it is its own predecessor. -/
theorem isChain_records [LinearOrder τ] (htimes : signings.Pairwise fun s t => s.time < t.time) :
    (signings.map (record metadata payload)).IsChain Follows ↔ signings.length ≤ 1 ∨
        ∀ h, metadata.prevBundleHash = some h → h.display = metadata.merkleRoot.display := by
  rw [List.isChain_map]
  constructor
  · intro hchain
    match signings, hchain with
    | [], _ => exact Or.inl (by simp)
    | [_], _ => exact Or.inl (by simp)
    | s :: t :: rest, hchain =>
      right
      intro h hprev
      have hlink := (List.isChain_cons_cons.mp hchain).1.1 h.display
      refine hlink ?_
      simp only [record, signatureOf, hprev, Option.map_some]
  · rintro (hshort | hself)
    · match signings, hshort with
      | [], _ => exact List.IsChain.nil
      | [_], _ => exact List.IsChain.singleton _
    · refine (htimes.isChain).imp ?_
      intro s t hlt
      refine ⟨?_, not_lt_of_gt hlt⟩
      grind [record, signatureOf, Option.map_eq_some_iff]

/-- The verifier takes what the hosts have signed just when at most one has, or the bundle has no
predecessor with another text than its own. -/
theorem honest_signatures_accepted_iff [LinearOrder τ]
    (hserialize : serialize metadata = .ok payload)
    (hnew : ∀ row ∈ db.signatures, row.bundleHash ≠ metadata.merkleRoot.display)
    (htimes : signings.Pairwise fun s t => s.time < t.time)
    (hparse : ∀ s ∈ signings, c.parseFromRfc3339 (c.toRfc3339 s.time) = some s.time)
    (htexts : ∀ s ∈ signings, ∀ t ∈ signings, s.time < t.time →
      c.toRfc3339 s.time < c.toRfc3339 t.time) (now : τ) :
    (verifyCrossHostChain c (getSignaturesForBundle c (run (step c serialize metadata) db signings)
        now metadata.merkleRoot.display) = .ok () ↔
      signings.length ≤ 1 ∨
        ∀ h, metadata.prevBundleHash = some h → h.display = metadata.merkleRoot.display) ∧
    (verifyFederationSignaturesOnly c (run (step c serialize metadata) db signings) now
        metadata.merkleRoot.display = .ok true ↔
      signings.length ≤ 1 ∨
        ∀ h, metadata.prevBundleHash = some h → h.display = metadata.merkleRoot.display) := by
  have hsorted : signings.Pairwise fun s t => c.toRfc3339 s.time < c.toRfc3339 t.time :=
    htimes.imp_of_mem fun hs ht h => htexts _ hs _ ht h
  have hquery := getSignaturesForBundle_run hserialize hnew hparse hsorted now
  have hchain : verifyCrossHostChain c (signings.map (record metadata payload)) = .ok () ↔
      signings.length ≤ 1 ∨
        ∀ h, metadata.prevBundleHash = some h → h.display = metadata.merkleRoot.display := by
    rw [verifyCrossHostChain_ok, isChain_records htimes]
  rw [hquery]
  refine ⟨hchain, ?_⟩
  rw [← hchain, verifyFederationSignaturesOnly, hquery]
  split_ifs with hempty
  · rw [List.isEmpty_iff] at hempty
    rw [hempty]
    exact iff_of_true rfl rfl
  · cases verifyCrossHostChain c (signings.map (record metadata payload)) with
    | ok _ => exact iff_of_true rfl rfl
    | error e => exact iff_of_false (by intro h; cases h) (by intro h; cases h)

/-- Seconds of one minute. -/
def secondsFormat : DateTimeFormat Nat where
  toRfc3339 n := "2026-01-01T00:00:0" ++ String.ofList [Nat.digitChar n] ++ "+00:00"
  parseFromRfc3339 text := (text.toList[18]?).map fun d => d.toNat - 48
  display n := "2026-01-01 00:00:0" ++ String.ofList [Nat.digitChar n] ++ " UTC"

def threeHosts : List (Signing Nat) :=
  [⟨⟨"host1", "tenant-001", fun _ => [1]⟩, "id-1", 1⟩,
    ⟨⟨"host2", "tenant-001", fun _ => [2]⟩, "id-2", 2⟩,
    ⟨⟨"host3", "tenant-001", fun _ => [3]⟩, "id-3", 3⟩]

theorem first_bundle_accepted : verifyFederationSignaturesOnly secondsFormat
      (run (step secondsFormat (fun _ => .ok []) ⟨5, none⟩) ⟨[], []⟩ threeHosts) 0
      (B3Hash.display 5) = .ok true :=
  (honest_signatures_accepted_iff rfl (by decide) (by decide) (by decide) (by decide) 0).2.mpr
    (Or.inr (by simp))

/-- The second host's record names the bundle before, and not the record before. -/
theorem second_bundle_rejected : (threeHosts.map fun s => s.manager.hostId).Nodup ∧
      threeHosts.Pairwise (fun s t => s.time < t.time) ∧
      ¬ verifyCrossHostChain secondsFormat (getSignaturesForBundle secondsFormat
          (run (step secondsFormat (fun _ => .ok []) ⟨5 <<< 192, some (4 <<< 192)⟩) ⟨[], []⟩
            threeHosts) 0 (B3Hash.display (5 <<< 192))) = .ok () := by
  decide

end Signing

end AdapterOS.Federation
