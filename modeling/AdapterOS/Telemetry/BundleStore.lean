import AdapterOS.Core.Basic
import AdapterOS.Library.HashMap
import AdapterOS.Library.Ranking

/-! The content-addressed store of telemetry bundles: an index in memory, two files for every bundle
on disk, retention by control plane, and the check of a control plane's chain. -/
namespace AdapterOS.Telemetry

open Library

structure BundleMetadata where
  bundleHash : B3Hash
  merkleRoot : B3Hash
  eventCount : Nat
  signature : String
  publicKey : String
  keyId : String
  schemaVersion : UInt32
  signedAtUs : UInt64
  cpid : Option String
  tenantId : Option String
  sequenceNo : Option UInt64
  /-- Nanoseconds from the epoch, negative before it. -/
  createdAt : Int
  prevBundleHash : Option B3Hash
  isIncidentBundle : Bool
  isPromotionBundle : Bool
  tags : List String
  stackId : Option String
  stackVersion : Option Int64
  deriving DecidableEq

def sequenceKey (sequenceNo : Option UInt64) : Nat := (sequenceNo.map (·.toNat + 1)).getD 0

/-- What `serde_json` makes of metadata: what it writes reads back, and it refuses only a time
before the epoch. -/
structure MetadataJson (δ : Type*) where
  toStringPretty : BundleMetadata → Except String δ
  fromStr : δ → Except String BundleMetadata
  fromStr_toStringPretty {m : BundleMetadata} {text : δ} :
    toStringPretty m = .ok text → fromStr text = .ok m
  writes_iff {m : BundleMetadata} : (∃ text, toStringPretty m = .ok text) ↔ 0 ≤ m.createdAt

/-- A codec for small examples: the text of metadata is the metadata. -/
def plainJson : MetadataJson BundleMetadata where
  toStringPretty m :=
    if 0 ≤ m.createdAt then .ok m else .error "SystemTime must be later than UNIX_EPOCH"
  fromStr := .ok
  fromStr_toStringPretty := by
    intro m text h
    split at h
    · rw [Except.ok.inj h]
    · cases h
  writes_iff := by
    intro m
    by_cases h : 0 ≤ m.createdAt <;> simp [h]

structure RetentionPolicy where
  keepBundlesPerCpid : Nat := 12
  keepIncidentBundles : Bool := true
  keepPromotionBundles : Bool := true

def RetentionPolicy.protects (policy : RetentionPolicy) (m : BundleMetadata) : Bool :=
  (policy.keepIncidentBundles && m.isIncidentBundle) ||
    (policy.keepPromotionBundles && m.isPromotionBundle)

/-- The names from the root of the file system down. -/
abbrev Path := List String

def Path.enter (p : Path) (name : String) : Path :=
  if name = "" ∨ name = "." then p else if name = ".." then p.dropLast else p ++ [name]

def Path.join (p : Path) (text : String) : Path :=
  ((text.toList.splitOn '/').map String.ofList).foldl Path.enter
    (if text.toList.head? = some '/' then [] else p)

def tenantDir (root : Path) (m : BundleMetadata) : Path :=
  root.join (m.tenantId.getD "default") ++ ["bundles"]

def bundlePath (root : Path) (h : B3Hash) (m : BundleMetadata) : Path :=
  tenantDir root m ++ [B3Hash.debug h ++ ".ndjson"]

def metaPath (root : Path) (h : B3Hash) (m : BundleMetadata) : Path :=
  tenantDir root m ++ [B3Hash.debug h ++ ".meta.json"]

theorem bundlePath_eq_iff {root : Path} {h h' : B3Hash} {m m' : BundleMetadata} :
    bundlePath root h m = bundlePath root h' m' ↔ metaPath root h m = metaPath root h' m' := by
  simp [metaPath, bundlePath]

/-- The two kinds of files differ in their extensions, so each has a map of its own. -/
structure BundleStore (δ : Type*) where
  rootDir : Path
  index : HashMap B3Hash BundleMetadata
  policy : RetentionPolicy
  bundleFiles : HashMap Path (List UInt8)
  metaFiles : HashMap Path δ

structure GarbageCollectionReport where
  totalBundles : Nat
  evictedBundles : List B3Hash
  retainedBundles : Nat
  bytesFreed : Nat
  deriving DecidableEq

structure ChainVerificationReport where
  cpid : String
  totalBundles : Nat
  verifiedBundles : Nat
  brokenLinks : List String

namespace BundleStore

variable {δ : Type*}

def bundleNotFound (h : B3Hash) : AosError :=
  .telemetry ("Bundle " ++ B3Hash.debug h ++ " not found")

def noSuchFile : AosError := .io "No such file or directory (os error 2)"

/-- A bundle that is indexed already is left as it is, whatever the new metadata say. -/
def storeBundle (hash : List UInt8 → B3Hash) (json : MetadataJson δ) (s : BundleStore δ)
    (bundleData : List UInt8) (metadata : BundleMetadata) :
    Except AosError B3Hash × BundleStore δ :=
  let bundleHash := hash bundleData
  if bundleHash ∈ s.index then (.ok bundleHash, s)
  else
    let bundleFiles := s.bundleFiles.insert (bundlePath s.rootDir bundleHash metadata) bundleData
    match json.toStringPretty metadata with
    | .error e => (.error (.serialization e), { s with bundleFiles })
    | .ok metaJson =>
      let metaFiles := s.metaFiles.insert (metaPath s.rootDir bundleHash metadata) metaJson
      (.ok bundleHash,
        { s with bundleFiles, metaFiles, index := s.index.insert bundleHash metadata })

def values (s : BundleStore δ) : List BundleMetadata := s.index.items.map Prod.snd

def listBundlesForCpid (s : BundleStore δ) (cpid : String) : List BundleMetadata :=
  sortBy (fun m => sequenceKey m.sequenceNo) (s.values.filter fun m => m.cpid = some cpid)

def listBundlesForTenant (s : BundleStore δ) (tenantId : String) : List BundleMetadata :=
  sortBy (fun m => sequenceKey m.sequenceNo) (s.values.filter fun m => m.tenantId = some tenantId)

def updateMetadataFile (json : MetadataJson δ) (s : BundleStore δ) (h : B3Hash)
    (m : BundleMetadata) : Except AosError Unit × BundleStore δ :=
  match json.toStringPretty m with
  | .error e => (.error (.serialization e), s)
  | .ok metaJson =>
    (.ok (), { s with metaFiles := s.metaFiles.insert (metaPath s.rootDir h m) metaJson })

/-- The two marks differ only in the flag they set. -/
def markBundle (flag : BundleMetadata → BundleMetadata) (json : MetadataJson δ) (s : BundleStore δ)
    (h : B3Hash) : Except AosError Unit × BundleStore δ :=
  match s.index.get? h with
  | none => (.error (bundleNotFound h), s)
  | some m => updateMetadataFile json { s with index := s.index.insert h (flag m) } h (flag m)

def markIncidentBundle (json : MetadataJson δ) (s : BundleStore δ) (h : B3Hash) :
    Except AosError Unit × BundleStore δ :=
  s.markBundle (fun m => { m with isIncidentBundle := true }) json h

def markPromotionBundle (json : MetadataJson δ) (s : BundleStore δ) (h : B3Hash) :
    Except AosError Unit × BundleStore δ :=
  s.markBundle (fun m => { m with isPromotionBundle := true }) json h

section GarbageCollection

/-- The index entry goes first, so a file that is missing leaves an evicted bundle behind. -/
def evictBundle (s : BundleStore δ) (h : B3Hash) : Except AosError Nat × BundleStore δ :=
  match s.index.get? h with
  | none => (.error (bundleNotFound h), s)
  | some m =>
    let index := s.index.erase h
    match s.bundleFiles.get? (bundlePath s.rootDir h m) with
    | none => (.error noSuchFile, { s with index })
    | some data =>
      let bundleFiles := s.bundleFiles.erase (bundlePath s.rootDir h m)
      if metaPath s.rootDir h m ∈ s.metaFiles then
        let metaFiles := s.metaFiles.erase (metaPath s.rootDir h m)
        (.ok data.length, { s with index, bundleFiles, metaFiles })
      else (.error noSuchFile, { s with index, bundleFiles })

def hashesFor (s : BundleStore δ) (cpid : String) : List B3Hash :=
  (s.index.items.filter fun e => e.2.cpid = some cpid).map Prod.fst

def bundlesByCpid (s : BundleStore δ) : List (List B3Hash) :=
  (s.index.items.filterMap fun e => e.2.cpid).dedup.map s.hashesFor

def toEvict (s : BundleStore δ) (hashes : List B3Hash) : List B3Hash :=
  (sortBy (fun h => sequenceKey ((s.index.get? h).bind (·.sequenceNo))) hashes).take
    (hashes.length - s.policy.keepBundlesPerCpid)

def evictFrom (s : BundleStore δ) (report : GarbageCollectionReport) :
    List B3Hash → Except AosError GarbageCollectionReport × BundleStore δ
  | [] => (.ok report, s)
  | h :: rest =>
    match s.index.get? h with
    | none => s.evictFrom report rest
    | some m =>
      if s.policy.protects m then s.evictFrom report rest
      else
        match s.evictBundle h with
        | (.error e, s') => (.error e, s')
        | (.ok bytesFreed, s') =>
          s'.evictFrom { report with
            evictedBundles := report.evictedBundles ++ [h]
            bytesFreed := report.bytesFreed + bytesFreed } rest

def collectGroups (s : BundleStore δ) (report : GarbageCollectionReport) :
    List (List B3Hash) → Except AosError GarbageCollectionReport × BundleStore δ
  | [] => (.ok { report with retainedBundles := s.index.items.length }, s)
  | hashes :: rest =>
    match s.evictFrom report (s.toEvict hashes) with
    | (.error e, s') => (.error e, s')
    | (.ok report', s') => s'.collectGroups report' rest

def runGc (s : BundleStore δ) : Except AosError GarbageCollectionReport × BundleStore δ :=
  s.collectGroups ⟨s.index.items.length, [], s.index.items.length, 0⟩ s.bundlesByCpid

end GarbageCollection

section Chain

def rootMessage (first : BundleMetadata) : String :=
  "First bundle " ++ B3Hash.debug first.bundleHash ++
    " has non-null prev_bundle_hash (should be chain root)"

def linkMessage (prev current : BundleMetadata) : String :=
  "Bundle " ++ B3Hash.debug current.bundleHash ++ " does not link to previous bundle " ++
    B3Hash.debug prev.bundleHash

/-- The links that hold, and the messages for those that do not. -/
def checkLinks : BundleMetadata → List BundleMetadata → Nat × List String
  | _, [] => (0, [])
  | prev, current :: rest =>
    let (verified, broken) := checkLinks current rest
    if current.prevBundleHash ≠ some prev.merkleRoot then
      (verified, linkMessage prev current :: broken)
    else (verified + 1, broken)

def verifyChain (s : BundleStore δ) (cpid : String) : ChainVerificationReport :=
  match s.listBundlesForCpid cpid with
  | [] => ⟨cpid, 0, 0, []⟩
  | first :: rest =>
    let (verified, broken) := checkLinks first rest
    let root := if first.prevBundleHash.isSome then [rootMessage first] else []
    ⟨cpid, (first :: rest).length, verified, root ++ broken⟩

end Chain

section Disk

/-- The directory of a metadata file is the `bundles` of something directly under the root. -/
def inTenantDir (root path : Path) : Bool :=
  match path.reverse with
  | _ :: bundles :: _ :: above => bundles = "bundles" && above = root.reverse
  | _ => false

/-- Each file goes under the hash that its metadata name. -/
def loadMetadata (json : MetadataJson δ) : HashMap B3Hash BundleMetadata → List (Path × δ) →
    Except AosError (HashMap B3Hash BundleMetadata)
  | index, [] => .ok index
  | index, file :: rest =>
    match json.fromStr file.2 with
    | .error e => .error (.serialization e)
    | .ok m => loadMetadata json (index.insert m.bundleHash m) rest

/-- What the scan of the tenant directories finds, in its order. -/
def rebuildIndex (json : MetadataJson δ) (scan : Iteration (Path × δ)) (s : BundleStore δ) :
    Except AosError (HashMap B3Hash BundleMetadata) :=
  loadMetadata json ∅
    ((scan.visit s.metaFiles.items).filter fun file => inTenantDir s.rootDir file.1)

def new (rootDir : Path) (policy : RetentionPolicy) : BundleStore δ :=
  ⟨rootDir, ∅, policy, ∅, ∅⟩

end Disk

end BundleStore

/-- Metadata for small examples. -/
def sampleMetadata (bundleHash merkleRoot : B3Hash) (prevBundleHash : Option B3Hash)
    (tenantId : String) (sequenceNo : UInt64) : BundleMetadata where
  bundleHash := bundleHash
  merkleRoot := merkleRoot
  eventCount := 1
  signature := "sig"
  publicKey := "test_pubkey"
  keyId := "test_key_id"
  schemaVersion := 1
  signedAtUs := 0
  cpid := some "cpid-001"
  tenantId := some tenantId
  sequenceNo := some sequenceNo
  createdAt := 0
  prevBundleHash := prevBundleHash
  isIncidentBundle := false
  isPromotionBundle := false
  tags := []
  stackId := none
  stackVersion := none

end AdapterOS.Telemetry
