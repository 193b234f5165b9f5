import AdapterOS.Core.Basic
import AdapterOS.Library.HashMap
import AdapterOS.Library.Ranking
import AdapterOS.Library.Run
import AdapterOS.Library.Chain

/-! The writer of event bundles: events go as lines to a file named after the millisecond in which
it is opened, and every file that is closed gets a signature file that links to the one before. -/
namespace AdapterOS.Telemetry

open Library

def newline : UInt8 := 10

/-- An event as it is serialized, which escapes line breaks. -/
abbrev Line := { bytes : List UInt8 // newline ∉ bytes }

inductive CompressionAlgorithm where
  | none
  | zstd
  | gzip
  | lz4
  deriving DecidableEq

structure CompressionConfig where
  enabled : Bool := true
  algorithm : CompressionAlgorithm := .zstd
  minBundleSize : Nat := 10 * 1024

structure WriterConfig where
  maxEvents : Nat
  maxBytes : Nat
  compression : CompressionConfig := {}

/-- What the writer takes from libraries: serialization, hashing, the signature of a root under the
key of the writer, and compression that can be undone. -/
structure WriterTools (T : Type*) where
  toVec : T → Except String Line
  hash : List UInt8 → B3Hash
  sign : List UInt8 → String
  publicKey : String
  compress : CompressionAlgorithm → List UInt8 → List UInt8
  decompress : CompressionAlgorithm → List UInt8 → Option (List UInt8)
  decompress_compress (a : CompressionAlgorithm) (data : List UInt8) :
    decompress a (compress a data) = some data

structure CompressedBundleMetadata where
  algorithm : CompressionAlgorithm
  originalSize : Nat
  compressedSize : Nat
  originalChecksum : String
  compressedChecksum : String
  deriving DecidableEq

structure SignatureMetadata where
  merkleRoot : String
  signature : String
  publicKey : String
  eventCount : Nat
  sequenceNo : Nat
  prevBundleHash : Option B3Hash
  version : Nat
  compressionMetadata : Option CompressedBundleMetadata
  deriving DecidableEq

/-- The open bundle is given by the millisecond in its name, and the files of a kind by the
milliseconds in theirs: `.ndjson`, the same with the extension of the algorithm, `.ndjson.sig`. -/
structure BundleWriter where
  currentBundle : Option Nat
  eventCount : Nat
  currentBytes : Nat
  eventsBuffer : List Line
  lastMerkleRoot : Option B3Hash
  eventSeqCounter : Nat
  bundles : HashMap Nat (List UInt8)
  compressed : HashMap Nat (List UInt8)
  signatures : HashMap Nat SignatureMetadata

section MerkleTree

def nextLevel (hash : List UInt8 → B3Hash) : List B3Hash → List B3Hash
  | left :: right :: rest =>
    hash (B3Hash.asBytes left ++ B3Hash.asBytes right) :: nextLevel hash rest
  | [node] => [node]
  | [] => []

def buildTree (hash : List UInt8 → B3Hash) : Nat → List B3Hash → List B3Hash
  | 0, level => level
  | rounds + 1, level =>
    if level.length > 1 then buildTree hash rounds (nextLevel hash level) else level

def computeMerkleRoot (hash : List UInt8 → B3Hash) (events : List (List UInt8)) : B3Hash :=
  if events.isEmpty then 0
  else
    let level := (events.insertionSort (· ≤ ·)).map hash
    (buildTree hash level.length level).headD 0

theorem length_nextLevel (hash : List UInt8 → B3Hash) (level : List B3Hash) :
    (nextLevel hash level).length = (level.length + 1) / 2 := by
  induction level using nextLevel.induct with
  | case1 left right rest ih =>
    simp only [nextLevel, List.length_cons, ih]
    omega
  | case2 node => simp [nextLevel]
  | case3 => simp [nextLevel]

theorem length_buildTree (hash : List UInt8 → B3Hash) {rounds : Nat} {level : List B3Hash}
    (hpos : 0 < level.length) (hle : level.length ≤ rounds) :
    (buildTree hash rounds level).length = 1 := by
  induction rounds generalizing level with
  | zero => omega
  | succ rounds ih => grind [buildTree, length_nextLevel]

end MerkleTree

namespace BundleWriter

variable {T : Type*} (tools : WriterTools T) (config : WriterConfig)

def new : BundleWriter := ⟨none, 0, 0, [], none, 0, ∅, ∅, ∅⟩

def shouldRotate (w : BundleWriter) (nextEvent : Line) : Bool :=
  w.currentBundle.isSome && (config.maxEvents ≤ w.eventCount ||
    config.maxBytes < w.currentBytes + nextEvent.1.length + 1)

/-- The file is opened to append: what a file of that name holds stays. -/
def createNewBundle (w : BundleWriter) (timestamp : Nat) : BundleWriter :=
  { w with
    currentBundle := some timestamp
    bundles := w.bundles.insert timestamp ((w.bundles.get? timestamp).getD [])
    eventCount := 0
    currentBytes := 0
    eventsBuffer := [] }

def compressData (data : List UInt8) : List UInt8 :=
  match config.compression.algorithm with
  | .none => data
  | a => tools.compress a data

def compressionMetadata (data : List UInt8) : CompressedBundleMetadata where
  algorithm := config.compression.algorithm
  originalSize := data.length
  compressedSize := (compressData tools config data).length
  originalChecksum := (tools.hash data).toHex
  compressedChecksum := (tools.hash (compressData tools config data)).toHex

/-- The file is there, since it was opened for the bundle. It is replaced if that saves space. -/
def compressBundle (w : BundleWriter) (bundle : Nat) (sigData : SignatureMetadata) :
    BundleWriter × SignatureMetadata :=
  let data := (w.bundles.get? bundle).getD []
  if (compressData tools config data).length < data.length then
    ({ w with
        compressed := w.compressed.insert bundle (compressData tools config data)
        bundles := w.bundles.erase bundle },
      { sigData with compressionMetadata := some (compressionMetadata tools config data) })
  else (w, sigData)

def rotateBundle (w : BundleWriter) : BundleWriter :=
  match w.currentBundle with
  | none => w
  | some bundle =>
    let merkleRoot := computeMerkleRoot tools.hash (w.eventsBuffer.map Subtype.val)
    let sigData : SignatureMetadata :=
      { merkleRoot := B3Hash.display merkleRoot
        signature := tools.sign (B3Hash.asBytes merkleRoot)
        publicKey := tools.publicKey
        eventCount := w.eventCount
        sequenceNo := w.eventSeqCounter
        prevBundleHash := w.lastMerkleRoot
        version := 2
        compressionMetadata := none }
    let final :=
      if config.compression.enabled && config.compression.minBundleSize ≤ w.currentBytes then
        w.compressBundle tools config bundle sigData
      else (w, sigData)
    { final.1 with
      currentBundle := none
      signatures := w.signatures.insert bundle final.2
      lastMerkleRoot := some merkleRoot
      eventSeqCounter := w.eventSeqCounter + 1
      eventsBuffer := [] }

def append (w : BundleWriter) (event : Line) : BundleWriter :=
  match w.currentBundle with
  | none => w
  | some bundle =>
    { w with
      bundles := w.bundles.insert bundle
        ((w.bundles.get? bundle).getD [] ++ event.1 ++ [newline])
      eventsBuffer := w.eventsBuffer ++ [event]
      eventCount := w.eventCount + 1
      currentBytes := w.currentBytes + event.1.length + 1 }

def writeLine (w : BundleWriter) (now : Nat) (event : Line) : BundleWriter :=
  let w := if w.shouldRotate config event then w.rotateBundle tools config else w
  let w := if w.currentBundle.isNone then w.createNewBundle now else w
  w.append event

/-- An event that cannot be serialized is refused before anything is done. -/
def writeEvent (w : BundleWriter) (now : Nat) (event : T) :
    Except AosError Unit × BundleWriter :=
  match tools.toVec event with
  | .error e => (.error (.serialization e), w)
  | .ok eventJson => (.ok (), w.writeLine tools config now eventJson)

def flush (w : BundleWriter) : BundleWriter :=
  if w.eventCount > 0 then w.rotateBundle tools config else w

end BundleWriter

/-- A call with the millisecond that the clock shows during it. -/
inductive WriterCall (T : Type*) where
  | writeEvent (now : Nat) (event : T)
  | flush (now : Nat)

namespace BundleWriter

variable {T : Type*} (tools : WriterTools T) (config : WriterConfig)

def step (w : BundleWriter) : WriterCall T → BundleWriter
  | .writeEvent now event => (w.writeEvent tools config now event).2
  | .flush _ => w.flush tools config

def written (calls : List (WriterCall T)) : List (List UInt8) :=
  calls.filterMap fun
    | .writeEvent _ event => (tools.toVec event).toOption.map Subtype.val
    | .flush _ => none

def linesOf (data : List UInt8) : List (List UInt8) := (data.splitOnP (· == newline)).dropLast

end BundleWriter

/-- A signature file with the lines of the bundle file next to it. -/
structure SignedBundle where
  signature : SignatureMetadata
  lines : List (List UInt8)
  deriving DecidableEq

namespace BundleWriter

variable {T : Type*} (tools : WriterTools T)

/-- The bundle file is the compressed one if the signature says so. -/
def readBundle (w : BundleWriter) (bundle : Nat) (signature : SignatureMetadata) :
    Option SignedBundle :=
  let data :=
    match signature.compressionMetadata with
    | none => w.bundles.get? bundle
    | some m => (w.compressed.get? bundle).bind (tools.decompress m.algorithm)
  data.map fun data => ⟨signature, linesOf data⟩

def signatureFiles (w : BundleWriter) : List (Nat × SignatureMetadata) :=
  sortBy (fun e => e.2.sequenceNo) w.signatures.items

/-- Every signature file has its bundle file and describes the lines in it, the bundles together
hold every written event once, and in sequence order each names the Merkle root of the one before
it. -/
def Signed (events : List (List UInt8)) (w : BundleWriter) : Prop :=
  ∃ signed : List SignedBundle,
    w.signatureFiles.map (fun e => w.readBundle tools e.1 e.2) = signed.map some ∧
    (∀ b ∈ signed, b.signature.eventCount = b.lines.length ∧
      b.signature.merkleRoot = B3Hash.display (computeMerkleRoot tools.hash b.lines)) ∧
    (signed.flatMap SignedBundle.lines).Perm events ∧
    Linked (fun b => b.signature.prevBundleHash)
      (fun b : SignedBundle => computeMerkleRoot tools.hash b.lines) none signed

end BundleWriter

end AdapterOS.Telemetry
