import AdapterOS.Aos.Sealed
import AdapterOS.Library.Checked

/-! Archives: a header, an index of segments, their payloads and a manifest, with the writer and
the parser. A 64-bit target; unchecked arithmetic that overflows is a panic, as is a slice out of
range. -/
namespace AdapterOS.Aos

open Library Library.Checked

def aosMagic : List UInt8 := [0x41, 0x4f, 0x53, 0]

def aosMagicV2 : List UInt8 := [0x41, 0x4f, 0x53, 0x32]

def headerSize : Nat := 64

def indexEntrySize : Nat := 80

def hasIndexFlag : UInt32 := 1

def corrupted (text : String) : AosError := .validation ("Corrupted / needs retrain: " ++ text)

inductive BackendTag where
  | canonical
  | mlx
  | metal
  | coreml
  deriving DecidableEq, Repr

namespace BackendTag

def asU16 : BackendTag → UInt16
  | canonical => 0
  | mlx => 1
  | metal => 2
  | coreml => 3

def tryFrom (value : UInt16) : Except AosError BackendTag :=
  if value = 0 then .ok canonical
  else if value = 1 then .ok mlx
  else if value = 2 then .ok metal
  else if value = 3 then .ok coreml
  else .error (.validation ("Unknown backend tag: " ++ toString value.toNat))

end BackendTag

def computeScopeHash (hash : List UInt8 → B3Hash) (scopePath : String) : Bytes 16 :=
  ⟨(B3Hash.asBytes (hash (utf8 scopePath))).take 16, by simp⟩

structure PendingSegment where
  segmentId : UInt32
  backendTag : BackendTag
  scopeHash : Bytes 16
  weightsHash : B3Hash
  payload : List UInt8

structure AosHeader where
  flags : UInt32
  indexOffset : UInt64
  indexSize : UInt64
  manifestOffset : UInt64
  manifestSize : UInt64

structure SegmentDescriptor where
  segmentId : UInt32
  backendTag : BackendTag
  scopeHash : Bytes 16
  weightsHash : B3Hash
  offset : Nat
  len : Nat

structure SegmentView where
  segmentId : UInt32
  backendTag : BackendTag
  scopeHash : Bytes 16
  payload : List UInt8
  deriving DecidableEq

structure AosFileView where
  manifestBytes : List UInt8
  segments : List SegmentView
  deriving DecidableEq

section Writing

/-- A manifest as a JSON value. -/
inductive Value where
  | null
  | bool (b : Bool)
  | number (text : String)
  | string (s : String)
  | array (items : List Value)
  | object (fields : List (String × Value))

namespace Value

def get (key : String) : Value → Option Value
  | object fields => fields.lookup key
  | _ => none

def asStr : Value → Option String
  | string s => some s
  | _ => none

end Value

/-- The libraries and the file system the writer calls. -/
structure ArchiveEnv (M : Type) where
  hash : List UInt8 → B3Hash
  toValue : M → Except AosError Value
  toVecPretty : Value → Except AosError (List UInt8)
  checkDiskSpace : Nat → Except AosError Unit
  -- the temporary file is written, synced and renamed
  store : List UInt8 → Except AosError Unit

structure AosWriter where
  segments : List PendingSegment := []

def AosWriter.addSegment (w : AosWriter) (hash : List UInt8 → B3Hash) (backendTag : BackendTag)
    (scopePath : Option String) (bytes : List UInt8) : UInt32 × AosWriter :=
  let segmentId := .ofNat w.segments.length
  let scopeHash := (scopePath.map (computeScopeHash hash)).getD (.replicate 16 0)
  (segmentId, ⟨w.segments ++ [⟨segmentId, backendTag, scopeHash, hash bytes, bytes⟩]⟩)

def AosWriter.clearSegments (_ : AosWriter) : AosWriter := {}

def scopePathOf (manifest : Value) : Except AosError String :=
  match ((manifest.get "metadata").bind (·.get "scope_path")).bind (·.asStr) with
  | some scopePath =>
    if scopePath = "" then .error (corrupted "missing scope_path in manifest metadata")
    else .ok scopePath
  | none => .error (corrupted "missing scope_path in manifest metadata")

def indexEntry (s : PendingSegment) (offset : Nat) (scopeHash : Bytes 16) (actualHash : B3Hash) :
    List UInt8 :=
  le32 s.segmentId ++ leBytes 2 s.backendTag.asU16.toNat ++ List.replicate 2 0 ++
    le64 (.ofNat offset) ++ le64 (.ofNat s.payload.length) ++ scopeHash.toList ++
    B3Hash.asBytes actualHash ++ List.replicate 8 0

/-- The loop over the segments: the offset after the last payload, and the index. -/
def writeIndex (hash : List UInt8 → B3Hash) (manifestScopeHash : Bytes 16) (currentOffset : Nat) :
    List PendingSegment → Checked AosError (Nat × List UInt8)
  | [] => pure (currentOffset, [])
  | s :: segments => do
    let next ← checkedAdd currentOffset s.payload.length (.validation "Segment offsets overflow")
    let actualHash := hash s.payload
    refuse (actualHash ≠ s.weightsHash)
      (corrupted ("segment " ++ toString s.segmentId.toNat ++ " hash mismatch before write"))
    refuse (s.scopeHash ≠ .replicate 16 0 ∧ s.scopeHash ≠ manifestScopeHash)
      (corrupted "segment scope hash does not match manifest scope_path")
    let rest ← writeIndex hash manifestScopeHash next segments
    return (rest.1, indexEntry s currentOffset manifestScopeHash actualHash ++ rest.2)

def headerBytes (indexSize manifestOffset manifestSize : Nat) : List UInt8 :=
  aosMagic ++ le32 hasIndexFlag ++ le64 (.ofNat headerSize) ++ le64 (.ofNat indexSize) ++
    le64 (.ofNat manifestOffset) ++ le64 (.ofNat manifestSize) ++ List.replicate 24 0

/-- The size that is returned, and the file. -/
def AosWriter.writeArchive {M : Type} (w : AosWriter) (env : ArchiveEnv M) (manifest : M) :
    Checked AosError (Nat × List UInt8) := do
  refuse w.segments.isEmpty (.validation "Cannot write .aos archive without segments")
  refuse (¬ w.segments.any (·.backendTag = .canonical))
    (.validation "Cannot write .aos archive without canonical segment")
  let manifestValue ← orThrow (env.toValue manifest)
  let scopePath ← orThrow (scopePathOf manifestValue)
  let manifestScopeHash := computeScopeHash env.hash scopePath
  let manifestJson ← orThrow (env.toVecPretty manifestValue)
  let totalPayload ← word (w.segments.map (·.payload.length)).sum
  let indexSize ← word (w.segments.length * indexEntrySize)
  let estimatedSize ← word (headerSize + indexSize + totalPayload + manifestJson.length)
  orThrow (env.checkDiskSpace estimatedSize)
  let currentOffset ← word (headerSize + indexSize)
  let index ← writeIndex env.hash manifestScopeHash currentOffset w.segments
  let manifestOffset := index.1
  let totalSize ← word (manifestOffset + manifestJson.length)
  let file := headerBytes indexSize manifestOffset manifestJson.length ++ index.2 ++
    w.segments.flatMap (·.payload) ++ manifestJson
  orThrow (env.store file)
  return (totalSize, file)

end Writing

section Parsing

def u32At (bytes : List UInt8) (start stop : Nat) : Option UInt32 :=
  (arrayAt 4 bytes start stop).map fun a => .ofNat (ofLeBytes a.toList)

def u16At (bytes : List UInt8) (start stop : Nat) : Option UInt16 :=
  (arrayAt 2 bytes start stop).map fun a => .ofNat (ofLeBytes a.toList)

def parseHeaderBytes (bytes : List UInt8) : Checked AosError AosHeader := do
  refuse (bytes.length < headerSize) (corrupted "file too small for AOS header")
  let magic ← orPanic (sliceOf bytes 0 4)
  refuse (magic ≠ aosMagic ∧ magic ≠ aosMagicV2) (corrupted "invalid AOS magic")
  let flags ← orPanic (u32At bytes 4 8)
  let indexOffset ← orPanic (u64At bytes 8 16)
  let indexSize ← orPanic (u64At bytes 16 24)
  let manifestOffset ← orPanic (u64At bytes 24 32)
  let manifestSize ← orPanic (u64At bytes 32 40)
  refuse (indexOffset ≠ .ofNat headerSize) (corrupted "invalid header layout (index offset)")
  let reserved ← orPanic (sliceOf bytes 40 headerSize)
  refuse (reserved.any (· ≠ 0)) (corrupted "reserved header bytes non-zero")
  return ⟨flags, indexOffset, indexSize, manifestOffset, manifestSize⟩

variable (hash : List UInt8 → B3Hash) (bytes : List UInt8)

/-- One entry of the index, with the checks on the payload it describes. -/
def parseEntry (indexEnd manifestOffset : Nat) (entry : List UInt8) :
    Checked AosError SegmentDescriptor := do
  let segmentId ← orPanic (u32At entry 0 4)
  let backendTagRaw ← orPanic (u16At entry 4 6)
  let backendTag ← orThrow (BackendTag.tryFrom backendTagRaw)
  let offset ← orPanic (u64At entry 8 16)
  let len ← orPanic (u64At entry 16 24)
  let scopeHash ← orPanic (arrayAt 16 entry 24 40)
  let weightsHashBytes ← orPanic (arrayAt 32 entry 40 72)
  let weightsHash := .ofBytes weightsHashBytes.toList
  let payloadEnd ← checkedAdd offset.toNat len.toNat (corrupted "segment overflow")
  refuse (offset.toNat < indexEnd) (corrupted "segment overlaps index")
  refuse (payloadEnd > manifestOffset) (corrupted "segment overlaps manifest")
  refuse (payloadEnd > bytes.length) (corrupted "segment beyond file")
  let payload ← orPanic (sliceOf bytes offset.toNat payloadEnd)
  refuse (hash payload ≠ weightsHash)
    (corrupted ("segment " ++ toString segmentId.toNat ++ " hash mismatch"))
  return ⟨segmentId, backendTag, scopeHash, weightsHash, offset.toNat, len.toNat⟩

def entryAt (indexBytes : List UInt8) (i : Nat) : Checked AosError (List UInt8) := do
  let entryStart ← word (i * indexEntrySize)
  let entryStop ← word (entryStart + indexEntrySize)
  orPanic (sliceOf indexBytes entryStart entryStop)

def parseSegments (header : AosHeader) : Checked AosError (List SegmentDescriptor) := do
  refuse (header.flags &&& hasIndexFlag = 0) (corrupted "missing segment index")
  let indexOffset := header.indexOffset.toNat
  let indexSize := header.indexSize.toNat
  let manifestOffset := header.manifestOffset.toNat
  refuse (indexOffset < headerSize) (corrupted "index overlaps header")
  let indexEnd ← checkedAdd indexOffset indexSize (corrupted "index overflow")
  refuse (indexEnd > bytes.length) (corrupted "index beyond file")
  refuse (indexSize % indexEntrySize ≠ 0) (corrupted "index size not 80-byte aligned")
  let manifestEnd ← checkedAdd manifestOffset header.manifestSize.toNat
    (corrupted "manifest overflow")
  refuse (manifestEnd > bytes.length) (corrupted "manifest beyond file")
  refuse (manifestOffset < indexEnd) (corrupted "manifest overlaps index/segments")
  let indexBytes ← orPanic (sliceOf bytes indexOffset indexEnd)
  (List.range (indexSize / indexEntrySize)).mapM fun i => do
    let entry ← entryAt indexBytes i
    parseEntry hash bytes indexEnd manifestOffset entry

def segmentView (d : SegmentDescriptor) : Checked AosError SegmentView := do
  let payloadEnd ← word (d.offset + d.len)
  let payload ← orPanic (sliceOf bytes d.offset payloadEnd)
  return ⟨d.segmentId, d.backendTag, d.scopeHash, payload⟩

def openAos : Checked AosError AosFileView := do
  let header ← parseHeaderBytes bytes
  let descriptors ← parseSegments hash bytes header
  let segments ← descriptors.mapM (segmentView bytes)
  let manifestEnd ← word (header.manifestOffset.toNat + header.manifestSize.toNat)
  let manifestBytes ← orPanic (sliceOf bytes header.manifestOffset.toNat manifestEnd)
  return ⟨manifestBytes, segments⟩

end Parsing

end AdapterOS.Aos
