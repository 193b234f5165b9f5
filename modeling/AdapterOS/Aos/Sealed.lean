import AdapterOS.Core.Hex
import AdapterOS.Library.Counter
import Mathlib.Data.Vector.Basic

/-! Sealed adapter containers: sealing and verification, and the binary form with its writer and
its loader. -/
namespace AdapterOS.Aos

open Library

/-- The bytes of a fixed-size array. -/
abbrev Bytes (n : Nat) := List.Vector UInt8 n

/-- A float field is given by its bits. -/
structure AdapterMetadata where
  name : String := ""
  description : String := ""
  version : String := ""
  author : String := ""
  license : String := ""
  tier : String := ""
  languages : List String := []
  frameworks : List String := []
  loraRank : Option UInt32 := none
  loraAlpha : Option UInt32 := none
  trainedAt : Option String := none
  datasetHash : Option String := none
  tags : List String := []
  mlxVersion : Option String := none
  deriving DecidableEq

structure AdapterBundle where
  adapterId : AdapterId
  baseModelHash : B3Hash
  metadata : AdapterMetadata
  weightsHash : B3Hash
  weightsData : List UInt8
  configHash : B3Hash
  configData : List UInt8
  deriving DecidableEq

structure AdapterPayload where
  weightsHash : B3Hash
  weightsData : List UInt8
  configHash : B3Hash
  configData : List UInt8
  deriving DecidableEq

structure SignedManifest where
  adapterId : AdapterId
  baseModelHash : B3Hash
  payloadHash : B3Hash
  metadata : AdapterMetadata
  signature : Bytes 64
  signerPubkey : Bytes 32
  deriving DecidableEq

structure SealedAdapterContainer where
  version : UInt8
  containerHash : B3Hash
  manifest : SignedManifest
  payload : AdapterPayload
  createdAt : String
  sealerPubkey : Bytes 32
  deriving DecidableEq

/-- The libraries the container code calls: the hash, the signature scheme, the text of a float
and the reader of metadata. A verifying key is given by its bytes. -/
structure SealLib where
  hash : List UInt8 → B3Hash
  SigningKey : Type
  verifyingKey : SigningKey → Bytes 32
  sign : SigningKey → List UInt8 → Bytes 64
  verify : Bytes 32 → List UInt8 → Bytes 64 → Bool
  verify_sign : ∀ key message, verify (verifyingKey key) message (sign key message) = true
  formatF32 : UInt32 → String
  parseMetadata : List UInt8 → Except String AdapterMetadata

section Json

def jsonEscape (c : Char) : String :=
  if c.toNat = 0x22 then "\\\""
  else if c.toNat = 0x5c then "\\\\"
  else if c.toNat = 0x08 then "\\b"
  else if c.toNat = 0x09 then "\\t"
  else if c.toNat = 0x0a then "\\n"
  else if c.toNat = 0x0c then "\\f"
  else if c.toNat = 0x0d then "\\r"
  else if c.toNat < 0x20 then
    "\\u00" ++ String.ofList [Nat.digitChar (c.toNat / 16), Nat.digitChar (c.toNat % 16)]
  else String.ofList [c]

def jsonString (s : String) : List UInt8 :=
  utf8 "\"" ++ s.toList.flatMap (fun c => utf8 (jsonEscape c)) ++ utf8 "\""

def jsonList (values : List String) : List UInt8 :=
  utf8 "[" ++ (utf8 ",").intercalate (values.map jsonString) ++ utf8 "]"

def jsonOption {α : Type*} (write : α → List UInt8) : Option α → List UInt8
  | none => utf8 "null"
  | some a => write a

def jsonField (key : String) (value : List UInt8) : List UInt8 :=
  utf8 ("\"" ++ key ++ "\":") ++ value

/-- The fields in the order they are written; the last one is skipped when it is absent. -/
def AdapterMetadata.jsonFields (lib : SealLib) (m : AdapterMetadata) : List (List UInt8) :=
  [jsonField "name" (jsonString m.name),
    jsonField "description" (jsonString m.description),
    jsonField "version" (jsonString m.version),
    jsonField "author" (jsonString m.author),
    jsonField "license" (jsonString m.license),
    jsonField "tier" (jsonString m.tier),
    jsonField "languages" (jsonList m.languages),
    jsonField "frameworks" (jsonList m.frameworks),
    jsonField "lora_rank" (jsonOption (fun n => utf8 (toString n.toNat)) m.loraRank),
    jsonField "lora_alpha" (jsonOption (fun x => utf8 (lib.formatF32 x)) m.loraAlpha),
    jsonField "trained_at" (jsonOption jsonString m.trainedAt),
    jsonField "dataset_hash" (jsonOption jsonString m.datasetHash),
    jsonField "tags" (jsonList m.tags)] ++
  (m.mlxVersion.map fun v => jsonField "mlx_version" (jsonString v)).toList

def AdapterMetadata.toJson (lib : SealLib) (m : AdapterMetadata) : List UInt8 :=
  utf8 "\x7b" ++ (utf8 ",").intercalate (m.jsonFields lib) ++ utf8 "\x7d"

end Json

def sealedContainerVersion : UInt8 := 1

def sealedMagic : List UInt8 := [0x53, 0x45, 0x41, 0x4c]

def sealedHeaderSize : Nat := 144

section Sealing

variable (lib : SealLib)

def AdapterBundle.new (adapterId : AdapterId) (baseModelHash : B3Hash) (metadata : AdapterMetadata)
    (weightsData configData : List UInt8) : AdapterBundle :=
  ⟨adapterId, baseModelHash, metadata, lib.hash weightsData, weightsData, lib.hash configData,
    configData⟩

namespace AdapterPayload

def message (p : AdapterPayload) : List UInt8 :=
  B3Hash.asBytes p.weightsHash ++ p.weightsData ++ B3Hash.asBytes p.configHash ++ p.configData

def computeHash (p : AdapterPayload) : B3Hash := lib.hash p.message

/-- No other function of the container code calls it. -/
def verify (p : AdapterPayload) : Except AosError Unit :=
  if lib.hash p.weightsData ≠ p.weightsHash then .error (.crypto "Weights hash mismatch")
  else if lib.hash p.configData ≠ p.configHash then .error (.crypto "Config hash mismatch")
  else .ok ()

end AdapterPayload

namespace SignedManifest

def computeUnsignedHash (m : SignedManifest) : B3Hash :=
  lib.hash (utf8 m.adapterId ++ [0] ++ B3Hash.asBytes m.baseModelHash ++
    B3Hash.asBytes m.payloadHash ++ m.metadata.toJson lib ++ m.signerPubkey.toList)

def new (adapterId : AdapterId) (baseModelHash payloadHash : B3Hash) (metadata : AdapterMetadata)
    (signingKey : lib.SigningKey) : SignedManifest :=
  let manifest : SignedManifest := ⟨adapterId, baseModelHash, payloadHash, metadata,
    .replicate 64 0, lib.verifyingKey signingKey⟩
  { manifest with
    signature := lib.sign signingKey (B3Hash.asBytes (manifest.computeUnsignedHash lib)) }

def verify (m : SignedManifest) (trustedPubkeys : List (Bytes 32)) : Except AosError Unit :=
  if trustedPubkeys.any fun pubkey =>
      lib.verify pubkey (B3Hash.asBytes (m.computeUnsignedHash lib)) m.signature &&
        pubkey = m.signerPubkey then .ok ()
  else .error (.crypto "Manifest signature verification failed: no trusted key matched")

end SignedManifest

namespace SealedAdapterContainer

/-- The bytes under the container hash. -/
def containerMessage (version : UInt8) (manifest : SignedManifest) (payload : AdapterPayload) :
    List UInt8 :=
  [version] ++ B3Hash.asBytes (manifest.computeUnsignedHash lib) ++ manifest.signature.toList ++
    B3Hash.asBytes (payload.computeHash lib)

def computeContainerHash (version : UInt8) (manifest : SignedManifest)
    (payload : AdapterPayload) : B3Hash :=
  lib.hash (containerMessage lib version manifest payload)

def sealBundle (bundle : AdapterBundle) (signingKey : lib.SigningKey) (now : String) :
    SealedAdapterContainer :=
  let payload : AdapterPayload :=
    ⟨bundle.weightsHash, bundle.weightsData, bundle.configHash, bundle.configData⟩
  let manifest := SignedManifest.new lib bundle.adapterId bundle.baseModelHash
    (payload.computeHash lib) bundle.metadata signingKey
  ⟨sealedContainerVersion, computeContainerHash lib sealedContainerVersion manifest payload,
    manifest, payload, now, lib.verifyingKey signingKey⟩

def verify (c : SealedAdapterContainer) (trustedPubkeys : List (Bytes 32)) :
    Except AosError Unit :=
  if c.containerHash ≠ computeContainerHash lib c.version c.manifest c.payload then
    .error (.crypto "Container hash mismatch: content has been modified")
  else if c.payload.computeHash lib ≠ c.manifest.payloadHash then
    .error (.crypto "Payload hash mismatch: weights have been modified")
  else c.manifest.verify lib trustedPubkeys

def unsealBundle (c : SealedAdapterContainer) (trustedPubkeys : List (Bytes 32)) :
    Except AosError AdapterBundle := do
  c.verify lib trustedPubkeys
  return ⟨c.manifest.adapterId, c.manifest.baseModelHash, c.manifest.metadata,
    c.payload.weightsHash, c.payload.weightsData, c.payload.configHash, c.payload.configData⟩

end SealedAdapterContainer

end Sealing

section Header

structure SealedContainerHeader where
  version : UInt8
  integrityHash : B3Hash
  payloadOffset : UInt64
  payloadSize : UInt64
  manifestOffset : UInt64
  manifestSize : UInt64
  signature : Bytes 64

def sliceOf (bytes : List UInt8) (start stop : Nat) : Option (List UInt8) :=
  if start ≤ stop ∧ stop ≤ bytes.length then some ((bytes.drop start).take (stop - start))
  else none

def arrayAt (n : Nat) (bytes : List UInt8) (start stop : Nat) : Option (Bytes n) :=
  (sliceOf bytes start stop).bind fun s => if h : s.length = n then some ⟨s, h⟩ else none

def u64At (bytes : List UInt8) (start stop : Nat) : Option UInt64 :=
  (arrayAt 8 bytes start stop).map fun a => .ofNat (ofLeBytes a.toList)

namespace SealedContainerHeader

/-- The outer `none` is a panic. -/
def fromBytes (bytes : List UInt8) : Option (Except AosError SealedContainerHeader) :=
  if bytes.length < sealedHeaderSize then
    some (.error (.invalidSealedData ("Header too small: expected " ++ toString sealedHeaderSize ++
      " bytes, got " ++ toString bytes.length)))
  else do
    let magic ← sliceOf bytes 0 4
    if magic ≠ sealedMagic then
      return .error (.invalidSealedData "Invalid magic bytes: expected SEAL")
    else
      let version ← bytes[4]?
      if version ≠ sealedContainerVersion then
        return .error (.invalidSealedData ("Unsupported version: expected " ++
          toString sealedContainerVersion ++ ", got " ++ toString version))
      else
        let integrityHash ← arrayAt 32 bytes 8 40
        let payloadOffset ← u64At bytes 40 48
        let payloadSize ← u64At bytes 48 56
        let manifestOffset ← u64At bytes 56 64
        let manifestSize ← u64At bytes 64 72
        let signature ← arrayAt 64 bytes 72 136
        return .ok ⟨version, .ofBytes integrityHash.toList, payloadOffset, payloadSize,
          manifestOffset, manifestSize, signature⟩

def toBytes (h : SealedContainerHeader) : List UInt8 :=
  sealedMagic ++ [h.version] ++ List.replicate 3 0 ++ B3Hash.asBytes h.integrityHash ++
    le64 h.payloadOffset ++ le64 h.payloadSize ++ le64 h.manifestOffset ++ le64 h.manifestSize ++
    h.signature.toList ++ List.replicate 8 0

end SealedContainerHeader

end Header

section Loading

inductive RejectionReason where
  | invalidFormat
  | integrityMismatch
  | signatureInvalid
  | untrustedSigner
  | payloadCorrupted
  | manifestInvalid
  deriving DecidableEq

structure VerifiedAdapter where
  bundle : AdapterBundle
  integrityHash : B3Hash
  signerPubkey : Bytes 32
  available : Bool
  deriving DecidableEq

inductive LoadResult where
  | verified (adapter : VerifiedAdapter)
  | rejected (reason : RejectionReason) (message : String) (expected actual : Option B3Hash)
  deriving DecidableEq

variable (lib : SealLib)

def integrityMessage (version : UInt8) (manifest payload : List UInt8) : List UInt8 :=
  [version] ++ manifest ++ payload

def computeIntegrityHash (version : UInt8) (manifest payload : List UInt8) : B3Hash :=
  lib.hash (integrityMessage version manifest payload)

/-- The checks on the two slices of a container whose header has been read. -/
def checkContents (trustedPubkeys : List (Bytes 32)) (header : SealedContainerHeader)
    (manifestBytes payload : List UInt8) : LoadResult :=
  let actualHash := computeIntegrityHash lib header.version manifestBytes payload
  let declaredHash := header.integrityHash
  if actualHash ≠ declaredHash then
    .rejected .integrityMismatch
      ("Container integrity hash mismatch: tampering detected. Expected " ++
        B3Hash.toHex declaredHash ++ ", got " ++ B3Hash.toHex actualHash)
      (some declaredHash) (some actualHash)
  else
    match trustedPubkeys.find? fun pubkey =>
        lib.verify pubkey (B3Hash.asBytes actualHash) header.signature with
    | none =>
      .rejected .untrustedSigner "No trusted public key verified the signature" none none
    | some signerPubkey =>
      match lib.parseMetadata manifestBytes with
      | .error e => .rejected .manifestInvalid ("Failed to parse manifest: " ++ e) none none
      | .ok manifest =>
        .verified ⟨⟨manifest.name, 0, manifest, lib.hash payload, payload,
          lib.hash manifestBytes, manifestBytes⟩, actualHash, signerPubkey, true⟩

/-- `SealedAdapterLoader::load_from_bytes` on a 64-bit target; `none` is a panic. -/
def loadFromBytes (trustedPubkeys : List (Bytes 32)) (bytes : List UInt8) : Option LoadResult := do
  match ← SealedContainerHeader.fromBytes bytes with
  | .error e => return .rejected .invalidFormat e.display none none
  | .ok header =>
    let payloadEnd := saturatingAdd64 header.payloadOffset.toNat header.payloadSize.toNat
    let manifestEnd := saturatingAdd64 header.manifestOffset.toNat header.manifestSize.toNat
    if payloadEnd > bytes.length ∨ manifestEnd > bytes.length then
      return .rejected .invalidFormat "Payload or manifest extends beyond file bounds" none none
    else
      let payload ← sliceOf bytes header.payloadOffset.toNat payloadEnd
      let manifestBytes ← sliceOf bytes header.manifestOffset.toNat manifestEnd
      return checkContents lib trustedPubkeys header manifestBytes payload

/-- The file that `write_binary` writes. -/
def SealedAdapterContainer.writeBinary (c : SealedAdapterContainer) : List UInt8 :=
  let manifestJson := c.manifest.metadata.toJson lib
  let payloadData := c.payload.weightsData
  let manifestOffset : UInt64 := .ofNat sealedHeaderSize
  let manifestSize : UInt64 := .ofNat manifestJson.length
  let header : SealedContainerHeader := {
    version := c.version
    integrityHash := computeContainerHash lib c.version c.manifest c.payload
    payloadOffset := manifestOffset + manifestSize
    payloadSize := .ofNat payloadData.length
    manifestOffset
    manifestSize
    signature := c.manifest.signature }
  header.toBytes ++ manifestJson ++ payloadData

end Loading

end AdapterOS.Aos
