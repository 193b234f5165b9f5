import AdapterOS.Receipt.Digest

/-! Cryptographic receipts: one digest over the component digests of an inference run. -/
namespace AdapterOS.Receipt

open Library

def cryptoReceiptSchemaVersion : UInt8 := 1

structure ContextId where
  modelHash : B3Hash
  adapterConfigHash : B3Hash
  digest : B3Hash
  deriving DecidableEq

structure EquipmentProfile where
  processorId : String
  engineVersion : String
  aneVersion : Option String
  digest : B3Hash
  deriving DecidableEq

/-- The routing decision of one step; the entropy is given by the bits of its float. -/
structure RoutingRecord where
  step : UInt32
  inputTokenId : Option UInt32
  adapterIndices : List UInt16
  adapterIds : List String
  gatesQ15 : List Int16
  entropy : UInt32
  policyMaskDigest : Option B3Hash
  backendId : Option String
  kernelVersionId : Option String
  allowedMask : Option (List Bool)

structure RoutingDigest where
  decisionCount : UInt32
  digest : B3Hash
  deriving DecidableEq

structure ReceiptMetadata where
  tenantId : Option String := none
  traceId : Option String := none
  createdAt : Option String := none
  inputTokenCount : UInt32 := 0
  outputTokenCount : UInt32 := 0
  stopReason : Option String := none
  deriving DecidableEq

structure CryptographicReceipt where
  schemaVersion : UInt8
  contextId : ContextId
  inputDigest : B3Hash
  routingDigest : RoutingDigest
  outputDigest : B3Hash
  equipmentProfile : EquipmentProfile
  receiptDigest : B3Hash
  metadata : ReceiptMetadata
  deriving DecidableEq

variable (hash : List UInt8 → B3Hash)

def ContextId.compute (modelHash adapterConfigHash : B3Hash) : ContextId :=
  ⟨modelHash, adapterConfigHash,
    hash (B3Hash.asBytes modelHash ++ B3Hash.asBytes adapterConfigHash)⟩

def EquipmentProfile.compute (processorId engineVersion : String) (aneVersion : Option String) :
    EquipmentProfile :=
  ⟨processorId, engineVersion, aneVersion,
    hash (utf8 processorId ++ [0] ++ utf8 engineVersion ++ [0] ++
      utf8 (aneVersion.getD "none"))⟩

def RoutingRecord.computeHashCanonical (record : RoutingRecord) (contextDigest : B3Hash) :
    B3Hash :=
  hashTokenDecision hash contextDigest record.step (encodeAdapterIds record.adapterIds)
    (encodeGatesQ15 record.gatesQ15) record.policyMaskDigest
    (record.allowedMask.map encodeAllowedMask) none record.backendId record.kernelVersionId

namespace RoutingDigest

def new : RoutingDigest := ⟨0, 0⟩

def accumulateCanonical (d : RoutingDigest) (record : RoutingRecord) (contextDigest : B3Hash) :
    RoutingDigest :=
  ⟨d.decisionCount + 1,
    updateRunHead hash d.digest record.step (record.computeHashCanonical hash contextDigest)⟩

end RoutingDigest

def computeInputDigest (inputTokens : List UInt32) : B3Hash := hash (outputMessage inputTokens)

namespace CryptographicReceipt

/-- The nested digests are taken as they are stored. -/
def digestMessage (contextId : ContextId) (inputDigest : B3Hash) (routingDigest : RoutingDigest)
    (outputDigest : B3Hash) (equipmentProfile : EquipmentProfile) : List UInt8 :=
  [cryptoReceiptSchemaVersion] ++ B3Hash.asBytes contextId.digest ++
    B3Hash.asBytes inputDigest ++ B3Hash.asBytes routingDigest.digest ++
    B3Hash.asBytes outputDigest ++ B3Hash.asBytes equipmentProfile.digest

def computeReceiptDigest (contextId : ContextId) (inputDigest : B3Hash)
    (routingDigest : RoutingDigest) (outputDigest : B3Hash) (equipmentProfile : EquipmentProfile) :
    B3Hash :=
  hash (digestMessage contextId inputDigest routingDigest outputDigest equipmentProfile)

def verify (r : CryptographicReceipt) : Bool :=
  r.receiptDigest = computeReceiptDigest hash r.contextId r.inputDigest r.routingDigest
    r.outputDigest r.equipmentProfile

def message (r : CryptographicReceipt) : List UInt8 :=
  digestMessage r.contextId r.inputDigest r.routingDigest r.outputDigest r.equipmentProfile

end CryptographicReceipt

structure ReceiptGenerator where
  contextId : ContextId
  equipmentProfile : Option EquipmentProfile
  routingDigest : RoutingDigest
  inputDigest : Option B3Hash
  metadata : ReceiptMetadata
  finalized : Bool

namespace ReceiptGenerator

def new (modelHash adapterConfigHash : B3Hash) : ReceiptGenerator :=
  ⟨.compute hash modelHash adapterConfigHash, none, .new, none, {}, false⟩

def setEquipmentProfile (g : ReceiptGenerator) (processorId engineVersion : String) :
    ReceiptGenerator :=
  { g with equipmentProfile := some (.compute hash processorId engineVersion none) }

def setEquipmentProfileWithAne (g : ReceiptGenerator)
    (processorId engineVersion aneVersion : String) : ReceiptGenerator :=
  { g with equipmentProfile := some (.compute hash processorId engineVersion (some aneVersion)) }

def bindInputTokens (g : ReceiptGenerator) (inputTokens : List UInt32) : ReceiptGenerator :=
  { g with
    inputDigest := some (computeInputDigest hash inputTokens)
    metadata := { g.metadata with inputTokenCount := .ofNat inputTokens.length } }

def recordRoutingDecision (g : ReceiptGenerator) (record : RoutingRecord) : ReceiptGenerator :=
  { g with routingDigest := g.routingDigest.accumulateCanonical hash record g.contextId.digest }

def recordRoutingStep (g : ReceiptGenerator) (step : UInt32) (inputTokenId : Option UInt32)
    (adapterIndices : List UInt16) (gatesQ15 : List Int16) (entropy : UInt32)
    (policyMaskDigest : Option B3Hash) : ReceiptGenerator :=
  g.recordRoutingDecision hash
    ⟨step, inputTokenId, adapterIndices, [], gatesQ15, entropy, policyMaskDigest, none, none, none⟩

def finalize (g : ReceiptGenerator) (outputTokens : List UInt32) :
    Except AosError CryptographicReceipt := do
  if g.finalized then throw (.validation "Receipt generator already finalized")
  let some inputDigest := g.inputDigest
    | throw (.validation "Input tokens not bound. Call bind_input_tokens first.")
  let some equipmentProfile := g.equipmentProfile
    | throw (.validation "Equipment profile not set. Call set_equipment_profile first.")
  let outputDigest := computeOutputDigest hash outputTokens
  return {
    schemaVersion := cryptoReceiptSchemaVersion
    contextId := g.contextId
    inputDigest
    routingDigest := g.routingDigest
    outputDigest
    equipmentProfile
    receiptDigest := CryptographicReceipt.computeReceiptDigest hash g.contextId inputDigest
      g.routingDigest outputDigest equipmentProfile
    metadata := { g.metadata with outputTokenCount := .ofNat outputTokens.length } }

end ReceiptGenerator

namespace CryptographicReceipt

variable {hash} {x y : CryptographicReceipt}

theorem digest_of_verify (h : x.verify hash) : x.receiptDigest = hash x.message :=
  of_decide_eq_true h

theorem nested_of_digest (hx : x.verify hash) (hy : y.verify hash)
    (hfree : CollisionFree hash [x.message, y.message]) (h : y.receiptDigest = x.receiptDigest) :
    y.contextId.digest = x.contextId.digest ∧ y.inputDigest = x.inputDigest ∧
      y.routingDigest.digest = x.routingDigest.digest ∧ y.outputDigest = x.outputDigest ∧
      y.equipmentProfile.digest = x.equipmentProfile.digest := by
  have hmessage : y.message = x.message := by
    rw [digest_of_verify hx, digest_of_verify hy] at h
    exact hfree (by simp) (by simp) h
  have hreads := (((((reads_of_length (P := True) rfl (by simp) :
    Reads [cryptoReceiptSchemaVersion] [cryptoReceiptSchemaVersion] True).append
    (B3Hash.reads_asBytes y.contextId.digest x.contextId.digest)).append
    (B3Hash.reads_asBytes y.inputDigest x.inputDigest)).append
    (B3Hash.reads_asBytes y.routingDigest.digest x.routingDigest.digest)).append
    (B3Hash.reads_asBytes y.outputDigest x.outputDigest)).append
    (B3Hash.reads_asBytes y.equipmentProfile.digest x.equipmentProfile.digest)
  have h := hreads.eq_iff.mp hmessage
  simpa only [true_and, and_assoc] using h

end CryptographicReceipt

section Tampering

variable {hash} {x : CryptographicReceipt}

open CryptographicReceipt

/-- Nothing but the nested digests is bound: every receipt has a forgery that passes with the same
digest and differs in all components, while the nested digests cannot differ. -/
theorem cryptographicReceipt_forgeable (hx : x.verify hash) :
    (∃ y : CryptographicReceipt, y.verify hash ∧ y.receiptDigest = x.receiptDigest ∧
      y.schemaVersion ≠ x.schemaVersion ∧ y.contextId.modelHash ≠ x.contextId.modelHash ∧
      y.contextId.adapterConfigHash ≠ x.contextId.adapterConfigHash ∧
      y.routingDigest.decisionCount ≠ x.routingDigest.decisionCount ∧
      y.equipmentProfile.processorId ≠ x.equipmentProfile.processorId ∧
      y.equipmentProfile.engineVersion ≠ x.equipmentProfile.engineVersion ∧
      y.equipmentProfile.aneVersion ≠ x.equipmentProfile.aneVersion) ∧
    ∀ y : CryptographicReceipt, y.verify hash → CollisionFree hash [x.message, y.message] →
      y.receiptDigest = x.receiptDigest →
      y.contextId.digest = x.contextId.digest ∧ y.inputDigest = x.inputDigest ∧
        y.routingDigest.digest = x.routingDigest.digest ∧ y.outputDigest = x.outputDigest ∧
        y.equipmentProfile.digest = x.equipmentProfile.digest := by
  constructor
  · have hdigest : Nontrivial B3Hash := nontrivial_of_ne 0 1 (by decide)
    have hstring : Nontrivial String := nontrivial_of_ne "" "a" (by decide)
    have hversion : Nontrivial UInt8 := nontrivial_of_ne 0 1 (by decide)
    have hcount : Nontrivial UInt32 := nontrivial_of_ne 0 1 (by decide)
    obtain ⟨version, hv⟩ := exists_ne x.schemaVersion
    obtain ⟨model, hm⟩ := exists_ne x.contextId.modelHash
    obtain ⟨config, hc⟩ := exists_ne x.contextId.adapterConfigHash
    obtain ⟨count, hn⟩ := exists_ne x.routingDigest.decisionCount
    obtain ⟨processor, hp⟩ := exists_ne x.equipmentProfile.processorId
    obtain ⟨engine, he⟩ := exists_ne x.equipmentProfile.engineVersion
    obtain ⟨ane, ha⟩ := exists_ne x.equipmentProfile.aneVersion
    exact ⟨{ x with
      schemaVersion := version
      contextId := ⟨model, config, x.contextId.digest⟩
      routingDigest := ⟨count, x.routingDigest.digest⟩
      equipmentProfile := ⟨processor, engine, ane, x.equipmentProfile.digest⟩ },
      hx, rfl, hv, hm, hc, hn, hp, he, ha⟩
  · intro y hy hfree h
    exact nested_of_digest hx hy hfree h

/-- A receipt for no tokens at all, as the generator issues it. -/
def emptyRunReceipt : CryptographicReceipt :=
  let context := ContextId.compute digitHash 1 2
  let input := computeInputDigest digitHash []
  let output := computeOutputDigest digitHash []
  let equipment := EquipmentProfile.compute digitHash "M4" "mlx" none
  ⟨cryptoReceiptSchemaVersion, context, input, .new, output, equipment,
    CryptographicReceipt.computeReceiptDigest digitHash context input .new output equipment, {}⟩

set_option maxRecDepth 2000

theorem emptyRunReceipt_forgeable :
    ∃ y : CryptographicReceipt, y.verify digitHash ∧
      y.receiptDigest = emptyRunReceipt.receiptDigest ∧
      y.schemaVersion ≠ emptyRunReceipt.schemaVersion := by
  have hx : emptyRunReceipt.verify digitHash := by decide
  obtain ⟨y, hy, hdigest, hversion, _⟩ := (cryptographicReceipt_forgeable hx).1
  exact ⟨y, hy, hdigest, hversion⟩

/-- Another model, another number of decisions and another processor under the same digest. -/
theorem emptyRunReceipt_forged :
    let x := emptyRunReceipt
    let y := { x with
      schemaVersion := 2
      contextId := ⟨3, 2, x.contextId.digest⟩
      routingDigest := ⟨7, x.routingDigest.digest⟩
      equipmentProfile := ⟨"M1", "mlx", none, x.equipmentProfile.digest⟩ }
    CollisionFree digitHash [x.message, y.message] ∧ x.verify digitHash ∧ y.verify digitHash ∧
      x.receiptDigest = y.receiptDigest ∧ x.schemaVersion ≠ y.schemaVersion ∧
      x.contextId.modelHash ≠ y.contextId.modelHash ∧
      x.routingDigest.decisionCount ≠ y.routingDigest.decisionCount ∧
      x.equipmentProfile.processorId ≠ y.equipmentProfile.processorId := by
  decide

end Tampering

end AdapterOS.Receipt
