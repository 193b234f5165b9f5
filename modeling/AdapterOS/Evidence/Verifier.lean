import AdapterOS.Evidence.Envelope
import AdapterOS.Library.Chain

/-! The verifier of evidence chains: every envelope has the root of its payload and is linked to the
root before it. A root does not commit to the link, so the last root says nothing of those before. -/
namespace AdapterOS.Evidence

open Library

structure EnvelopeVerificationResult where
  isValid : Bool := false
  schemaVersionOk : Bool := false
  signatureValid : Bool := false
  rootMatches : Bool := false
  chainLinkValid : Bool := false
  payloadValid : Bool := false
  errorMessage : Option String := none
  deriving DecidableEq

structure ChainVerificationResult where
  isValid : Bool := true
  envelopesChecked : Nat := 0
  firstInvalidIndex : Option Nat := none
  divergenceDetected : Bool := false
  errorMessage : Option String := none
  deriving DecidableEq

section Verification

variable (hash : List UInt8 → B3Hash) (verifySignature : EvidenceEnvelope → Except AosError Bool)

def computeEnvelopeRoot (e : EvidenceEnvelope) : Except AosError B3Hash :=
  match e.scope with
  | .telemetry =>
    match e.bundleMetadataRef with
    | none => .error (.validation "Missing bundle_metadata_ref")
    | some r => .ok (hash (B3Hash.asBytes r.bundleHash ++ B3Hash.asBytes r.merkleRoot))
  | .policy =>
    match e.policyAuditRef with
    | none => .error (.validation "Missing policy_audit_ref")
    | some r => .ok r.entryHash
  | .inference =>
    match e.inferenceReceiptRef with
    | none => .error (.validation "Missing inference_receipt_ref")
    | some r => .ok r.receiptDigest

/-- What is wrong with a link; where none is expected any link is let through. -/
def linkError (previousRoot expected : Option B3Hash) : Option String :=
  match previousRoot, expected with
  | some prev, some expected =>
    if prev = expected then none
    else some ("Chain link mismatch: expected " ++ B3Hash.toShortHex expected ++ ", got " ++
      B3Hash.toShortHex prev)
  | none, some expected =>
    some ("Unexpected chain break: expected link to " ++ B3Hash.toShortHex expected ++ ", got None")
  | _, none => none

def verifyEnvelope (e : EvidenceEnvelope) (expectedPreviousRoot : Option B3Hash) :
    Except AosError EnvelopeVerificationResult :=
  if e.schemaVersion ≠ evidenceEnvelopeSchemaVersion then
    .ok { errorMessage := some ("Schema version mismatch: expected " ++
      toString evidenceEnvelopeSchemaVersion ++ ", got " ++ toString e.schemaVersion) }
  else
    match e.validate with
    | .error err =>
      .ok { schemaVersionOk := true
            errorMessage := some ("Payload validation failed: " ++ err.display) }
    | .ok () =>
      match computeEnvelopeRoot hash e with
      | .error err => .error err
      | .ok computedRoot =>
        if computedRoot ≠ e.root then
          .ok { schemaVersionOk := true, payloadValid := true
                errorMessage := some ("Root hash mismatch: expected " ++
                  B3Hash.toShortHex computedRoot ++ ", got " ++ B3Hash.toShortHex e.root) }
        else
          match linkError e.previousRoot expectedPreviousRoot with
          | some message =>
            .ok { schemaVersionOk := true, payloadValid := true, rootMatches := true
                  errorMessage := some message }
          | none =>
            match (if e.isSigned then verifySignature e else .ok true) with
            | .error err => .error err
            | .ok false =>
              .ok { schemaVersionOk := true, payloadValid := true, rootMatches := true
                    chainLinkValid := true
                    errorMessage := some "Signature verification failed" }
            | .ok true =>
              .ok { isValid := true, schemaVersionOk := true, payloadValid := true
                    rootMatches := true, chainLinkValid := true, signatureValid := true }

/-- The loop over the chain from an index and the root before it. -/
def verifyFrom : Nat → Option B3Hash → List EvidenceEnvelope →
    Except AosError (Option ChainVerificationResult)
  | _, _, [] => .ok none
  | i, prevRoot, e :: rest =>
    match verifyEnvelope hash verifySignature e prevRoot with
    | .error err => .error err
    | .ok result =>
      if result.isValid then verifyFrom (i + 1) (some e.root) rest
      else .ok (some ⟨false, i + 1, some i, !result.chainLinkValid, result.errorMessage⟩)

def verifyChain (envelopes : List EvidenceEnvelope) : Except AosError ChainVerificationResult :=
  match envelopes with
  | [] => .ok {}
  | _ =>
    match verifyFrom hash verifySignature 0 none envelopes with
    | .error err => .error err
    | .ok (some failure) => .ok failure
    | .ok none => .ok ⟨true, envelopes.length, none, false, none⟩

end Verification

section Acceptance

variable {hash : List UInt8 → B3Hash} {verifySignature : EvidenceEnvelope → Except AosError Bool}
  {e : EvidenceEnvelope} {prev : Option B3Hash} {l : List EvidenceEnvelope}

def Accepts (hash : List UInt8 → B3Hash) (verifySignature : EvidenceEnvelope → Except AosError Bool)
    (l : List EvidenceEnvelope) : Prop :=
  ∃ result, verifyChain hash verifySignature l = .ok result ∧ result.isValid = true

theorem linkError_eq_none {link expected : Option B3Hash} :
    linkError link expected = none ↔ ∀ root, expected = some root → link = some root := by
  cases expected with
  | none => cases link <;> simp [linkError]
  | some expected =>
    cases link with
    | none => simp [linkError]
    | some link => simp [linkError]

/-- An envelope is valid exactly if it validates, has its payload's root and the expected link, and
its signature, if it has one, is good. -/
theorem verifyEnvelope_isValid :
    (∃ result, verifyEnvelope hash verifySignature e prev = .ok result ∧ result.isValid = true) ↔
      e.validate = .ok () ∧ computeEnvelopeRoot hash e = .ok e.root ∧
        (∀ root, prev = some root → e.previousRoot = some root) ∧
        (e.isSigned = true → verifySignature e = .ok true) := by
  unfold verifyEnvelope
  by_cases hversion : e.schemaVersion = evidenceEnvelopeSchemaVersion
  · rw [if_neg (not_not.mpr hversion)]
    cases hvalidate : e.validate with
    | error err => simp
    | ok _ =>
      cases hroot : computeEnvelopeRoot hash e with
      | error err => simp
      | ok computed =>
        by_cases heq : computed = e.root
        · rw [← linkError_eq_none]
          cases hlink : linkError e.previousRoot prev with
          | some message => simp [heq]
          | none =>
            by_cases hsigned : e.isSigned = true
            · cases hsig : verifySignature e with
              | error err => simp [heq, hsigned]
              | ok good => cases good <;> simp [heq, hsigned]
            · simp [heq, hsigned]
        · simp [heq]
  · have hinvalid : e.validate ≠ .ok () := fun h => hversion ((e.validate_eq_ok).mp h).1
    rw [if_pos hversion]
    simp [hinvalid]

/-- What the verifier demands of a chain after the root `prev`. -/
def Chained (hash : List UInt8 → B3Hash)
    (verifySignature : EvidenceEnvelope → Except AosError Bool) :
    Option B3Hash → List EvidenceEnvelope → Prop
  | _, [] => True
  | prev, e :: rest =>
    (e.validate = .ok () ∧ computeEnvelopeRoot hash e = .ok e.root ∧
      (∀ root, prev = some root → e.previousRoot = some root) ∧
      (e.isSigned = true → verifySignature e = .ok true)) ∧
    Chained hash verifySignature (some e.root) rest

theorem verifyFrom_eq_none (i : Nat) : verifyFrom hash verifySignature i prev l = .ok none ↔
      Chained hash verifySignature prev l := by
  induction l generalizing i prev with
  | nil => simp [verifyFrom, Chained]
  | cons e l ih =>
    rw [Chained, ← verifyEnvelope_isValid, verifyFrom]
    grind

theorem verifyFrom_failure {i : Nat} {failure : ChainVerificationResult}
    (h : verifyFrom hash verifySignature i prev l = .ok (some failure)) :
    failure.isValid = false := by
  induction l generalizing i prev with
  | nil => simp [verifyFrom] at h
  | cons e l ih => grind [verifyFrom]

theorem verifyChain_of_chained (h : Chained hash verifySignature none l) :
    verifyChain hash verifySignature l = .ok ⟨true, l.length, none, false, none⟩ := by
  cases l with
  | nil => rfl
  | cons e l => simp only [verifyChain, (verifyFrom_eq_none 0).mpr h]

theorem accepts_iff : Accepts hash verifySignature l ↔ Chained hash verifySignature none l := by
  constructor
  · rintro ⟨result, hresult, hvalid⟩
    cases l with
    | nil => trivial
    | cons e l => grind [verifyFrom_eq_none, verifyChain, verifyFrom_failure]
  · intro h
    exact ⟨_, verifyChain_of_chained h, rfl⟩

theorem Chained.linked (h : Chained hash verifySignature prev (e :: l)) :
    Linked EvidenceEnvelope.previousRoot EvidenceEnvelope.root e.previousRoot (e :: l) := by
  induction l generalizing prev e with
  | nil => exact ⟨rfl, trivial⟩
  | cons d l ih =>
    have hlink : d.previousRoot = some e.root := h.2.1.2.2.1 e.root rfl
    have htail := ih h.2
    rw [hlink] at htail
    exact ⟨rfl, htail⟩

end Acceptance

section Tampering

variable {hash : List UInt8 → B3Hash} {verifySignature : EvidenceEnvelope → Except AosError Bool}
  {l m : List EvidenceEnvelope}

def LinksBound (l m : List EvidenceEnvelope) : Prop :=
  List.Forall₂ (fun a b => a.root = b.root → a.previousRoot = b.previousRoot) l m

/-- Two accepted chains of one length with the same first link and the same last root have the same
roots exactly if envelopes with the same root at one place have the same link. -/
theorem roots_eq_iff_linksBound (hl : Accepts hash verifySignature l)
    (hm : Accepts hash verifySignature m) (hlen : l.length = m.length)
    (hfirst : l.head?.map EvidenceEnvelope.previousRoot = m.head?.map EvidenceEnvelope.previousRoot)
    (hlast : l.getLast?.map EvidenceEnvelope.root = m.getLast?.map EvidenceEnvelope.root) :
    l.map EvidenceEnvelope.root = m.map EvidenceEnvelope.root ↔ LinksBound l m := by
  rw [accepts_iff] at hl hm
  cases l with
  | nil =>
    have hnil : m = [] := List.eq_nil_of_length_eq_zero hlen.symm
    rw [hnil]
    exact ⟨fun _ => .nil, fun _ => rfl⟩
  | cons a l =>
    cases m with
    | nil => simp at hlen
    | cons b m =>
      have hlinks : a.previousRoot = b.previousRoot := by simpa using hfirst
      have hll := hl.linked
      have hlm := hm.linked
      rw [← hlinks] at hlm
      constructor
      · intro h
        refine List.Forall₂.imp ?_ (map_back_eq_of_names hll hlm h)
        intro x y hback _
        exact hback
      · intro h
        refine (map_name_eq_of_bound hll hlm ?_ h).1
        rw [tip, tip, hlast]

/-- An unsigned chain of policy decisions with the given digests. -/
def sampleChain (decision : String) : Option B3Hash → List B3Hash → List EvidenceEnvelope
  | _, [] => []
  | previousRoot, entryHash :: rest =>
    .newPolicy "t" previousRoot "0" ⟨"d", entryHash, 1, "p", "h", decision⟩ ::
      sampleChain decision (some entryHash) rest

theorem accepts_sampleChain (decision : String) (previousRoot : Option B3Hash)
    (digests : List B3Hash) :
    Accepts hash verifySignature (sampleChain decision previousRoot digests) := by
  have hchained : ∀ prev link, (∀ root, prev = some root → link = some root) →
      Chained hash verifySignature prev (sampleChain decision link digests) := by
    induction digests with
    | nil => exact fun _ _ _ => trivial
    | cons d digests ih =>
      intro prev link hlink
      have hvalidate : (EvidenceEnvelope.newPolicy "t" link "0"
          ⟨"d", d, 1, "p", "h", decision⟩).validate = .ok () := rfl
      exact ⟨⟨hvalidate, rfl, hlink, fun hsigned => by cases hsigned⟩,
        ih (some d) (some d) fun _ => id⟩
  exact accepts_iff.mpr (hchained none previousRoot (by simp))

/-- Two chains that differ only outside their roots and links. -/
theorem roots_eq_decisions : (sampleChain "allow" none [1, 2]).map EvidenceEnvelope.root =
      (sampleChain "deny" none [1, 2]).map EvidenceEnvelope.root := by
  refine (@roots_eq_iff_linksBound digitHash (fun _ => .ok true) _ _ (accepts_sampleChain _ _ _)
    (accepts_sampleChain _ _ _) rfl rfl rfl).mpr ?_
  exact .cons (fun _ => rfl) (.cons (fun _ => rfl) .nil)

/-- The first of two roots is replaced, and neither the last root nor a check shows it. -/
theorem replacedRoot_unseen :
    (∀ e ∈ sampleChain "allow" none [1, 3] ++ sampleChain "allow" none [2, 3], e.isSigned = false) ∧
      (sampleChain "allow" none [1, 3]).head?.map EvidenceEnvelope.previousRoot =
        (sampleChain "allow" none [2, 3]).head?.map EvidenceEnvelope.previousRoot ∧
      (sampleChain "allow" none [1, 3]).getLast?.map EvidenceEnvelope.root =
        (sampleChain "allow" none [2, 3]).getLast?.map EvidenceEnvelope.root ∧
      (sampleChain "allow" none [1, 3]).map EvidenceEnvelope.root ≠
        (sampleChain "allow" none [2, 3]).map EvidenceEnvelope.root ∧
      ∀ (hash : List UInt8 → B3Hash) (verifySignature : EvidenceEnvelope → Except AosError Bool),
        Accepts hash verifySignature (sampleChain "allow" none [1, 3]) ∧
        Accepts hash verifySignature (sampleChain "allow" none [2, 3]) := by
  refine ⟨?_, rfl, rfl, ?_, ?_⟩
  · decide
  · decide
  · intro hash verifySignature
    exact ⟨accepts_sampleChain _ _ _, accepts_sampleChain _ _ _⟩

end Tampering

end AdapterOS.Evidence
