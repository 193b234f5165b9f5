import AdapterOS.Core.Hex

/-! The policy audit trail as it is verified without a database: entries that are hashed with the
hash of the entry before, and how much of two trails the last hash determines. -/
namespace AdapterOS.Audit

open Library

structure AuditEntry where
  id : String
  tenantId : String
  policyPackId : String
  hook : String
  decision : String
  reason : Option String := none
  requestId : Option String := none
  userId : Option String := none
  resourceType : Option String := none
  resourceId : Option String := none
  metadataJson : Option String := none
  timestamp : String
  entryHash : String
  previousHash : Option String := none
  chainSequence : Int
  deriving DecidableEq

structure AuditChainResult where
  isValid : Bool
  entriesChecked : Nat
  firstInvalidIndex : Option Nat
  firstInvalidSequence : Option Int
  divergenceDetected : Bool
  errorMessage : Option String
  tenantId : Option String
  deriving DecidableEq

namespace AuditChainResult

def success (entriesChecked : Nat) (tenantId : Option String) : AuditChainResult :=
  ⟨true, entriesChecked, none, none, false, none, tenantId⟩

def failure (entriesChecked firstInvalidIndex : Nat) (firstInvalidSequence : Int)
    (errorMessage : String) (tenantId : Option String) : AuditChainResult :=
  ⟨false, entriesChecked, some firstInvalidIndex, some firstInvalidSequence, true,
    some errorMessage, tenantId⟩

end AuditChainResult

namespace AuditEntry

/-- The hashed texts in their order; an absent one is empty. -/
def fields (e : AuditEntry) : List String :=
  [e.id, e.timestamp, e.tenantId, e.policyPackId, e.hook, e.decision, e.reason.getD "",
    e.requestId.getD "", e.userId.getD "", e.resourceType.getD "", e.resourceId.getD "",
    e.metadataJson.getD ""]

def entryData (e : AuditEntry) : String :=
  e.fields.foldr (fun field rest => field ++ "|" ++ rest) (e.previousHash.getD "")

def computeEntryHash (hash : List UInt8 → B3Hash) (e : AuditEntry) : B3Hash :=
  hash (utf8 e.entryData)

def hexHash (hash : List UInt8 → B3Hash) (e : AuditEntry) : String :=
  (e.computeEntryHash hash).toHex

end AuditEntry

section Verification

/-- The first entry that is not numbered on from `prevSeq`, linked to the hash before it and stored
with its own digest: its index and what is wrong with it. -/
def firstFailure (digest : AuditEntry → String)
    (linkError : Option String → Option String → Option String)
    (hashError : AuditEntry → String) :
    Nat → Option String → Int → List AuditEntry → Option (Nat × AuditEntry × String)
  | _, _, _, [] => none
  | idx, prevHash, prevSeq, entry :: rest =>
    if entry.chainSequence ≠ prevSeq + 1 then
      some (idx, entry, "Sequence gap: expected " ++ toString (prevSeq + 1) ++ ", got " ++
        toString entry.chainSequence)
    else
      match linkError prevHash entry.previousHash with
      | some message => some (idx, entry, message)
      | none =>
        if digest entry ≠ entry.entryHash then some (idx, entry, hashError entry)
        else
          firstFailure digest linkError hashError (idx + 1) (some entry.entryHash)
            entry.chainSequence rest

/-- What is wrong with the link of an entry, given the hash of the one before. -/
def linkError : Option String → Option String → Option String
  | some expected, some actual =>
    if expected ≠ actual then
      some ("Previous hash mismatch: expected " ++ expected ++ ", got " ++ actual)
    else none
  | some expected, none => some ("Previous hash missing: expected " ++ expected)
  | none, some _ => some "First entry has non-null previous_hash"
  | none, none => none

def hashError (hash : List UInt8 → B3Hash) (entry : AuditEntry) : String :=
  "Entry hash mismatch (tampering detected): computed " ++ entry.hexHash hash ++ ", stored " ++
    entry.entryHash

def verifyAuditChain (hash : List UInt8 → B3Hash) (entries : List AuditEntry) : AuditChainResult :=
  match entries with
  | [] => .success 0 none
  | first :: _ =>
    match firstFailure (AuditEntry.hexHash hash) linkError (hashError hash) 0 none 0 entries with
    | some (idx, entry, message) =>
      .failure (idx + 1) idx entry.chainSequence message (some first.tenantId)
    | none => .success entries.length (some first.tenantId)

/-- Numbered on from `seq`, linked to `prev`, and each with the digest of its contents. -/
def Accepted (digest : AuditEntry → String) : Option String → Int → List AuditEntry → Prop
  | _, _, [] => True
  | prev, seq, e :: rest => e.chainSequence = seq + 1 ∧ e.previousHash = prev ∧
      e.entryHash = digest e ∧ Accepted digest (some e.entryHash) (seq + 1) rest

theorem firstFailure_eq_none {digest : AuditEntry → String}
    {linkError : Option String → Option String → Option String} (hashError : AuditEntry → String)
    (hlink : ∀ prev link, linkError prev link = none ↔ link = prev) (idx : Nat)
    (prev : Option String) (seq : Int) (entries : List AuditEntry) :
    firstFailure digest linkError hashError idx prev seq entries = none ↔
      Accepted digest prev seq entries := by
  induction entries generalizing idx prev seq with
  | nil => simp [firstFailure, Accepted]
  | cons e rest ih => grind [firstFailure, Accepted]

theorem linkError_eq_none (prev link : Option String) :
    linkError prev link = none ↔ link = prev := by
  cases prev <;> cases link <;> simp [linkError, eq_comm]

theorem verifyAuditChain_isValid (hash : List UInt8 → B3Hash) (entries : List AuditEntry) :
    (verifyAuditChain hash entries).isValid = true ↔
      Accepted (AuditEntry.hexHash hash) none 0 entries := by
  rw [← firstFailure_eq_none (hashError hash) linkError_eq_none 0]
  cases entries with
  | nil => simp [verifyAuditChain, AuditChainResult.success, firstFailure]
  | cons first rest =>
    simp only [verifyAuditChain]
    split <;> simp_all [AuditChainResult.success, AuditChainResult.failure]

end Verification

section Binding

variable {hash : List UInt8 → B3Hash} {a b : AuditEntry} {l m : List AuditEntry}
  {p q : Option String} {seq : Int}

def Agree (a b : AuditEntry) : Prop := a.fields = b.fields ∧ a.chainSequence = b.chainSequence

def SameBars (a b : AuditEntry) : Prop :=
  a.fields.map (fun f => f.toList.count '|') = b.fields.map fun f => f.toList.count '|'

instance : DecidableRel Agree :=
  fun a b => inferInstanceAs (Decidable (a.fields = b.fields ∧ _))

instance : DecidableRel SameBars := fun _ _ => inferInstanceAs (Decidable (_ = _))

def joined (e : AuditEntry) : List Char := terminated '|' (e.fields.map String.toList)

def messages (l : List AuditEntry) : List (List UInt8) := l.map fun e => utf8 e.entryData

theorem toList_entryData (e : AuditEntry) :
    e.entryData.toList = joined e ++ (e.previousHash.getD "").toList := by
  have hfold : ∀ (fields : List String) (last : String),
      (fields.foldr (fun field rest => field ++ "|" ++ rest) last).toList =
        terminated '|' (fields.map String.toList) ++ last.toList := by
    intro fields last
    induction fields with
    | nil => rfl
    | cons f fields ih => simp [terminated, ih]
  exact hfold e.fields _

theorem bar_notMem_toHex (h : B3Hash) : '|' ∉ (B3Hash.toHex h).toList := by
  have hdigit : ∀ n, n < 16 → Nat.digitChar n ≠ '|' := by decide
  rw [B3Hash.toHex, String.toList_ofList, List.mem_map]
  rintro ⟨i, -, he⟩
  exact hdigit _ (Nat.mod_lt _ (by decide)) he

theorem toHex_ne_empty (h : B3Hash) : B3Hash.toHex h ≠ "" := by
  intro he
  have hlen := congrArg (fun s => s.toList.length) he
  simp [B3Hash.toHex] at hlen

def Digest (p : Option String) : Prop := p = none ∨ ∃ h, p = some (B3Hash.toHex h)

theorem Digest.bar_notMem (h : Digest p) : '|' ∉ (p.getD "").toList := by
  rcases h with rfl | ⟨h, rfl⟩
  · simp
  · exact bar_notMem_toHex h

theorem Digest.eq_of_getD (hp : Digest p) (hq : Digest q) (h : p.getD "" = q.getD "") : p = q := by
  rcases hp with rfl | ⟨g, rfl⟩ <;> rcases hq with rfl | ⟨g', rfl⟩
  · rfl
  · exact absurd h.symm (toHex_ne_empty g')
  · exact absurd h (toHex_ne_empty g)
  · exact congrArg some h

theorem joined_of_hash_eq (hfree : CollisionFree hash (messages l))
    (ha : a ∈ l) (hb : b ∈ l) (hda : Digest a.previousHash) (hdb : Digest b.previousHash)
    (he : a.hexHash hash = b.hexHash hash) :
    joined a = joined b ∧ a.previousHash = b.previousHash := by
  have hmessage : utf8 a.entryData = utf8 b.entryData :=
    (hfree.eq_iff (List.mem_map_of_mem ha) (List.mem_map_of_mem hb)).mp (toHex_inj.mp he)
  have htext := congrArg String.toList (utf8_inj.mp hmessage)
  rw [toList_entryData, toList_entryData] at htext
  obtain ⟨hjoined, hprev⟩ := terminated_append_inj (by simp [AuditEntry.fields])
    (by simp [AuditEntry.fields]) hda.bar_notMem hdb.bar_notMem htext
  exact ⟨hjoined, hda.eq_of_getD hdb (String.toList_inj.mp hprev)⟩

theorem joined_of_last_eq (hfree : CollisionFree hash (messages (l ++ m))) (hne : l ≠ [])
    (hl : Accepted (AuditEntry.hexHash hash) p seq l)
    (hm : Accepted (AuditEntry.hexHash hash) q seq m) (hp : Digest p)
    (hq : Digest q) (hlen : l.length = m.length)
    (hlast : l.getLast?.map AuditEntry.entryHash = m.getLast?.map AuditEntry.entryHash) :
    List.Forall₂ (fun a b => joined a = joined b) l m ∧ p = q := by
  induction l generalizing m p q seq with
  | nil => exact absurd rfl hne
  | cons a l ih =>
    cases m with
    | nil => simp at hlen
    | cons b m =>
      obtain ⟨-, hpa, hha, hl⟩ := hl
      obtain ⟨-, hpb, hhb, hm⟩ := hm
      have htails : List.Forall₂ (fun a b => joined a = joined b) l m ∧
          a.entryHash = b.entryHash := by
        cases l with
        | nil =>
          have hnil : m = [] := by simpa using hlen.symm
          subst m
          exact ⟨.nil, by simpa using hlast⟩
        | cons a' l =>
          cases m with
          | nil => simp at hlen
          | cons b' m =>
            have hsub : messages (a' :: l ++ b' :: m) ⊆
                messages (a :: a' :: l ++ b :: b' :: m) := by
              refine List.map_subset _ ?_
              grind
            obtain ⟨hrest, he⟩ := ih (hfree.mono hsub) (by simp) hl hm
              (Or.inr ⟨a.computeEntryHash hash, congrArg some hha⟩)
              (Or.inr ⟨b.computeEntryHash hash, congrArg some hhb⟩) (by simpa using hlen)
              (by simpa [List.getLast?_cons_cons] using hlast)
            exact ⟨hrest, Option.some.inj he⟩
      obtain ⟨hrest, hhash⟩ := htails
      have hhead := joined_of_hash_eq hfree List.mem_cons_self
        (List.mem_append_right _ List.mem_cons_self) (hpa ▸ hp) (hpb ▸ hq)
        (by rw [← hha, ← hhb, hhash])
      exact ⟨.cons hhead.1 hrest, hpa ▸ hpb ▸ hhead.2⟩

theorem chainSequence_eq {digest : AuditEntry → String} (hl : Accepted digest p seq l)
    (hm : Accepted digest q seq m) (hlen : l.length = m.length) :
    List.Forall₂ (fun a b => a.chainSequence = b.chainSequence) l m := by
  induction l generalizing m p q seq with
  | nil =>
    have hnil : m = [] := by simpa using hlen.symm
    subst m
    exact .nil
  | cons a l ih =>
    cases m with
    | nil => simp at hlen
    | cons b m =>
      obtain ⟨ha, -, -, hl⟩ := hl
      obtain ⟨hb, -, -, hm⟩ := hm
      exact .cons (ha.trans hb.symm) (ih hl hm (by simpa using hlen))

theorem fields_eq_of_joined (hbars : SameBars a b) (h : joined a = joined b) :
    a.fields = b.fields := by
  have hcount : (a.fields.map String.toList).map (List.count '|') =
      (b.fields.map String.toList).map (List.count '|') := by
    rw [List.map_map, List.map_map]
    exact hbars
  exact List.map_injective_iff.mpr (fun _ _ => String.toList_inj.mp)
    (terminated_inj_of_count hcount h)

/-- Two accepted trails of one length with the same last hash agree exactly if the bars inside
their fields do. -/
theorem chains_agree_iff (hfree : CollisionFree hash (messages (l ++ m)))
    (hl : (verifyAuditChain hash l).isValid = true) (hm : (verifyAuditChain hash m).isValid = true)
    (hlen : l.length = m.length)
    (hlast : l.getLast?.map AuditEntry.entryHash = m.getLast?.map AuditEntry.entryHash) :
    List.Forall₂ Agree l m ↔ List.Forall₂ SameBars l m := by
  rw [verifyAuditChain_isValid] at hl hm
  constructor
  · intro h
    exact h.imp fun a b hab => by rw [SameBars, hab.1]
  · intro h
    have hseq := chainSequence_eq hl hm hlen
    have hjoined : List.Forall₂ (fun a b => joined a = joined b) l m := by
      by_cases hne : l = []
      · have hnil : m = [] := by simpa [hne] using hlen.symm
        rw [hne, hnil]
        exact .nil
      · exact (joined_of_last_eq hfree hne hl hm (Or.inl rfl) (Or.inl rfl) hlen hlast).1
    clear hfree hl hm hlen hlast
    induction h with
    | nil => exact .nil
    | cons hbars _ ih =>
      obtain ⟨hseq, hseqs⟩ := List.forall₂_cons.mp hseq
      obtain ⟨hjoin, hjoins⟩ := List.forall₂_cons.mp hjoined
      exact .cons ⟨fields_eq_of_joined hbars hjoin, hseq⟩ (ih hseqs hjoins)

/-- A trail of one tenant with the given reasons and requests, hashed and linked. -/
def sampleChain : Int → Option String → List (Option String × Option String) → List AuditEntry
  | _, _, [] => []
  | seq, prev, (reason, requestId) :: rest =>
    let e : AuditEntry :=
      { id := "aud-1", tenantId := "t", policyPackId := "p", hook := "h", decision := "deny"
        reason := reason, requestId := requestId, timestamp := "0", entryHash := ""
        previousHash := prev, chainSequence := seq + 1 }
    let entryHash := e.hexHash digitHash
    { e with entryHash := entryHash } :: sampleChain (seq + 1) (some entryHash) rest

/-- Two trails that differ only in absent and empty fields. -/
theorem emptyFields_agree :
    List.Forall₂ Agree (sampleChain 0 none [(none, some "r"), (some "x|y", none)])
      (sampleChain 0 none [(some "", some "r"), (some "x|y", some "")]) := by
  refine (@chains_agree_iff digitHash _ _ ?_ ?_ ?_ ?_ ?_).mpr ?_
  · decide +kernel
  · decide +kernel
  · decide +kernel
  · decide
  · decide +kernel
  · exact .cons (by decide) (.cons (by decide) .nil)

/-- A bar moves the end of the reason into the request, and no hash changes. -/
theorem movedBar_unseen :
    CollisionFree digitHash (messages (sampleChain 0 none [(some "a|b", some "c")] ++
        sampleChain 0 none [(some "a", some "b|c")])) ∧
      (verifyAuditChain digitHash (sampleChain 0 none [(some "a|b", some "c")])).isValid = true ∧
      (verifyAuditChain digitHash (sampleChain 0 none [(some "a", some "b|c")])).isValid = true ∧
      (sampleChain 0 none [(some "a|b", some "c")]).getLast?.map AuditEntry.entryHash =
        (sampleChain 0 none [(some "a", some "b|c")]).getLast?.map AuditEntry.entryHash ∧
      ¬ List.Forall₂ Agree (sampleChain 0 none [(some "a|b", some "c")])
        (sampleChain 0 none [(some "a", some "b|c")]) := by
  refine ⟨by decide, by decide, by decide, by decide, ?_⟩
  rintro (_ | ⟨hab, -⟩)
  revert hab
  decide

end Binding

end AdapterOS.Audit
