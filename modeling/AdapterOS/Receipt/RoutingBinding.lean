import AdapterOS.Library.Chain
import AdapterOS.Receipt.DigestBinding
import AdapterOS.Receipt.TraceBlobs
import AdapterOS.Receipt.TraceDurability
import Mathlib.Algebra.Order.BigOperators.Group.List

/-! What the routing digest of a receipt binds of the routing steps it was fed: every hashed field
of every step, and nothing of the adapter indices. -/
namespace AdapterOS.Receipt

open Library

section Calls

/-- The two ways of recording a step. -/
inductive RoutingCall where
  | step (index : UInt32) (inputTokenId : Option UInt32) (adapterIndices : List UInt16)
      (gatesQ15 : List Int16) (entropy : UInt32) (policyMaskDigest : Option B3Hash)
  | decision (record : RoutingRecord)

/-- The record that a call accumulates. -/
def RoutingCall.record : RoutingCall → RoutingRecord
  | .step index inputTokenId adapterIndices gatesQ15 entropy policyMaskDigest =>
    ⟨index, inputTokenId, adapterIndices, [], gatesQ15, entropy, policyMaskDigest, none, none, none⟩
  | .decision record => record

def ReceiptGenerator.feed (hash : List UInt8 → B3Hash) (g : ReceiptGenerator) :
    RoutingCall → ReceiptGenerator
  | .step index inputTokenId adapterIndices gatesQ15 entropy policyMaskDigest =>
    g.recordRoutingStep hash index inputTokenId adapterIndices gatesQ15 entropy policyMaskDigest
  | .decision record => g.recordRoutingDecision hash record

/-- A new generator and the calls that it is fed. -/
structure RoutingRun where
  modelHash : B3Hash
  adapterConfigHash : B3Hash
  calls : List RoutingCall

variable (hash : List UInt8 → B3Hash)

def RoutingRun.digest (x : RoutingRun) : RoutingDigest :=
  (run (ReceiptGenerator.feed hash) (.new hash x.modelHash x.adapterConfigHash)
    x.calls).routingDigest

def RoutingRun.records (x : RoutingRun) : List RoutingRecord := x.calls.map RoutingCall.record

end Calls

section Links

/-- What a record adds to the chain: its step index and its framed decision. -/
def RoutingRecord.link (contextDigest : B3Hash) (record : RoutingRecord) : UInt32 × List UInt8 :=
  (record.step, decisionMessage contextDigest record.step (encodeAdapterIds record.adapterIds)
    (encodeGatesQ15 record.gatesQ15) record.policyMaskDigest
    (record.allowedMask.map encodeAllowedMask) none record.backendId record.kernelVersionId)

variable (hash : List UInt8 → B3Hash)

def RoutingDigest.extend (d : RoutingDigest) (link : UInt32 × List UInt8) : RoutingDigest :=
  ⟨d.decisionCount + 1, updateRunHead hash d.digest link.1 (hash link.2)⟩

/-- The messages that are hashed along a chain. -/
def chainMessages : B3Hash → List (UInt32 × List UInt8) → List (List UInt8)
  | _, [] => []
  | head, link :: links =>
    link.2 :: headMessage head link.1 (hash link.2) ::
      chainMessages (updateRunHead hash head link.1 (hash link.2)) links

def RoutingRun.context (x : RoutingRun) : B3Hash :=
  (ContextId.compute hash x.modelHash x.adapterConfigHash).digest

def RoutingRun.links (x : RoutingRun) : List (UInt32 × List UInt8) :=
  x.records.map (RoutingRecord.link (x.context hash))

def RoutingRun.messages (x : RoutingRun) : List (List UInt8) :=
  (B3Hash.asBytes x.modelHash ++ B3Hash.asBytes x.adapterConfigHash) ::
    chainMessages hash 0 (x.links hash)

variable {hash} {x : RoutingRun} {d : RoutingDigest} {links others : List (UInt32 × List UInt8)}

theorem feed_eq (g : ReceiptGenerator) (call : RoutingCall) : g.feed hash call = { g with
        routingDigest := g.routingDigest.extend hash (call.record.link g.contextId.digest) } := by
  cases call with
  | step => rfl
  | decision => rfl

theorem run_feed (g : ReceiptGenerator) (calls : List RoutingCall) :
    (run (ReceiptGenerator.feed hash) g calls).routingDigest =
      ((calls.map RoutingCall.record).map (RoutingRecord.link g.contextId.digest)).foldl
        (RoutingDigest.extend hash) g.routingDigest := by
  induction calls generalizing g with
  | nil => rfl
  | cons call calls ih =>
    rw [run_cons, ih, feed_eq]
    rfl

theorem RoutingRun.digest_eq (x : RoutingRun) :
    x.digest hash = (x.links hash).foldl (RoutingDigest.extend hash) .new :=
  run_feed _ x.calls

theorem mem_chainMessages {front : List (UInt32 × List UInt8)} {link : UInt32 × List UInt8}
    (h : front ++ [link] <+: links) :
    link.2 ∈ chainMessages hash d.digest links ∧
      headMessage (front.foldl (RoutingDigest.extend hash) d).digest link.1 (hash link.2) ∈
        chainMessages hash d.digest links := by
  induction links generalizing d front with
  | nil => simp at h
  | cons first links ih =>
    cases front with
    | nil => grind [chainMessages]
    | cons other front =>
      obtain ⟨rfl, hrest⟩ := List.cons_prefix_cons.mp h
      obtain ⟨hmessage, hhead⟩ := @ih (d.extend hash other) front hrest
      exact ⟨List.mem_cons_of_mem _ (List.mem_cons_of_mem _ hmessage),
        List.mem_cons_of_mem _ (List.mem_cons_of_mem _ hhead)⟩

theorem headMessage_inj {prev prev' decision decision' : B3Hash} {i j : UInt32}
    (h : headMessage prev i decision = headMessage prev' j decision') :
    prev = prev' ∧ decision = decision' ∧ i = j := by
  have hreads := ((B3Hash.reads_asBytes prev prev').append
    (B3Hash.reads_asBytes decision decision')).append (reads_le32 i j)
  simpa only [and_assoc] using hreads.eq_iff.mp h

theorem RoutingDigest.eq_of_fields {d e : RoutingDigest}
    (hcount : d.decisionCount = e.decisionCount) (hdigest : d.digest = e.digest) : d = e := by
  cases d
  cases e
  cases hcount
  cases hdigest
  rfl

theorem toldApart_extend
    (hfree : CollisionFree hash (chainMessages hash 0 links ++ chainMessages hash 0 others)) :
    ToldApart (RoutingDigest.extend hash) .new links others := by
  intro front a other b hfront hother he
  obtain ⟨hcount, hdigest⟩ := RoutingDigest.mk.injEq .. ▸ he
  obtain ⟨hma, hha⟩ := @mem_chainMessages hash .new links front a hfront
  obtain ⟨hmb, hhb⟩ := @mem_chainMessages hash .new others other b hother
  have hhead := hfree (List.mem_append_left _ hha) (List.mem_append_right _ hhb) hdigest
  obtain ⟨hprev, hdecision, hindex⟩ := headMessage_inj hhead
  have hmessage := hfree (List.mem_append_left _ hma) (List.mem_append_right _ hmb) hdecision
  grind [RoutingDigest.eq_of_fields]

end Links

section Binding

def RoutingRecord.Agree (r s : RoutingRecord) : Prop :=
  r.step = s.step ∧ r.adapterIndices = s.adapterIndices ∧ r.adapterIds = s.adapterIds ∧
    r.gatesQ15 = s.gatesQ15 ∧ r.policyMaskDigest = s.policyMaskDigest

/-- The fields that are hashed, with an absent text for an empty one. -/
def RoutingRecord.SameHashed (r s : RoutingRecord) : Prop :=
  r.step = s.step ∧ r.adapterIds = s.adapterIds ∧ r.gatesQ15 = s.gatesQ15 ∧
    r.policyMaskDigest = s.policyMaskDigest ∧ r.allowedMask = s.allowedMask ∧
    r.backendId.getD "" = s.backendId.getD "" ∧
    r.kernelVersionId.getD "" = s.kernelVersionId.getD ""

/-- Every field fits the 32-bit length that it is hashed after. -/
structure RoutingRecord.Short (r : RoutingRecord) : Prop where
  adapterIds : (encodeAdapterIds r.adapterIds).length < 2 ^ 32
  gates : (encodeGatesQ15 r.gatesQ15).length < 2 ^ 32
  allowedMask : ((r.allowedMask.map encodeAllowedMask).getD []).length < 2 ^ 32
  backendId : (utf8 (r.backendId.getD "")).length < 2 ^ 32
  kernelVersionId : (utf8 (r.kernelVersionId.getD "")).length < 2 ^ 32

def RoutingRun.Binds (hash : List UInt8 → B3Hash) (x y : RoutingRun) : Prop :=
  x.digest hash = y.digest hash → List.Forall₂ RoutingRecord.Agree x.records y.records

variable {hash : List UInt8 → B3Hash} {x y : RoutingRun} {r s : RoutingRecord} {c e : B3Hash}
  {ids : List String} {gates : List Int16} {mask : List Bool}

theorem short_of_encodeAdapterIds (h : (encodeAdapterIds ids).length < 2 ^ 32) :
    ids.length < 2 ^ 32 ∧ ∀ id ∈ ids, (utf8 id).length < 2 ^ 32 := by
  have hsum : (encodeAdapterIds ids).length = 4 + (ids.map fun id => 4 + (utf8 id).length).sum := by
    simp [encodeAdapterIds, List.length_flatMap, length_lengthPrefixed]
  rw [hsum] at h
  constructor
  · grind [List.length_le_sum_of_one_le, List.length_map]
  · intro id hid
    have hone : 4 + (utf8 id).length ≤ (ids.map fun id => 4 + (utf8 id).length).sum :=
      List.single_le_sum (by simp) _ (List.mem_map_of_mem hid)
    omega

theorem encodeAdapterIds_inj {others : List String} (h : (encodeAdapterIds ids).length < 2 ^ 32)
    (h' : (encodeAdapterIds others).length < 2 ^ 32) :
    encodeAdapterIds ids = encodeAdapterIds others ↔ ids = others := by
  grind [short_of_encodeAdapterIds, decodeAdapterIds_encode]

theorem length_encodeGatesQ15 (gates : List Int16) :
    (encodeGatesQ15 gates).length = 4 + 2 * gates.length := by
  simp [encodeGatesQ15, List.length_flatMap, Nat.mul_comm]

theorem encodeGatesQ15_inj {others : List Int16} (h : (encodeGatesQ15 gates).length < 2 ^ 32)
    (h' : (encodeGatesQ15 others).length < 2 ^ 32) :
    encodeGatesQ15 gates = encodeGatesQ15 others ↔ gates = others := by
  refine ⟨?_, fun he => he ▸ rfl⟩
  intro he
  rw [length_encodeGatesQ15] at h h'
  rw [← decodeGatesQ15_encode (by omega : gates.length < 2 ^ 32), he,
    decodeGatesQ15_encode (by omega)]

theorem length_encodeAllowedMask (mask : List Bool) :
    (encodeAllowedMask mask).length = 4 + mask.length := by
  simp [encodeAllowedMask, List.length_flatMap]

theorem maskBlob_inj {m n : Option (List Bool)}
    (h : ((m.map encodeAllowedMask).getD []).length < 2 ^ 32)
    (h' : ((n.map encodeAllowedMask).getD []).length < 2 ^ 32) :
    (m.map encodeAllowedMask).getD [] = (n.map encodeAllowedMask).getD [] ↔ m = n := by
  have hne : ∀ mask, encodeAllowedMask mask ≠ [] := by
    intro mask he
    have := length_encodeAllowedMask mask
    rw [he, List.length_nil] at this
    omega
  cases m with
  | none => cases n <;> simp [(hne _).symm]
  | some mask =>
    cases n with
    | none => simp [hne]
    | some others => grind [length_encodeAllowedMask, decodeAllowedMask_encode]

/-- The decisions of short records are framed alike exactly if they have the same context and the
same hashed fields. -/
theorem link_eq_iff (hr : r.Short) (hs : s.Short) :
    r.link c = s.link e ↔ c = e ∧ r.SameHashed s := by
  have hnone : Reads (stringBytes none) (stringBytes none) True := reads_of_length rfl (by simp)
  have hreads := ((((((((B3Hash.reads_asBytes c e).append (reads_le32 r.step s.step)).append
    (reads_lengthPrefixed hr.adapterIds hs.adapterIds)).append
    (reads_lengthPrefixed hr.gates hs.gates)).append
    (reads_attestationBytes r.policyMaskDigest s.policyMaskDigest)).append
    (reads_lengthPrefixed hr.allowedMask hs.allowedMask)).append hnone).append
    (reads_stringBytes hr.backendId hs.backendId)).append
    (reads_stringBytes hr.kernelVersionId hs.kernelVersionId)
  have hmessage := hreads.eq_iff
  rw [encodeAdapterIds_inj hr.adapterIds hs.adapterIds, encodeGatesQ15_inj hr.gates hs.gates,
    maskBlob_inj hr.allowedMask hs.allowedMask] at hmessage
  rw [RoutingRecord.link, RoutingRecord.link, Prod.mk.injEq]
  constructor
  · rintro ⟨hstep, he⟩
    obtain ⟨⟨⟨⟨⟨⟨⟨⟨hcontext, _⟩, hids⟩, hgates⟩, hpolicy⟩, hmask⟩, _⟩, hbackend⟩, hkernel⟩ :=
      hmessage.mp he
    exact ⟨hcontext, hstep, hids, hgates, hpolicy, hmask, hbackend, hkernel⟩
  · rintro ⟨hcontext, hstep, hids, hgates, hpolicy, hmask, hbackend, hkernel⟩
    exact ⟨hstep, hmessage.mpr
      ⟨⟨⟨⟨⟨⟨⟨⟨hcontext, hstep⟩, hids⟩, hgates⟩, hpolicy⟩, hmask⟩, trivial⟩, hbackend⟩, hkernel⟩⟩

theorem map_link_eq_iff {rs ss : List RoutingRecord} (hrs : ∀ r ∈ rs, r.Short)
    (hss : ∀ s ∈ ss, s.Short) :
    rs.map (RoutingRecord.link c) = ss.map (RoutingRecord.link c) ↔
      List.Forall₂ RoutingRecord.SameHashed rs ss := by
  induction rs generalizing ss with
  | nil =>
    rw [List.map_nil, eq_comm, List.map_eq_nil_iff, List.forall₂_nil_left_iff]
  | cons r rs ih =>
    cases ss with
    | nil => simp
    | cons s ss =>
      rw [List.forall_mem_cons] at hrs hss
      rw [List.map_cons, List.map_cons, List.cons.injEq, ih hrs.2 hss.2,
        link_eq_iff hrs.1 hss.1, List.forall₂_cons]
      exact and_congr_left fun _ => and_iff_right rfl

theorem forall₂_agree {rs ss : List RoutingRecord}
    (hhashed : List.Forall₂ RoutingRecord.SameHashed rs ss)
    (hindices : List.Forall₂ (fun r s => r.adapterIndices = s.adapterIndices) rs ss) :
    List.Forall₂ RoutingRecord.Agree rs ss := by
  induction hhashed with
  | nil => exact .nil
  | cons h _ ih =>
    obtain ⟨hstep, hids, hgates, hpolicy, _⟩ := h
    cases hindices with
    | cons hindex hrest => exact .cons ⟨hstep, hindex, hids, hgates, hpolicy⟩ (ih hrest)

theorem context_eq_iff (hfree : CollisionFree hash (x.messages hash ++ y.messages hash)) :
    x.context hash = y.context hash ↔
      x.modelHash = y.modelHash ∧ x.adapterConfigHash = y.adapterConfigHash := by
  have hreads := (B3Hash.reads_asBytes x.modelHash y.modelHash).append
    (B3Hash.reads_asBytes x.adapterConfigHash y.adapterConfigHash)
  rw [← hreads.eq_iff]
  exact hfree.eq_iff (List.mem_append_left _ List.mem_cons_self)
    (List.mem_append_right _ List.mem_cons_self)

/-- The digests are equal if the chains have the same links, or if one of them gets back to where it
started and then has the links of the other. -/
theorem RoutingRun.digest_eq_iff (hfree : CollisionFree hash (x.messages hash ++ y.messages hash)) :
    x.digest hash = y.digest hash ↔ x.links hash = y.links hash ∨
        Restarts (RoutingDigest.extend hash) .new (x.links hash) (y.links hash) ∨
        Restarts (RoutingDigest.extend hash) .new (y.links hash) (x.links hash) := by
  rw [x.digest_eq, y.digest_eq]
  apply foldl_eq_iff_of_toldApart
  apply toldApart_extend
  apply hfree.mono
  exact List.append_subset.mpr ⟨fun m hm => List.mem_append_left _ (List.mem_cons_of_mem _ hm),
      fun m hm => List.mem_append_right _ (List.mem_cons_of_mem _ hm)⟩

theorem not_agree_of_restarts
    (h : Restarts (RoutingDigest.extend hash) .new (x.links hash) (y.links hash)) :
    x.records.length ≠ y.records.length := by
  have := h.length_lt
  simp only [RoutingRun.links, List.length_map] at this
  omega

theorem RoutingRun.binds_iff (hfree : CollisionFree hash (x.messages hash ++ y.messages hash)) :
    x.Binds hash y ↔
      (x.links hash = y.links hash → List.Forall₂ RoutingRecord.Agree x.records y.records) ∧
        ¬ Restarts (RoutingDigest.extend hash) .new (x.links hash) (y.links hash) ∧
        ¬ Restarts (RoutingDigest.extend hash) .new (y.links hash) (x.links hash) := by
  rw [RoutingRun.Binds, RoutingRun.digest_eq_iff hfree]
  constructor
  · intro h
    refine ⟨fun he => h (.inl he), ?_, ?_⟩
    · intro hxy
      exact not_agree_of_restarts hxy (h (.inr (.inl hxy))).length_eq
    · intro hyx
      exact not_agree_of_restarts hyx (h (.inr (.inr hyx))).length_eq.symm
  all_goals grind

theorem agree_of_links_iff (hfree : CollisionFree hash (x.messages hash ++ y.messages hash))
    (hx : ∀ r ∈ x.records, r.Short) (hy : ∀ r ∈ y.records, r.Short) :
    (x.links hash = y.links hash → List.Forall₂ RoutingRecord.Agree x.records y.records) ↔
      (x.modelHash = y.modelHash → x.adapterConfigHash = y.adapterConfigHash →
        List.Forall₂ RoutingRecord.SameHashed x.records y.records →
        List.Forall₂ (fun r s => r.adapterIndices = s.adapterIndices) x.records y.records) := by
  have hcontext := context_eq_iff hfree
  constructor
  · intro h hmodel hconfig hhashed
    have hlinks : x.links hash = y.links hash := by grind [RoutingRun.links, map_link_eq_iff]
    exact (h hlinks).imp fun _ _ hagree => hagree.2.1
  · intro h hlinks
    by_cases hsame : x.context hash = y.context hash
    · grind [RoutingRun.links, map_link_eq_iff, forall₂_agree]
    · -- Every link carries its context, so there are none.
      rw [RoutingRun.links, RoutingRun.links] at hlinks
      cases hrx : x.records with
      | nil =>
        rw [hrx, List.map_nil, eq_comm, List.map_eq_nil_iff] at hlinks
        rw [hlinks]
        exact .nil
      | cons r rs =>
        cases hry : y.records with
        | nil => simp [hrx, hry] at hlinks
        | cons s ss => grind [link_eq_iff]

/-- Equal routing digests mean agreeing steps exactly if the same hashed bytes do and neither chain
restarts; for records whose fields fit their lengths, exactly if runs under the same configuration
that agree on the hashed fields also agree on the adapter indices. -/
theorem routingDigest_binds_iff (hfree : CollisionFree hash (x.messages hash ++ y.messages hash)) :
    (x.Binds hash y ↔
      (x.links hash = y.links hash → List.Forall₂ RoutingRecord.Agree x.records y.records) ∧
        ¬ Restarts (RoutingDigest.extend hash) .new (x.links hash) (y.links hash) ∧
        ¬ Restarts (RoutingDigest.extend hash) .new (y.links hash) (x.links hash)) ∧
    ((∀ r ∈ x.records, r.Short) → (∀ r ∈ y.records, r.Short) → (x.Binds hash y ↔
        (x.modelHash = y.modelHash → x.adapterConfigHash = y.adapterConfigHash →
          List.Forall₂ RoutingRecord.SameHashed x.records y.records →
          List.Forall₂ (fun r s => r.adapterIndices = s.adapterIndices) x.records y.records) ∧
        ¬ Restarts (RoutingDigest.extend hash) .new (x.links hash) (y.links hash) ∧
        ¬ Restarts (RoutingDigest.extend hash) .new (y.links hash) (x.links hash))) := by
  refine ⟨RoutingRun.binds_iff hfree, ?_⟩
  intro hx hy
  rw [RoutingRun.binds_iff hfree, agree_of_links_iff hfree hx hy]

set_option maxRecDepth 1000

/-- Two steps that differ in the gate alone. -/
theorem routingDigest_binds_gates : let x : RoutingRun := ⟨1, 2, [.step 0 none [1] [5] 0 none]⟩
    let y : RoutingRun := ⟨1, 2, [.step 0 none [1] [6] 0 none]⟩
    CollisionFree digitHash (x.messages digitHash ++ y.messages digitHash) ∧
      x.Binds digitHash y := by
  intro x y
  have hfree : CollisionFree digitHash (x.messages digitHash ++ y.messages digitHash) := by
    decide
  refine ⟨hfree, (routingDigest_binds_iff hfree).1.mpr ⟨?_, ?_, ?_⟩⟩
  · intro he
    exact absurd he (by decide)
  · intro h
    exact absurd h.length_lt (by decide)
  · intro h
    exact absurd h.length_lt (by decide)

/-- The selection of an adapter by its index leaves no trace in the digest. -/
theorem routingDigest_ignores_indices : let x : RoutingRun := ⟨1, 2, [.step 0 none [1] [5] 0 none]⟩
    let y : RoutingRun := ⟨1, 2, [.step 0 none [2] [5] 0 none]⟩
    CollisionFree digitHash (x.messages digitHash ++ y.messages digitHash) ∧
      x.digest digitHash = y.digest digitHash ∧ ¬ x.Binds digitHash y := by
  intro x y
  have hdigest : x.digest digitHash = y.digest digitHash := rfl
  refine ⟨by decide, hdigest, ?_⟩
  intro h
  obtain ⟨hagree, -⟩ := List.forall₂_cons.mp (h hdigest)
  exact absurd hagree.2.1 (by decide)

end Binding

end AdapterOS.Receipt
