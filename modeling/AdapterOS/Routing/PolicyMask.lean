import AdapterOS.Routing.ActiveStack

/-! The policy mask built from allow and deny lists, an index gate and blocked indices. -/
namespace AdapterOS.Routing

open Library

namespace PolicyMask

section Build

variable (hash : List UInt8 → B3Hash)

/-- Writes the slot of every listed id; ids that are not registered are logged and ignored. -/
def setListed (idToIndex : HashMap AdapterId Nat) (bit : Bool) (allowed : List Bool)
    (ids : List AdapterId) : List Bool :=
  ids.foldl (fun allowed id => match idToIndex.get? id with
    | some idx => allowed.set idx bit
    | none => allowed) allowed

def gated (adapterIds : List AdapterId) : Option (HashSet Nat) → List Bool
  | some indices => adapterIds.zipIdx.map fun e => decide (e.2 ∈ indices)
  | none => List.replicate adapterIds.length true

def applyAllowed (idToIndex : HashMap AdapterId Nat) (allowed : List Bool) :
    Option (List AdapterId) → List Bool
  | some allowIds => setListed idToIndex true (allowed.map fun _ => false) allowIds
  | none => allowed

def applyDenied (idToIndex : HashMap AdapterId Nat) (allowed : List Bool) :
    Option (List AdapterId) → List Bool
  | some denyIds => setListed idToIndex false allowed denyIds
  | none => allowed

def applyTrustBlocked (allowed : List Bool) : Option (HashSet Nat) → List Bool
  | some blocked => blocked.keys.foldl (fun allowed idx => allowed.set idx false) allowed
  | none => allowed

def build (adapterIds : List AdapterId)
    (allowedAdapterIds deniedAdapterIds : Option (List AdapterId))
    (allowedIndicesGate trustBlockedIndices : Option (HashSet Nat))
    (contextPolicyDigest : Option B3Hash) : PolicyMask :=
  let idToIndex := HashMap.collect adapterIds.zipIdx
  let listed := applyAllowed idToIndex (gated adapterIds allowedIndicesGate) allowedAdapterIds
  let kept := applyDenied idToIndex listed deniedAdapterIds
  let allowed := applyTrustBlocked kept trustBlockedIndices
  { allowed
    digest := computePolicyMaskDigest hash contextPolicyDigest adapterIds allowed
    overridesApplied := {
      allowList := allowedIndicesGate.isSome || allowedAdapterIds.isSome
      denyList := deniedAdapterIds.isSome
      trustState := trustBlockedIndices.isSome } }

end Build

/-- The inputs of a mask that decide its bits. -/
structure Rules where
  adapterIds : List AdapterId
  allowedAdapterIds : Option (List AdapterId)
  deniedAdapterIds : Option (List AdapterId)
  allowedIndicesGate : Option (HashSet Nat)
  trustBlockedIndices : Option (HashSet Nat)

namespace Rules

variable (r : Rules) (i : Nat) (id : AdapterId)

def Gated : Prop := ∀ indices, r.allowedIndicesGate = some indices → i ∈ indices

def Listed : Prop := ∀ ids, r.allowedAdapterIds = some ids → id ∈ ids

def Denied : Prop := ∃ ids, r.deniedAdapterIds = some ids ∧ id ∈ ids

def Blocked : Prop := ∃ indices, r.trustBlockedIndices = some indices ∧ i ∈ indices

def Permits : Prop := r.Gated i ∧ r.Listed id ∧ ¬ r.Denied id ∧ ¬ r.Blocked i

def LastOf : Prop := ∀ j, r.adapterIds[j]? = some id → j ≤ i

def mask (hash : List UInt8 → B3Hash) (contextPolicyDigest : Option B3Hash) : PolicyMask :=
  build hash r.adapterIds r.allowedAdapterIds r.deniedAdapterIds r.allowedIndicesGate
    r.trustBlockedIndices contextPolicyDigest

/-- Outside the blocked indices, a denied adapter that passes the gate is the last with its id;
with an allow list instead, among the adapters with a listed and not denied id the gate lets
through exactly the last of each id. -/
def Unmixed : Prop :=
  ∀ i id, r.adapterIds[i]? = some id → ¬ r.Blocked i →
    match r.allowedAdapterIds with
    | none => r.Gated i → r.Denied id → r.LastOf i id
    | some ids => id ∈ ids → ¬ r.Denied id → (r.LastOf i id ↔ r.Gated i)

end Rules

section Bits

variable {idToIndex : HashMap AdapterId Nat} {bit : Bool} {allowed : List Bool} {i : Nat}
  {ids : List AdapterId} {id : AdapterId} {r : Rules}

theorem length_foldl_set (positions : List Nat) :
    (positions.foldl (fun allowed j => allowed.set j bit) allowed).length = allowed.length := by
  induction positions generalizing allowed with
  | nil => rfl
  | cons j positions ih => rw [List.foldl_cons, ih, List.length_set]

theorem getElem?_foldl_set (hi : i < allowed.length) (positions : List Nat) :
    (positions.foldl (fun allowed j => allowed.set j bit) allowed)[i]? =
      if i ∈ positions then some bit else allowed[i]? := by
  induction positions generalizing allowed with
  | nil => simp
  | cons j positions ih => grind

theorem setListed_eq (idToIndex : HashMap AdapterId Nat) (bit : Bool) (allowed : List Bool)
    (ids : List AdapterId) :
    setListed idToIndex bit allowed ids =
      (ids.filterMap idToIndex.get?).foldl (fun allowed j => allowed.set j bit) allowed := by
  induction ids generalizing allowed with
  | nil => rfl
  | cons id ids ih =>
    rw [setListed, List.foldl_cons, List.filterMap_cons]
    cases idToIndex.get? id with
    | none => exact ih allowed
    | some idx => exact ih (allowed.set idx bit)

theorem mem_filterMap_collect (hid : r.adapterIds[i]? = some id) :
    i ∈ ids.filterMap (HashMap.collect r.adapterIds.zipIdx).get? ↔ id ∈ ids ∧ r.LastOf i id := by
  simp only [List.mem_filterMap, HashMap.get?_collect_zipIdx, hid, Option.some.injEq]
  constructor
  · rintro ⟨_, hmem, rfl, hlast⟩
    exact ⟨hmem, hlast⟩
  · rintro ⟨hmem, hlast⟩
    exact ⟨id, hmem, rfl, hlast⟩

theorem getElem?_setListed (hi : i < allowed.length) (hid : r.adapterIds[i]? = some id)
    (bit : Bool) (ids : List AdapterId) :
    (setListed (HashMap.collect r.adapterIds.zipIdx) bit allowed ids)[i]? = some true ↔
      (bit = true ∧ id ∈ ids ∧ r.LastOf i id) ∨
        (allowed[i]? = some true ∧ ¬ (id ∈ ids ∧ r.LastOf i id)) := by
  rw [setListed_eq, getElem?_foldl_set hi]
  by_cases hmem : id ∈ ids ∧ r.LastOf i id
  · rw [if_pos ((mem_filterMap_collect hid).mpr hmem)]
    simp [hmem]
  · rw [if_neg (mt (mem_filterMap_collect hid).mp hmem)]
    simp [hmem]

theorem length_gated (ids : List AdapterId) (gate : Option (HashSet Nat)) :
    (gated ids gate).length = ids.length := by
  cases gate with
  | none => simp [gated]
  | some indices => simp [gated]

theorem length_applyAllowed (list : Option (List AdapterId)) :
    (applyAllowed idToIndex allowed list).length = allowed.length := by
  cases list with
  | none => rfl
  | some ids => simp [applyAllowed, setListed_eq, length_foldl_set]

theorem length_applyDenied (list : Option (List AdapterId)) :
    (applyDenied idToIndex allowed list).length = allowed.length := by
  cases list with
  | none => rfl
  | some ids => simp [applyDenied, setListed_eq, length_foldl_set]

theorem length_applyTrustBlocked (blocked : Option (HashSet Nat)) :
    (applyTrustBlocked allowed blocked).length = allowed.length := by
  cases blocked with
  | none => rfl
  | some indices => exact length_foldl_set _

theorem gated_bit (hi : i < r.adapterIds.length) :
    (gated r.adapterIds r.allowedIndicesGate)[i]? = some true ↔ r.Gated i := by
  cases hgate : r.allowedIndicesGate with
  | none => simp [gated, Rules.Gated, hgate, hi]
  | some indices => simp [gated, Rules.Gated, hgate, hi]

theorem applyAllowed_bit (hi : i < allowed.length) (hid : r.adapterIds[i]? = some id) :
    (applyAllowed (HashMap.collect r.adapterIds.zipIdx) allowed r.allowedAdapterIds)[i]? =
        some true ↔
      match r.allowedAdapterIds with
      | none => allowed[i]? = some true
      | some ids => id ∈ ids ∧ r.LastOf i id := by
  cases r.allowedAdapterIds with
  | none => rfl
  | some ids =>
    rw [applyAllowed, getElem?_setListed (by simpa using hi) hid]
    simp [hi]

theorem applyDenied_bit (hi : i < allowed.length) (hid : r.adapterIds[i]? = some id) :
    (applyDenied (HashMap.collect r.adapterIds.zipIdx) allowed r.deniedAdapterIds)[i]? =
        some true ↔ allowed[i]? = some true ∧ ¬ (r.Denied id ∧ r.LastOf i id) := by
  cases hdeny : r.deniedAdapterIds with
  | none => simp [applyDenied, Rules.Denied, hdeny]
  | some ids =>
    rw [applyDenied, getElem?_setListed hi hid]
    simp [Rules.Denied, hdeny]

theorem applyTrustBlocked_bit (hi : i < allowed.length) :
    (applyTrustBlocked allowed r.trustBlockedIndices)[i]? = some true ↔
      allowed[i]? = some true ∧ ¬ r.Blocked i := by
  cases hblocked : r.trustBlockedIndices with
  | none => simp [applyTrustBlocked, Rules.Blocked, hblocked]
  | some indices =>
    rw [applyTrustBlocked, getElem?_foldl_set hi]
    grind [Rules.Blocked, AList.mem_keys]

theorem length_mask (r : Rules) (hash : List UInt8 → B3Hash) (contextPolicyDigest : Option B3Hash) :
    (r.mask hash contextPolicyDigest).allowed.length = r.adapterIds.length := by
  simp only [Rules.mask, build, length_applyTrustBlocked, length_applyDenied, length_applyAllowed,
    length_gated]

theorem mask_bit (hash : List UInt8 → B3Hash) (contextPolicyDigest : Option B3Hash)
    (hid : r.adapterIds[i]? = some id) :
    (r.mask hash contextPolicyDigest).allowed[i]? = some true ↔ (match r.allowedAdapterIds with
        | none => r.Gated i
        | some ids => id ∈ ids ∧ r.LastOf i id) ∧
      ¬ (r.Denied id ∧ r.LastOf i id) ∧ ¬ r.Blocked i := by
  have hi : i < r.adapterIds.length := (List.getElem?_eq_some_iff.mp hid).1
  have hgated : i < (gated r.adapterIds r.allowedIndicesGate).length := by rwa [length_gated]
  have hlisted := hgated
  rw [← @length_applyAllowed (HashMap.collect r.adapterIds.zipIdx) _ r.allowedAdapterIds]
    at hlisted
  grind [length_applyDenied, Rules.mask, build, applyTrustBlocked_bit, applyDenied_bit,
    applyAllowed_bit, gated_bit]

/-- The mask is the conjunction of its four rules exactly if the lists name each adapter by its
last occurrence and an allow list names none that the gate excludes. -/
theorem mask_permits_iff (r : Rules) (hash : List UInt8 → B3Hash)
    (contextPolicyDigest : Option B3Hash) :
    (r.mask hash contextPolicyDigest).allowed.length = r.adapterIds.length ∧
    ((∀ i id, r.adapterIds[i]? = some id →
        ((r.mask hash contextPolicyDigest).allowed[i]? = some true ↔ r.Permits i id)) ↔
      r.Unmixed) := by
  refine ⟨length_mask r hash contextPolicyDigest, forall₃_congr ?_⟩
  grind [mask_bit, Rules.Permits, Rules.Listed]

end Bits

def gatedAndListed : Rules :=
  ⟨["a", "b"], some ["b"], none, some ((∅ : HashSet Nat).insert 0 ()), none⟩

def deniedTwice : Rules := ⟨["a", "a"], none, some ["a"], none, none⟩

/-- An allow list reopens an adapter that the gate excludes, and a deny list misses all but the
last adapter with a repeated id. -/
theorem mask_reopens_gate : ((gatedAndListed.mask (fun _ => 0) none).allowed = [false, true] ∧
      ¬ gatedAndListed.Permits 1 "b") ∧
    (deniedTwice.mask (fun _ => 0) none).allowed = [true, false] ∧ ¬ deniedTwice.Permits 0 "a" := by
  refine ⟨⟨by decide, ?_⟩, by decide, ?_⟩
  · rintro ⟨hgated, _⟩
    exact absurd (hgated _ rfl) (by decide)
  · rintro ⟨_, _, hdenied, _⟩
    exact hdenied ⟨["a"], rfl, by decide⟩

end PolicyMask

section Digest

variable {hash : List UInt8 → B3Hash} {context context' : Option B3Hash}
  {ids others : List AdapterId} {bits bits' : List Bool}

def maskMessage (context : Option B3Hash) (ids : List AdapterId) (bits : List Bool) : List UInt8 :=
  B3Hash.asBytes (context.getD 0) ++ ids.flatMap (fun id => utf8 id ++ [0]) ++
    bits.map fun b => if b then 1 else 0

theorem maskMessage_inj (hids : ∀ id ∈ ids, '\x00' ∉ id.toList)
    (hothers : ∀ id ∈ others, '\x00' ∉ id.toList) (hbits : bits.length = ids.length)
    (hbits' : bits'.length = others.length)
    (h : maskMessage context ids bits = maskMessage context' others bits') :
    context.getD 0 = context'.getD 0 ∧ ids = others ∧ bits = bits' := by
  have hfields : ∀ l : List AdapterId, l.flatMap (fun id => utf8 id ++ [0]) =
      terminated 0 (l.map utf8) := by
    intro l
    simp [terminated, List.flatMap_map]
  rw [maskMessage, maskMessage, hfields, hfields, List.append_assoc, List.append_assoc] at h
  obtain ⟨hcontext, hrest⟩ := List.append_inj h (by simp)
  have hzero : ∀ l : List AdapterId, (∀ id ∈ l, '\x00' ∉ id.toList) → ∀ f ∈ l.map utf8, 0 ∉ f := by
    intro l hl f hf
    obtain ⟨id, hid, rfl⟩ := List.mem_map.mp hf
    exact zero_notMem_utf8 (hl id hid)
  obtain ⟨htexts, hmask⟩ := terminated_append_inj_of_length (hzero ids hids) (hzero others hothers)
    (by simp [hbits, hbits', Nat.add_comm]) hrest
  refine ⟨B3Hash.asBytes_inj.mp hcontext, ?_, ?_⟩
  · exact List.map_injective_iff.mpr (fun _ _ => utf8_inj.mp) htexts
  · exact List.map_injective_iff.mpr (by intro a b; cases a <;> cases b <;> simp) hmask

/-- The digest of a mask binds the context, the ids in their order and the mask. -/
theorem computePolicyMaskDigest_inj (hids : ∀ id ∈ ids, '\x00' ∉ id.toList)
    (hothers : ∀ id ∈ others, '\x00' ∉ id.toList) (hbits : bits.length = ids.length)
    (hbits' : bits'.length = others.length)
    (hfree : CollisionFree hash [maskMessage context ids bits, maskMessage context' others bits'])
    (h : computePolicyMaskDigest hash context ids bits =
      computePolicyMaskDigest hash context' others bits') :
    context.getD 0 = context'.getD 0 ∧ ids = others ∧ bits = bits' :=
  maskMessage_inj hids hothers hbits hbits' (hfree (by simp) (by simp) h)

theorem computePolicyMaskDigest_inj_absent :
    (none : Option B3Hash).getD 0 = (some 0 : Option B3Hash).getD 0 ∧
      ["a"] = ["a"] ∧ [true] = [true] :=
  @computePolicyMaskDigest_inj (fun _ => 0) none (some 0) ["a"] ["a"] [true] [true] (by decide)
    (by decide) rfl rfl (by decide) rfl

end Digest

end AdapterOS.Routing
