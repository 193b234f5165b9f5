import AdapterOS.Telemetry.BundleStore
import AdapterOS.Library.Chain
import Mathlib.Data.List.Dedup

/-! What garbage collection leaves in the index, and when the chain of a control plane is still one
afterwards. -/
namespace AdapterOS.Telemetry.BundleStore

open Library

variable {δ : Type*} {s s' : BundleStore δ} {h : B3Hash} {m : BundleMetadata} {cpid : String}
  {report report' : GarbageCollectionReport} {hashes : List B3Hash} {groups : List (List B3Hash)}

section Eviction

theorem evictBundle_ok {bytes : Nat} (he : s.evictBundle h = (.ok bytes, s')) :
    ∃ m data, s.index.get? h = some m ∧ s.bundleFiles.get? (bundlePath s.rootDir h m) = some data ∧
      s' = { s with
        index := s.index.erase h
        bundleFiles := s.bundleFiles.erase (bundlePath s.rootDir h m)
        metaFiles := s.metaFiles.erase (metaPath s.rootDir h m) } := by
  grind [evictBundle]

def evictable (s : BundleStore δ) (h : B3Hash) : Bool :=
  (s.index.get? h).any fun m => !s.policy.protects m

def evictions (s : BundleStore δ) (hashes : List B3Hash) : List B3Hash :=
  (s.toEvict hashes).filter s.evictable

theorem evictable_congr (hi : s'.index.get? h = s.index.get? h)
    (hp : s'.policy = s.policy) : s'.evictable h = s.evictable h := by
  rw [evictable, evictable, hi, hp]

def bundlePathOf (s : BundleStore δ) (h : B3Hash) : Option Path :=
  (s.index.get? h).map (bundlePath s.rootDir h)

def metaPathOf (s : BundleStore δ) (h : B3Hash) : Option Path :=
  (s.index.get? h).map (metaPath s.rootDir h)

/-- The store without some bundles and the files they name. -/
def dropBundles (s : BundleStore δ) (hashes : List B3Hash) : BundleStore δ :=
  { s with
    index := s.index.eraseAll hashes
    bundleFiles := s.bundleFiles.eraseAll (hashes.filterMap s.bundlePathOf)
    metaFiles := s.metaFiles.eraseAll (hashes.filterMap s.metaPathOf) }

theorem get?_dropBundles (s : BundleStore δ) (hashes : List B3Hash) (h : B3Hash) :
    (s.dropBundles hashes).index.get? h = if h ∈ hashes then none else s.index.get? h :=
  AList.get?_eraseAll _ _ _

theorem dropBundles_append {a b : List B3Hash} (hd : ∀ h ∈ b, h ∉ a) :
    s.dropBundles (a ++ b) = (s.dropBundles a).dropBundles b := by
  have hget : ∀ h ∈ b, (s.dropBundles a).index.get? h = s.index.get? h := by
    intro h hh
    rw [get?_dropBundles, if_neg (hd h hh)]
  have hdata : b.filterMap (s.dropBundles a).bundlePathOf = b.filterMap s.bundlePathOf :=
    List.filterMap_congr fun h hh => congrArg (Option.map _) (hget h hh)
  have hmeta : b.filterMap (s.dropBundles a).metaPathOf = b.filterMap s.metaPathOf :=
    List.filterMap_congr fun h hh => congrArg (Option.map _) (hget h hh)
  grind [dropBundles, AList.eraseAll]

/-- The bundles of the list go, each with a file that was there. -/
structure Evicts (s : BundleStore δ) (hashes : List B3Hash) (s' : BundleStore δ) : Prop where
  result : s' = s.dropBundles hashes
  present : ∀ h ∈ hashes, ∃ path ∈ s.bundleFiles, s.bundlePathOf h = some path

theorem Evicts.append {s₁ : BundleStore δ} {a b : List B3Hash} (h₁ : Evicts s a s₁)
    (h₂ : Evicts s₁ b s') (hd : ∀ h ∈ b, h ∉ a) : Evicts s (a ++ b) s' := by
  obtain ⟨rfl, ha⟩ := h₁
  refine ⟨h₂.result.trans (dropBundles_append hd).symm, ?_⟩
  intro h hh
  rcases List.mem_append.mp hh with hh | hh
  · exact ha h hh
  · obtain ⟨path, hpath, hof⟩ := h₂.present h hh
    refine ⟨path, (AList.mem_eraseAll.mp hpath).2, ?_⟩
    rw [← hof, bundlePathOf, bundlePathOf, get?_dropBundles, if_neg (hd h hh)]
    rfl

theorem Evicts.nil (s : BundleStore δ) : Evicts s [] s := ⟨rfl, by simp⟩

theorem Evicts.single {bytes : Nat} (he : s.evictBundle h = (.ok bytes, s')) : Evicts s [h] s' := by
  obtain ⟨m, data, hm, hdata, rfl⟩ := evictBundle_ok he
  refine ⟨?_, ?_⟩
  · simp [dropBundles, AList.eraseAll, bundlePathOf, metaPathOf, hm]
  · simp [bundlePathOf, hm, AList.mem_of_get? hdata]

theorem evictFrom_ok (hn : hashes.Nodup) (he : s.evictFrom report hashes = (.ok report', s')) :
    report'.evictedBundles = report.evictedBundles ++ hashes.filter s.evictable ∧
      Evicts s (hashes.filter s.evictable) s' := by
  induction hashes generalizing s report with
  | nil =>
    obtain ⟨rfl, rfl⟩ : report = report' ∧ s = s' := by simpa [evictFrom] using he
    exact ⟨by simp, .nil s⟩
  | cons h rest ih =>
    obtain ⟨hh, hrest⟩ := List.nodup_cons.mp hn
    cases hm : s.index.get? h with
    | none => grind [evictable, evictFrom]
    | some m =>
      by_cases hp : s.policy.protects m
      · grind [evictable, evictFrom]
      · have hout : s.evictable h = true := by simp [evictable, hm, hp]
        rcases hv : s.evictBundle h with ⟨_ | bytes, s₁⟩
        · simp [evictFrom, hm, hp, hv] at he
        · simp only [evictFrom, hm, hp, hv] at he
          have hfirst := Evicts.single hv
          obtain ⟨hreport, hevicts⟩ := ih hrest he
          -- the hashes that follow are looked up as before
          have hsame : rest.filter s₁.evictable = rest.filter s.evictable := by
            refine List.filter_congr ?_
            intro x hx
            refine evictable_congr ?_ (by rw [hfirst.result]; rfl)
            rw [hfirst.result, get?_dropBundles, if_neg]
            simpa using ne_of_mem_of_not_mem hx hh
          rw [hsame] at hreport hevicts
          rw [List.filter_cons_of_pos hout]
          refine ⟨by simpa using hreport, hfirst.append hevicts ?_⟩
          intro x hx
          simpa using ne_of_mem_of_not_mem (List.mem_of_mem_filter hx) hh

theorem toEvict_congr (hi : ∀ h ∈ hashes, s'.index.get? h = s.index.get? h)
    (hp : s'.policy = s.policy) : s'.toEvict hashes = s.toEvict hashes := by
  rw [toEvict, toEvict, hp, sortBy_congr]
  intro h hh
  rw [hi h hh]

theorem mem_of_mem_toEvict (hh : h ∈ s.toEvict hashes) : h ∈ hashes :=
  mem_sortBy.mp (List.mem_of_mem_take hh)

theorem evictions_congr (hi : ∀ h ∈ hashes, s'.index.get? h = s.index.get? h)
    (hp : s'.policy = s.policy) : s'.evictions hashes = s.evictions hashes := by
  rw [evictions, evictions, toEvict_congr hi hp]
  refine List.filter_congr ?_
  intro h hh
  exact evictable_congr (hi h (mem_of_mem_toEvict hh)) hp

theorem collectGroups_ok (hn : groups.flatten.Nodup)
    (he : s.collectGroups report groups = (.ok report', s')) :
    report'.evictedBundles = report.evictedBundles ++ groups.flatMap s.evictions ∧
      report'.retainedBundles = s'.index.items.length ∧
      Evicts s (groups.flatMap s.evictions) s' := by
  induction groups generalizing s report with
  | nil =>
    simp only [collectGroups, Prod.mk.injEq, Except.ok.injEq] at he
    obtain ⟨rfl, rfl⟩ := he
    exact ⟨by simp, rfl, .nil s⟩
  | cons hashes rest ih =>
    obtain ⟨hhashes, hrest, hdisj⟩ := List.nodup_append.mp hn
    have hnodup : (s.toEvict hashes).Nodup :=
      (List.take_sublist _ _).nodup ((sortBy_perm _ _).nodup_iff.mpr hhashes)
    rcases hv : s.evictFrom report (s.toEvict hashes) with ⟨_ | report₁, s₁⟩
    · simp [collectGroups, hv] at he
    · simp only [collectGroups, hv] at he
      obtain ⟨hreport₁, hfirst⟩ := evictFrom_ok hnodup hv
      obtain ⟨hreport, hretained, hevicts⟩ := ih hrest he
      have hapart : ∀ group ∈ rest, ∀ x ∈ group, x ∉ s.evictions hashes := by
        intro group hgroup x hx hmem
        have hleft := mem_of_mem_toEvict (List.mem_of_mem_filter hmem)
        exact hdisj x hleft x (List.mem_flatten.mpr ⟨group, hgroup, hx⟩) rfl
      have hsame : rest.flatMap s₁.evictions = rest.flatMap s.evictions := by
        refine List.flatMap_congr ?_
        intro group hgroup
        refine evictions_congr ?_ (by rw [hfirst.result]; rfl)
        intro x hx
        rw [hfirst.result, get?_dropBundles]
        exact if_neg (hapart group hgroup x hx)
      rw [hsame] at hreport hevicts
      refine ⟨?_, hretained, hfirst.append hevicts ?_⟩
      · rw [hreport, hreport₁, List.flatMap_cons, List.append_assoc]
        rfl
      · intro x hx
        obtain ⟨group, hgroup, hin⟩ := List.mem_flatMap.mp hx
        exact hapart group hgroup x (mem_of_mem_toEvict (List.mem_of_mem_filter hin))

end Eviction

section Survivors

def entriesFor (s : BundleStore δ) (cpid : String) : List (B3Hash × BundleMetadata) :=
  sortBy (fun e => sequenceKey e.2.sequenceNo) (s.index.items.filter fun e => e.2.cpid = some cpid)

theorem listBundlesForCpid_eq (s : BundleStore δ) (cpid : String) :
    s.listBundlesForCpid cpid = (s.entriesFor cpid).map Prod.snd := by
  rw [listBundlesForCpid, values, List.filter_map, sortBy_map]
  rfl

theorem mem_entriesFor : (h, m) ∈ s.entriesFor cpid ↔
    s.index.get? h = some m ∧ m.cpid = some cpid := by
  simp [entriesFor, AList.mem_items]

theorem mem_hashesFor : h ∈ s.hashesFor cpid ↔
    ∃ m, s.index.get? h = some m ∧ m.cpid = some cpid := by
  simp [hashesFor, AList.mem_items]

theorem nodup_hashesFor (s : BundleStore δ) (cpid : String) : (s.hashesFor cpid).Nodup := by
  have hkeys : (s.index.items.map Prod.fst).Nodup := by
    rw [AList.items_keys]
    exact s.index.keys_nodup
  exact (List.filter_sublist.map Prod.fst).nodup hkeys

theorem nodup_bundlesByCpid (s : BundleStore δ) : s.bundlesByCpid.flatten.Nodup := by
  rw [List.nodup_flatten]
  constructor
  · intro group hgroup
    obtain ⟨cpid, -, rfl⟩ := List.mem_map.mp hgroup
    exact s.nodup_hashesFor cpid
  · refine List.pairwise_map.mpr ((List.nodup_dedup _).imp ?_)
    intro cpid cpid' hne h hh hh'
    grind [mem_hashesFor]

theorem toEvict_hashesFor (s : BundleStore δ) (cpid : String) :
    s.toEvict (s.hashesFor cpid) = ((s.entriesFor cpid).take
      ((s.entriesFor cpid).length - s.policy.keepBundlesPerCpid)).map Prod.fst := by
  have hsorted : sortBy (fun h => sequenceKey ((s.index.get? h).bind (·.sequenceNo)))
      (s.hashesFor cpid) = (s.entriesFor cpid).map Prod.fst := by
    grind [hashesFor, sortBy_map, entriesFor, sortBy_congr, AList.mem_items]
  rw [toEvict, hsorted, List.map_take]
  simp [hashesFor, entriesFor]

theorem mem_evictions : h ∈ s.bundlesByCpid.flatMap s.evictions ↔ ∃ m cpid,
    s.index.get? h = some m ∧ m.cpid = some cpid ∧ h ∈ s.toEvict (s.hashesFor cpid) ∧
      s.policy.protects m = false := by
  constructor
  · intro hh
    obtain ⟨group, hgroup, hin⟩ := List.mem_flatMap.mp hh
    obtain ⟨cpid, -, rfl⟩ := List.mem_map.mp hgroup
    obtain ⟨hin, hout⟩ := List.mem_filter.mp hin
    obtain ⟨m, hm, hcpid⟩ := mem_hashesFor.mp (mem_of_mem_toEvict hin)
    exact ⟨m, cpid, hm, hcpid, hin, by simpa [evictable, hm] using hout⟩
  · rintro ⟨m, cpid, hm, hcpid, hin, hfree⟩
    refine List.mem_flatMap.mpr ⟨s.hashesFor cpid, ?_, ?_⟩
    · refine List.mem_map_of_mem (List.mem_dedup.mpr (List.mem_filterMap.mpr ?_))
      exact ⟨(h, m), AList.mem_items.mpr hm, hcpid⟩
    · exact List.mem_filter.mpr ⟨hin, by simp [evictable, hm, hfree]⟩

theorem mem_evictions_iff (hm : s.index.get? h = some m) (hcpid : m.cpid = some cpid) :
    h ∈ s.bundlesByCpid.flatMap s.evictions ↔
      h ∈ s.toEvict (s.hashesFor cpid) ∧ s.policy.protects m = false := by
  rw [mem_evictions]
  simp [hm, hcpid]

/-- The bundles of a control plane in sequence order, each with whether the policy retains it: the
last ones, and what is protected. -/
def retentionPlan (s : BundleStore δ) (cpid : String) : List (Bool × BundleMetadata) :=
  let bundles := s.listBundlesForCpid cpid
  let surplus := bundles.length - s.policy.keepBundlesPerCpid
  (bundles.take surplus).map (fun m => (s.policy.protects m, m)) ++
    (bundles.drop surplus).map fun m => (true, m)

theorem map_snd_retentionPlan (s : BundleStore δ) (cpid : String) :
    (s.retentionPlan cpid).map Prod.snd = s.listBundlesForCpid cpid := by
  simp [retentionPlan, Function.comp_def]

theorem nodup_entriesFor (s : BundleStore δ) (cpid : String) :
    ((s.entriesFor cpid).map Prod.fst).Nodup :=
  ((sortBy_perm _ _).map Prod.fst).nodup_iff.mpr (s.nodup_hashesFor cpid)

theorem filter_entriesFor (s : BundleStore δ) (cpid : String) :
    ((s.entriesFor cpid).filter fun e => e.1 ∉ s.bundlesByCpid.flatMap s.evictions) =
      ((s.entriesFor cpid).take ((s.entriesFor cpid).length - s.policy.keepBundlesPerCpid)).filter
        (fun e => s.policy.protects e.2) ++
      (s.entriesFor cpid).drop ((s.entriesFor cpid).length - s.policy.keepBundlesPerCpid) := by
  have hevict := s.toEvict_hashesFor cpid
  have hnodup := s.nodup_entriesFor cpid
  have hmem : ∀ e ∈ s.entriesFor cpid, e.1 ∈ s.bundlesByCpid.flatMap s.evictions ↔
      e.1 ∈ s.toEvict (s.hashesFor cpid) ∧ s.policy.protects e.2 = false := by
    rintro ⟨h, m⟩ he
    obtain ⟨hm, hcpid⟩ := mem_entriesFor.mp he
    exact mem_evictions_iff hm hcpid
  generalize (s.entriesFor cpid).length - s.policy.keepBundlesPerCpid = surplus at hevict ⊢
  conv_lhs => rw [← List.take_append_drop surplus (s.entriesFor cpid), List.filter_append]
  congr 1
  · refine List.filter_congr ?_
    intro e he
    have hin : e.1 ∈ s.toEvict (s.hashesFor cpid) := hevict ▸ List.mem_map_of_mem he
    simp [hmem e (List.mem_of_mem_take he), hin]
  · refine List.filter_eq_self.mpr ?_
    intro e he
    have hout : e.1 ∉ s.toEvict (s.hashesFor cpid) := by
      rw [← List.take_append_drop surplus (s.entriesFor cpid), List.map_append] at hnodup
      rw [hevict]
      intro hin
      exact (List.nodup_append.mp hnodup).2.2 _ hin _ (List.mem_map_of_mem he) rfl
    simp [hmem e (List.mem_of_mem_drop he), hout]

theorem runGc_listBundlesForCpid (hgc : s.runGc = (.ok report, s')) (cpid : String) :
    s'.listBundlesForCpid cpid = ((s.retentionPlan cpid).filter Prod.fst).map Prod.snd := by
  obtain ⟨-, -, hevicts⟩ := collectGroups_ok s.nodup_bundlesByCpid hgc
  have hentries : s'.entriesFor cpid =
      (s.entriesFor cpid).filter fun e => e.1 ∉ s.bundlesByCpid.flatMap s.evictions := by
    rw [entriesFor, hevicts.result, dropBundles, AList.items_eraseAll, List.filter_comm,
      sortBy_filter]
    rfl
  rw [listBundlesForCpid_eq, hentries, filter_entriesFor, retentionPlan, listBundlesForCpid_eq]
  simp only [← List.map_take, ← List.map_drop, List.filter_append, List.map_append,
    List.filter_map, List.map_map, Function.comp_def, List.length_map, List.filter_true]

end Survivors

section ChainCheck

theorem checkLinks_eq_nil (prev : BundleMetadata) (bundles : List BundleMetadata) :
    (checkLinks prev bundles).2 = [] ↔
      Linked BundleMetadata.prevBundleHash BundleMetadata.merkleRoot (some prev.merkleRoot)
        bundles := by
  induction bundles generalizing prev with
  | nil => simp [checkLinks]
  | cons current rest ih =>
    by_cases hlink : current.prevBundleHash = some prev.merkleRoot
    · simp [checkLinks, hlink, ih]
    · simp [checkLinks, hlink]

theorem verifyChain_clean_iff (s : BundleStore δ) (cpid : String) :
    (s.verifyChain cpid).brokenLinks = [] ↔
      Linked BundleMetadata.prevBundleHash BundleMetadata.merkleRoot none
        (s.listBundlesForCpid cpid) := by
  unfold verifyChain
  cases s.listBundlesForCpid cpid with
  | nil => simp
  | cons first rest => cases hprev : first.prevBundleHash <;> simp [hprev, checkLinks_eq_nil]

/-- Of a chain that verifies, what collection retains verifies just when no retained bundle is cut
off from the one that it names. -/
theorem runGc_chain_iff (hclean : (s.verifyChain cpid).brokenLinks = [])
    (hgc : s.runGc = (.ok report, s')) :
    (s'.verifyChain cpid).brokenLinks = [] ↔
      Bridged BundleMetadata.merkleRoot none none (s.retentionPlan cpid) := by
  rw [verifyChain_clean_iff, runGc_listBundlesForCpid hgc]
  refine linked_kept_iff (p := none) ?_
  rw [map_snd_retentionPlan]
  exact (verifyChain_clean_iff s cpid).mp hclean

/-- Three bundles of one control plane, each linked to the one before; the roots are given. -/
def threeBundles (keep : Nat) (r₁ r₂ r₃ : B3Hash) : BundleStore BundleMetadata :=
  let s₀ : BundleStore BundleMetadata := .new ["var"] { keepBundlesPerCpid := keep }
  let s₁ := (s₀.storeBundle leadingHash plainJson [1]
    (sampleMetadata (leadingHash [1]) r₁ none "tenant-test" 1)).2
  let s₂ := (s₁.storeBundle leadingHash plainJson [2]
    (sampleMetadata (leadingHash [2]) r₂ (some r₁) "tenant-test" 2)).2
  (s₂.storeBundle leadingHash plainJson [3]
    (sampleMetadata (leadingHash [3]) r₃ (some r₂) "tenant-test" 3)).2

/-- With the oldest bundle protected and the root of the evicted one the same, the last bundle
still names the one before it. -/
theorem sameRoot_chain :
    (((threeBundles 1 7 7 8).markIncidentBundle plainJson (leadingHash [1])).2.runGc.2.verifyChain
      "cpid-001").brokenLinks = [] := by
  have hclean : (((threeBundles 1 7 7 8).markIncidentBundle plainJson
      (leadingHash [1])).2.verifyChain "cpid-001").brokenLinks = [] := by decide
  have hok : ((threeBundles 1 7 7 8).markIncidentBundle plainJson (leadingHash [1])).2.runGc.1 =
      .ok ⟨3, [leadingHash [2]], 2, 1⟩ := by decide
  have hplan : Bridged BundleMetadata.merkleRoot none none (((threeBundles 1 7 7
      8).markIncidentBundle plainJson (leadingHash [1])).2.retentionPlan "cpid-001") := by
    decide
  generalize ((threeBundles 1 7 7 8).markIncidentBundle plainJson (leadingHash [1])).2 = s at *
  have hgc : s.runGc = (.ok ⟨3, [leadingHash [2]], 2, 1⟩, s.runGc.2) := by rw [← hok]
  exact (runGc_chain_iff hclean hgc).mpr hplan

/-- Keeping the last two of three bundles leaves a first bundle that is not a chain root. -/
theorem oldest_evicted_breaks : ((threeBundles 2 7 8 9).verifyChain "cpid-001").brokenLinks = [] ∧
      (threeBundles 2 7 8 9).runGc.1 = .ok ⟨3, [leadingHash [1]], 2, 1⟩ ∧
      ((threeBundles 2 7 8 9).runGc.2.verifyChain "cpid-001").brokenLinks =
        ["First bundle B3Hash(0000000000000005) has non-null prev_bundle_hash" ++
          " (should be chain root)"] := by
  decide

end ChainCheck

end AdapterOS.Telemetry.BundleStore
