import AdapterOS.Telemetry.Retention

/-! The retention law: which bundles a collection evicts, and what it leaves of the others. -/
namespace AdapterOS.Telemetry.BundleStore

open Library

variable {δ : Type*} {s s' : BundleStore δ} {h : B3Hash} {m : BundleMetadata} {cpid : String}
  {report : GarbageCollectionReport} {hashes : List B3Hash} {groups : List (List B3Hash)}

def newer (s : BundleStore δ) (m : BundleMetadata) : List (B3Hash × BundleMetadata) :=
  s.index.items.filter fun e =>
    e.2.cpid = m.cpid ∧ sequenceKey m.sequenceNo < sequenceKey e.2.sequenceNo

/-- Of some control plane, not among the newest that the policy keeps, and not protected. -/
def Surplus (s : BundleStore δ) (m : BundleMetadata) : Prop :=
  m.cpid ≠ none ∧ s.policy.keepBundlesPerCpid ≤ (s.newer m).length ∧ s.policy.protects m = false

instance (s : BundleStore δ) (m : BundleMetadata) : Decidable (s.Surplus m) :=
  inferInstanceAs (Decidable (_ ∧ _ ∧ _))

/-- No two bundles of one control plane have the same sequence number, `None` included. -/
def SequencesDistinct (s : BundleStore δ) : Prop :=
  s.index.items.Pairwise fun e e' =>
    e.2.cpid ≠ none → e.2.cpid = e'.2.cpid → e.2.sequenceNo ≠ e'.2.sequenceNo

section Order

theorem sequenceKey_injective : Function.Injective sequenceKey := by
  rintro (_ | a) (_ | b) hab
  all_goals simp_all [sequenceKey, UInt64.toNat_inj]

theorem mem_toEvict_iff (hd : s.SequencesDistinct) (hm : s.index.get? h = some m)
    (hcpid : m.cpid = some cpid) :
    h ∈ s.toEvict (s.hashesFor cpid) ↔ s.policy.keepBundlesPerCpid ≤ (s.newer m).length := by
  have hne : (s.index.items.filter fun e => e.2.cpid = some cpid).Pairwise
      fun e e' => sequenceKey e.2.sequenceNo ≠ sequenceKey e'.2.sequenceNo := by
    refine (List.Pairwise.filter _ hd).imp_of_mem ?_
    grind [sequenceKey_injective]
  have hlt : (s.entriesFor cpid).Pairwise
      fun e e' => sequenceKey e.2.sequenceNo < sequenceKey e'.2.sequenceNo :=
    (pairwise_sortBy _ _).imp₂ (fun _ _ => lt_of_le_of_ne)
      ((sortBy_perm _ _).symm.pairwise hne fun hab => hab.symm)
  have hin : (h, m) ∈ s.entriesFor cpid := mem_entriesFor.mpr ⟨hm, hcpid⟩
  have hlen : (s.newer m).length = ((s.entriesFor cpid).filter
      fun e => sequenceKey m.sequenceNo < sequenceKey e.2.sequenceNo).length := by
    rw [newer, entriesFor, ((sortBy_perm _ _).filter _).length_eq, List.filter_filter, hcpid]
    simp [Bool.and_comm]
  rw [toEvict_hashesFor, hlen, ← mem_take_sub_iff hlt hin]
  grind [mem_entriesFor]

theorem mem_evictions_iff_surplus (hd : s.SequencesDistinct) :
    h ∈ s.bundlesByCpid.flatMap s.evictions ↔ ∃ m, s.index.get? h = some m ∧ s.Surplus m := by
  rw [mem_evictions]
  constructor
  · rintro ⟨m, cpid, hm, hcpid, hin, hfree⟩
    exact ⟨m, hm, by simp [hcpid], (mem_toEvict_iff hd hm hcpid).mp hin, hfree⟩
  · rintro ⟨m, hm, hsome, hnewer, hfree⟩
    obtain ⟨cpid, hcpid⟩ := Option.ne_none_iff_exists'.mp hsome
    exact ⟨m, cpid, hm, hcpid, (mem_toEvict_iff hd hm hcpid).mpr hnewer, hfree⟩

end Order

section SecondRun

theorem evictFrom_nothing (hn : hashes.filter s.evictable = []) :
    s.evictFrom report hashes = (.ok report, s) := by
  induction hashes with
  | nil => rfl
  | cons h rest ih => grind [evictFrom, evictable]

theorem collectGroups_nothing (hn : groups.flatMap s.evictions = []) :
    s.collectGroups report groups =
      (.ok { report with retainedBundles := s.index.items.length }, s) := by
  induction groups with
  | nil => rfl
  | cons hashes rest ih =>
    obtain ⟨hfirst, hrest⟩ := List.append_eq_nil_iff.mp hn
    rw [collectGroups, evictFrom_nothing hfirst]
    exact ih hrest

theorem SequencesDistinct.dropBundles (hd : s.SequencesDistinct) :
    (s.dropBundles hashes).SequencesDistinct := by
  rw [SequencesDistinct, BundleStore.dropBundles, AList.items_eraseAll]
  exact List.Pairwise.filter _ hd

theorem Surplus.of_dropBundles (h : (s.dropBundles hashes).Surplus m) : s.Surplus m := by
  obtain ⟨hcpid, hnewer, hfree⟩ := h
  refine ⟨hcpid, hnewer.trans ?_, hfree⟩
  rw [newer, newer, dropBundles, AList.items_eraseAll]
  exact (List.filter_sublist.filter _).length_le

theorem runGc_nothing (hd : s.SequencesDistinct)
    (hdrop : ∀ h m, s.index.get? h = some m → s.Surplus m → h ∈ hashes) :
    ∃ report, (s.dropBundles hashes).runGc = (.ok report, s.dropBundles hashes) ∧
      report.evictedBundles = [] := by
  refine ⟨_, collectGroups_nothing (List.eq_nil_iff_forall_not_mem.mpr ?_), rfl⟩
  intro h hh
  obtain ⟨m, hm, hsurplus⟩ := (mem_evictions_iff_surplus hd.dropBundles).mp hh
  rw [get?_dropBundles] at hm
  split at hm
  · cases hm
  · exact absurd (hdrop h m hm hsurplus.of_dropBundles) ‹_›

end SecondRun

section Files

/-- What a collection should leave: the surplus bundles are evicted, everything of the others is
as before and counted, and there is nothing left to evict. -/
structure RetentionLaw (s : BundleStore δ) (report : GarbageCollectionReport)
    (s' : BundleStore δ) : Prop where
  evicted : ∀ h, h ∈ report.evictedBundles ↔ ∃ m, s.index.get? h = some m ∧ s.Surplus m
  index : ∀ h, s'.index.get? h = if h ∈ report.evictedBundles then none else s.index.get? h
  files : ∀ h m, s'.index.get? h = some m →
    s'.bundleFiles.get? (bundlePath s.rootDir h m) =
        s.bundleFiles.get? (bundlePath s.rootDir h m) ∧
      s'.metaFiles.get? (metaPath s.rootDir h m) = s.metaFiles.get? (metaPath s.rootDir h m)
  retained : report.retainedBundles = (s.index.items.filter fun e => ¬ s.Surplus e.2).length
  again : ∃ report', s'.runGc = (.ok report', s') ∧ report'.evictedBundles = []

/-- File names have only the first eight bytes of the hash: the law holds just when no bundle that
goes has the file name of one that stays. -/
theorem runGc_retentionLaw_iff (hd : s.SequencesDistinct) (hgc : s.runGc = (.ok report, s')) :
    RetentionLaw s report s' ↔ ∀ e ∈ s.index.items, ∀ e' ∈ s.index.items, s.Surplus e.2 →
      ¬ s.Surplus e'.2 → bundlePath s.rootDir e.1 e.2 ≠ bundlePath s.rootDir e'.1 e'.2 := by
  obtain ⟨hreport, hretained, rfl, hpresent⟩ := collectGroups_ok s.nodup_bundlesByCpid hgc
  have hgone := fun h => mem_evictions_iff_surplus (h := h) hd
  rw [List.nil_append] at hreport
  rw [← hreport] at hgone hpresent hretained ⊢
  constructor
  · rintro hlaw ⟨h, m⟩ hm ⟨h', m'⟩ hm' hout hstay hsame
    obtain ⟨⟩ := hlaw
    grind [AList.mem_items, bundlePathOf, dropBundles, AList.get?_eq_none]
  · intro hapart
    refine ⟨hgone, get?_dropBundles s _, ?_, ?_, ?_⟩
    · intro h m hm
      rw [get?_dropBundles] at hm
      split at hm
      · cases hm
      · rename_i hstay
        have hother : ∀ g ∈ report.evictedBundles, ∀ n, s.index.get? g = some n →
            bundlePath s.rootDir g n ≠ bundlePath s.rootDir h m := by
          intro g hg n hn
          obtain ⟨n', hn', hout⟩ := (hgone g).mp hg
          obtain rfl := Option.some.inj (hn.symm.trans hn')
          exact hapart (g, n) (AList.mem_items.mpr hn) (h, m) (AList.mem_items.mpr hm) hout
            fun hs => hstay ((hgone h).mpr ⟨m, hm, hs⟩)
        constructor
        all_goals
          rw [dropBundles, AList.get?_eraseAll, if_neg]
          intro hin
          obtain ⟨g, hg, hof⟩ := List.mem_filterMap.mp hin
          obtain ⟨n, hn, hpath⟩ := Option.map_eq_some_iff.mp hof
          first
          | exact hother g hg n hn hpath
          | exact hother g hg n hn (bundlePath_eq_iff.mpr hpath)
    · grind [dropBundles, AList.items_eraseAll, List.filter_congr, AList.mem_items]
    · exact runGc_nothing hd fun h m hm hs => (hgone h).mpr ⟨m, hm, hs⟩

end Files

/-- Of three bundles two are kept: the oldest goes, with its own files only. -/
theorem threeBundles_retentionLaw : RetentionLaw (threeBundles 2 7 8 9)
    ⟨3, [leadingHash [1]], 2, 1⟩ (threeBundles 2 7 8 9).runGc.2 := by
  have hd : (threeBundles 2 7 8 9).SequencesDistinct := by unfold SequencesDistinct; decide
  have hok : (threeBundles 2 7 8 9).runGc.1 = .ok ⟨3, [leadingHash [1]], 2, 1⟩ := by
    decide
  refine (runGc_retentionLaw_iff hd ?_).mpr ?_
  · rw [← hok]
  · decide

/-- Two bundles of one tenant whose hashes have the same first eight bytes. -/
def twoBundles : BundleStore BundleMetadata :=
  let s₀ : BundleStore BundleMetadata := .new ["var"] { keepBundlesPerCpid := 1 }
  let s₁ := (s₀.storeBundle digitHash plainJson [1]
    (sampleMetadata (digitHash [1]) 7 none "tenant-test" 1)).2
  (s₁.storeBundle digitHash plainJson [2]
    (sampleMetadata (digitHash [2]) 8 (some 7) "tenant-test" 2)).2

/-- Evicting the first deletes the file of the second. -/
theorem twoBundles_file_lost : twoBundles.SequencesDistinct ∧
    twoBundles.runGc.1 = .ok ⟨2, [digitHash [1]], 1, 1⟩ ∧
    ¬ RetentionLaw twoBundles ⟨2, [digitHash [1]], 1, 1⟩ twoBundles.runGc.2 := by
  refine ⟨by unfold SequencesDistinct; decide, by decide, ?_⟩
  intro hlaw
  have hlost := (hlaw.files (digitHash [2])
    (sampleMetadata (digitHash [2]) 8 (some 7) "tenant-test" 2) (by decide)).1
  revert hlost
  decide

end AdapterOS.Telemetry.BundleStore
