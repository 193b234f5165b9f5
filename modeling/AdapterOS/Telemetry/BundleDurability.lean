import AdapterOS.Telemetry.BundleStore
import AdapterOS.Library.Run

/-! The index against the files: which calls keep the index that a scan of the directory rebuilds
equal to the one in memory, and every stored bundle listed for its tenant. -/
namespace AdapterOS.Telemetry

open Library

namespace BundleStore

variable {δ : Type*} {json : MetadataJson δ} {s s' : BundleStore δ} {h k : B3Hash}
  {m : BundleMetadata} {report : GarbageCollectionReport} {hashes : List B3Hash}
  {groups : List (List B3Hash)} {index : HashMap B3Hash BundleMetadata} {files : List (Path × δ)}

section Paths

variable {root : Path} {m' : BundleMetadata}

theorem metaPath_congr (h : B3Hash) (ht : m.tenantId = m'.tenantId) :
    metaPath root h m = metaPath root h m' := by
  rw [metaPath, metaPath, tenantDir, tenantDir, ht]

end Paths

section Scan

theorem mem_of_loadMetadata {index' : HashMap B3Hash BundleMetadata}
    (hload : loadMetadata json index files = .ok index') (hk : index'.get? k = some m) :
    index.get? k = some m ∨ ∃ file ∈ files, json.fromStr file.2 = .ok m ∧ m.bundleHash = k := by
  induction files generalizing index with
  | nil =>
    cases hload
    exact Or.inl hk
  | cons file rest ih =>
    cases hread : json.fromStr file.2 with
    | error e => simp [loadMetadata, hread] at hload
    | ok m₁ =>
      simp only [loadMetadata, hread] at hload
      obtain hin | ⟨file', hfile', hm⟩ := ih hload
      · grind
      · exact Or.inr ⟨file', List.mem_cons_of_mem _ hfile', hm⟩

theorem loadMetadata_eq {target : HashMap B3Hash BundleMetadata}
    (index : HashMap B3Hash BundleMetadata)
    (hfiles : ∀ file ∈ files, ∃ m, json.fromStr file.2 = .ok m ∧ target.get? m.bundleHash = some m)
    (hindex : ∀ k m, index.get? k = some m → target.get? k = some m) :
    ∃ index', loadMetadata json index files = .ok index' ∧
      (∀ k m, index'.get? k = some m → target.get? k = some m) ∧
      (∀ k m, index.get? k = some m → index'.get? k = some m) ∧
      ∀ file ∈ files, ∀ m, json.fromStr file.2 = .ok m → index'.get? m.bundleHash = some m := by
  induction files generalizing index with
  | nil => exact ⟨index, rfl, hindex, fun _ _ => id, by simp⟩
  | cons file rest ih =>
    obtain ⟨m₁, hread, htarget⟩ := hfiles file List.mem_cons_self
    have hgrow : ∀ k m, index.get? k = some m →
        (index.insert m₁.bundleHash m₁).get? k = some m := by grind
    have hsub : ∀ k m, (index.insert m₁.bundleHash m₁).get? k = some m →
        target.get? k = some m := by grind
    obtain ⟨index', hload, hto, hfrom, hall⟩ :=
      ih _ (fun file hf => hfiles file (List.mem_cons_of_mem _ hf)) hsub
    refine ⟨index', ?_, hto, fun k m hk => hfrom k m (hgrow k m hk), ?_⟩
    · simpa only [loadMetadata, hread] using hload
    · grind

end Scan

section OnDisk

/-- The two files of a bundle that is indexed as `h` with metadata `m`. -/
structure Saved (json : MetadataJson δ) (s : BundleStore δ) (h : B3Hash) (m : BundleMetadata) :
    Prop where
  named : m.bundleHash = h
  dated : 0 ≤ m.createdAt
  found : inTenantDir s.rootDir (metaPath s.rootDir h m) = true
  text : ∃ text, s.metaFiles.get? (metaPath s.rootDir h m) = some text ∧ json.fromStr text = .ok m
  data : bundlePath s.rootDir h m ∈ s.bundleFiles

/-- The metadata files are those of the indexed bundles, each at a place of its own. -/
structure OnDisk (json : MetadataJson δ) (s : BundleStore δ) : Prop where
  saved : ∀ h m, s.index.get? h = some m → Saved json s h m
  owned : ∀ path ∈ s.metaFiles, ∃ h m, s.index.get? h = some m ∧ path = metaPath s.rootDir h m
  apart : ∀ h m h' m', s.index.get? h = some m → s.index.get? h' = some m' →
    metaPath s.rootDir h m = metaPath s.rootDir h' m' → h = h'

theorem OnDisk.rebuilds (hs : OnDisk json s) (scan : Iteration (Path × δ)) :
    ∃ index, s.rebuildIndex json scan = .ok index ∧ ∀ k, index.get? k = s.index.get? k := by
  have hfiles : ∀ file ∈ (scan.visit s.metaFiles.items).filter
      (fun file => inTenantDir s.rootDir file.1),
      ∃ m, json.fromStr file.2 = .ok m ∧ s.index.get? m.bundleHash = some m := by
    rintro ⟨path, text⟩ hfile
    have hget := AList.mem_items.mp ((scan.mem_visit).mp (List.mem_of_mem_filter hfile))
    obtain ⟨h, m, hm, rfl⟩ := hs.owned path (AList.mem_of_get? hget)
    obtain ⟨hnamed, -, -, ⟨text', htext, hread⟩, -⟩ := hs.saved h m hm
    cases htext.symm.trans hget
    exact ⟨m, hread, by rw [hnamed, hm]⟩
  obtain ⟨index, hload, hto, -, hall⟩ := loadMetadata_eq ∅ hfiles (by simp)
  refine ⟨index, hload, ?_⟩
  refine fun k => Option.ext fun m => ⟨hto k m, ?_⟩
  intro hm
  obtain ⟨hnamed, -, hfound, ⟨text, htext, hread⟩, -⟩ := hs.saved k m hm
  have hmem : (metaPath s.rootDir k m, text) ∈ (scan.visit s.metaFiles.items).filter
      (fun file => inTenantDir s.rootDir file.1) :=
    List.mem_filter.mpr ⟨scan.mem_visit.mpr (AList.mem_items.mpr htext), hfound⟩
  have hin := hall _ hmem m hread
  rwa [hnamed] at hin

/-- Writing both files of a bundle at a place that no other bundle has. -/
theorem OnDisk.write (hs : OnDisk json s) {text : δ} {bundleFiles : HashMap Path (List UInt8)}
    (hnamed : m.bundleHash = h) (hdated : 0 ≤ m.createdAt)
    (hfound : inTenantDir s.rootDir (metaPath s.rootDir h m) = true)
    (hfree : ∀ h' m', s.index.get? h' = some m' →
      metaPath s.rootDir h' m' = metaPath s.rootDir h m → h' = h)
    (hold : ∀ m', s.index.get? h = some m' → metaPath s.rootDir h m' = metaPath s.rootDir h m)
    (htext : json.fromStr text = .ok m) (hdata : bundlePath s.rootDir h m ∈ bundleFiles)
    (hkeep : ∀ path ∈ s.bundleFiles, path ∈ bundleFiles) :
    OnDisk json { s with
      index := s.index.insert h m
      metaFiles := s.metaFiles.insert (metaPath s.rootDir h m) text
      bundleFiles := bundleFiles } := by
  obtain ⟨hsaved, howned, hapart⟩ := hs
  refine ⟨?_, ?_, by grind⟩
  · intro h' m' hm'
    by_cases he : h' = h
    · subst h'
      obtain rfl : m = m' := by simpa [AList.get?_insert] using hm'
      exact ⟨hnamed, hdated, hfound, ⟨text, by simp [AList.get?_insert], htext⟩, hdata⟩
    · rw [AList.get?_insert_ne he] at hm'
      obtain ⟨hnamed', hdated', hfound', ⟨text', htext', hread'⟩, hdata'⟩ := hsaved h' m' hm'
      refine ⟨hnamed', hdated', hfound', ⟨text', ?_, hread'⟩, hkeep _ hdata'⟩
      rw [AList.get?_insert_ne fun hp => he (hfree h' m' hm' hp), htext']
  · intro path hpath
    have hself : (s.index.insert h m).get? h = some m := by rw [AList.get?_insert_self]
    rcases (AList.mem_insert _).mp hpath with rfl | hin
    · exact ⟨h, m, hself, rfl⟩
    · obtain ⟨h', m', hm', rfl⟩ := howned path hin
      by_cases he : h' = h
      · exact ⟨h, m, hself, he ▸ hold m' (he ▸ hm')⟩
      · exact ⟨h', m', by rw [AList.get?_insert_ne he, hm'], rfl⟩

theorem OnDisk.erase (hs : OnDisk json s) (hm : s.index.get? h = some m) : OnDisk json { s with
      index := s.index.erase h
      bundleFiles := s.bundleFiles.erase (bundlePath s.rootDir h m)
      metaFiles := s.metaFiles.erase (metaPath s.rootDir h m) } := by
  have hrest : ∀ h' m', (s.index.erase h).get? h' = some m' →
      s.index.get? h' = some m' ∧ metaPath s.rootDir h' m' ≠ metaPath s.rootDir h m := by
    grind [hs.apart]
  constructor
  · intro h' m' hm'
    obtain ⟨hm', hne⟩ := hrest h' m' hm'
    obtain ⟨hnamed, hdated, hfound, ⟨text, htext, hread⟩, hdata⟩ := hs.saved h' m' hm'
    refine ⟨hnamed, hdated, hfound, ⟨text, by rw [AList.get?_erase_ne hne, htext], hread⟩, ?_⟩
    exact AList.mem_erase.mpr ⟨fun hp => hne (bundlePath_eq_iff.mp hp), hdata⟩
  · intro path hpath
    obtain ⟨hne, hin⟩ := AList.mem_erase.mp hpath
    obtain ⟨h', m', hm', rfl⟩ := hs.owned path hin
    exact ⟨h', m', by grind, rfl⟩
  · intro h₁ m₁ h₂ m₂ hm₁ hm₂
    exact hs.apart h₁ m₁ h₂ m₂ (hrest h₁ m₁ hm₁).1 (hrest h₂ m₂ hm₂).1

theorem OnDisk.grow (hs : OnDisk json s) {bundleFiles : HashMap Path (List UInt8)}
    (hkeep : ∀ path ∈ s.bundleFiles, path ∈ bundleFiles) :
    OnDisk json { s with bundleFiles := bundleFiles } where
  saved h m hm :=
    have ⟨hnamed, hdated, hfound, htext, hdata⟩ := hs.saved h m hm
    ⟨hnamed, hdated, hfound, htext, hkeep _ hdata⟩
  owned := hs.owned
  apart := hs.apart

theorem OnDisk.new (rootDir : Path) (policy : RetentionPolicy) :
    OnDisk json (BundleStore.new (δ := δ) rootDir policy) where
  saved := by simp [BundleStore.new]
  owned := by simp [BundleStore.new]
  apart := by simp [BundleStore.new]

end OnDisk

section GarbageCollection

theorem OnDisk.evictBundle (hs : OnDisk json s) (hm : s.index.get? h = some m) :
    ∃ bytes s', s.evictBundle h = (.ok bytes, s') ∧ OnDisk json s' ∧
      s'.index = s.index.erase h := by
  obtain ⟨-, -, -, ⟨text, htext, -⟩, hdata⟩ := hs.saved h m hm
  obtain ⟨data, hdata⟩ := AList.mem_iff_get?.mp hdata
  refine ⟨data.length, _, ?_, hs.erase hm, rfl⟩
  simp only [BundleStore.evictBundle, hm, hdata, if_pos (AList.mem_of_get? htext)]

theorem OnDisk.evictFrom (hs : OnDisk json s) (report : GarbageCollectionReport)
    (hashes : List B3Hash) :
    ∃ report' s', s.evictFrom report hashes = (.ok report', s') ∧ OnDisk json s' ∧
      (∀ k ∈ report.evictedBundles, k ∈ report'.evictedBundles) ∧
      ∀ k, k ∉ report'.evictedBundles → s'.index.get? k = s.index.get? k := by
  induction hashes generalizing s report with
  | nil => exact ⟨report, s, rfl, hs, fun _ => id, fun _ _ => rfl⟩
  | cons h rest ih =>
    cases hm : s.index.get? h with
    | none =>
      simp only [BundleStore.evictFrom, hm]
      exact ih hs report
    | some m =>
      by_cases hp : s.policy.protects m
      · simp only [BundleStore.evictFrom, hm, hp]
        exact ih hs report
      · obtain ⟨bytes, s₁, hv, hs₁, hindex⟩ := hs.evictBundle hm
        simp only [BundleStore.evictFrom, hm, hp, hv]
        obtain ⟨report', s', he, hs', hsub, hsame⟩ := ih hs₁ { report with
          evictedBundles := report.evictedBundles ++ [h]
          bytesFreed := report.bytesFreed + bytes }
        refine ⟨report', s', he, hs', fun k hk => hsub k (List.mem_append_left _ hk), ?_⟩
        grind

theorem OnDisk.collectGroups (hs : OnDisk json s) (report : GarbageCollectionReport)
    (groups : List (List B3Hash)) :
    ∃ report' s', s.collectGroups report groups = (.ok report', s') ∧ OnDisk json s' ∧
      (∀ k ∈ report.evictedBundles, k ∈ report'.evictedBundles) ∧
      ∀ k, k ∉ report'.evictedBundles → s'.index.get? k = s.index.get? k := by
  induction groups generalizing s report with
  | nil => exact ⟨_, s, rfl, hs, fun _ => id, fun _ _ => rfl⟩
  | cons hashes rest ih =>
    obtain ⟨report₁, s₁, hv, hs₁, hsub₁, hsame₁⟩ := hs.evictFrom report (s.toEvict hashes)
    simp only [BundleStore.collectGroups, hv]
    obtain ⟨report', s', he, hs', hsub, hsame⟩ := ih hs₁ report₁
    exact ⟨report', s', he, hs', fun k hk => hsub k (hsub₁ k hk), by grind⟩

end GarbageCollection

end BundleStore

inductive StoreCall where
  | storeBundle (bundleData : List UInt8) (metadata : BundleMetadata)
  | markIncidentBundle (bundleHash : B3Hash)
  | markPromotionBundle (bundleHash : B3Hash)
  | runGc

/-- A store with the bundles that were stored in it and not evicted since, each with the metadata
that were handed over. -/
structure TrackedStore (δ : Type*) where
  store : BundleStore δ
  kept : List (B3Hash × BundleMetadata)

namespace TrackedStore

open BundleStore

variable {δ : Type*} {hash : List UInt8 → B3Hash} {json : MetadataJson δ} {t : TrackedStore δ}
  {h : B3Hash} {m : BundleMetadata} {data : List UInt8}

def step (hash : List UInt8 → B3Hash) (json : MetadataJson δ) (t : TrackedStore δ) :
    StoreCall → TrackedStore δ
  | .storeBundle data m =>
    match t.store.storeBundle hash json data m with
    | (.ok h, s) => ⟨s, (h, m) :: t.kept⟩
    | (.error _, s) => ⟨s, t.kept⟩
  | .markIncidentBundle h => { t with store := (t.store.markIncidentBundle json h).2 }
  | .markPromotionBundle h => { t with store := (t.store.markPromotionBundle json h).2 }
  | .runGc =>
    match t.store.runGc with
    | (.ok report, s) => ⟨s, t.kept.filter fun e => e.1 ∉ report.evictedBundles⟩
    | (.error _, s) => { t with store := s }

def new (rootDir : Path) (policy : RetentionPolicy) : TrackedStore δ := ⟨.new rootDir policy, []⟩

/-- A scan in any order rebuilds the index, and what is kept is listed for its tenant. -/
structure Durable (json : MetadataJson δ) (t : TrackedStore δ) : Prop where
  rebuilds : ∀ scan, ∃ index, t.store.rebuildIndex json scan = .ok index ∧
    ∀ k, index.get? k = t.store.index.get? k
  listed : ∀ e ∈ t.kept, ∀ tenantId, e.2.tenantId = some tenantId →
    ∃ m, t.store.index.get? e.1 = some m ∧ m ∈ t.store.listBundlesForTenant tenantId

/-- Data stored before come for the tenant they were stored for. Other metadata that can be written
name the hash of the data, and their file is one that the scan finds and no other bundle has. -/
def Admits (hash : List UInt8 → B3Hash) (t : TrackedStore δ) : StoreCall → Prop
  | .storeBundle data m =>
    match t.store.index.get? (hash data) with
    | some m' => ∀ tenantId, m.tenantId = some tenantId → m'.tenantId = some tenantId
    | none => 0 ≤ m.createdAt → m.bundleHash = hash data ∧
        inTenantDir t.store.rootDir (metaPath t.store.rootDir (hash data) m) = true ∧
        ∀ h' m', t.store.index.get? h' = some m' →
          metaPath t.store.rootDir h' m' ≠ metaPath t.store.rootDir (hash data) m
  | _ => True

structure Inv (json : MetadataJson δ) (t : TrackedStore δ) : Prop where
  onDisk : OnDisk json t.store
  kept : ∀ e ∈ t.kept, ∃ m, t.store.index.get? e.1 = some m ∧
    ∀ tenantId, e.2.tenantId = some tenantId → m.tenantId = some tenantId

theorem inv_new (rootDir : Path) (policy : RetentionPolicy) :
    Inv json (new (δ := δ) rootDir policy) :=
  ⟨OnDisk.new rootDir policy, by simp [new]⟩

theorem mem_listBundlesForTenant {s : BundleStore δ} {tenantId : String} :
    m ∈ s.listBundlesForTenant tenantId ↔
      (∃ h, s.index.get? h = some m) ∧ m.tenantId = some tenantId := by
  simp [listBundlesForTenant, values, AList.mem_items]

theorem Inv.durable (ht : Inv json t) : Durable json t where
  rebuilds := ht.onDisk.rebuilds
  listed := by
    intro e he tenantId htenant
    obtain ⟨m, hm, hsame⟩ := ht.kept e he
    exact ⟨m, hm, mem_listBundlesForTenant.mpr ⟨⟨e.1, hm⟩, hsame tenantId htenant⟩⟩

section Steps

theorem Inv.storeBundle (ht : Inv json t) (hg : Admits hash t (.storeBundle data m)) :
    Inv json (step hash json t (.storeBundle data m)) := by
  simp only [Admits] at hg
  simp only [step, BundleStore.storeBundle]
  cases hm : t.store.index.get? (hash data) with
  | some m' =>
    simp only [hm] at hg
    rw [if_pos (AList.mem_of_get? hm)]
    refine ⟨ht.onDisk, ?_⟩
    intro e he
    rcases List.mem_cons.mp he with rfl | he
    · exact ⟨m', hm, hg⟩
    · exact ht.kept e he
  | none =>
    simp only [hm] at hg
    rw [if_neg (AList.get?_eq_none.mp hm)]
    have hkeep : ∀ path ∈ t.store.bundleFiles, path ∈
        t.store.bundleFiles.insert (bundlePath t.store.rootDir (hash data) m) data :=
      fun path hp => (AList.mem_insert _).mpr (Or.inr hp)
    cases hw : json.toStringPretty m with
    | error e => exact ⟨ht.onDisk.grow hkeep, ht.kept⟩
    | ok text =>
      have hdated := json.writes_iff.mp ⟨text, hw⟩
      obtain ⟨hnamed, hfound, hfree⟩ := hg hdated
      constructor
      · refine ht.onDisk.write hnamed hdated hfound ?_ ?_ (json.fromStr_toStringPretty hw) ?_ hkeep
        · intro h' m' hm' hp
          exact absurd hp (hfree h' m' hm')
        · simp [hm]
        · exact (AList.mem_insert _).mpr (Or.inl rfl)
      · intro e he
        rcases List.mem_cons.mp he with rfl | he
        · exact ⟨m, by rw [AList.get?_insert_self], fun _ => id⟩
        · obtain ⟨m', hm', hsame⟩ := ht.kept e he
          exact ⟨m', by grind, hsame⟩

theorem Inv.markBundle (ht : Inv json t) (flag : BundleMetadata → BundleMetadata)
    (hhash : ∀ m, (flag m).bundleHash = m.bundleHash)
    (hdate : ∀ m, (flag m).createdAt = m.createdAt)
    (htenant : ∀ m, (flag m).tenantId = m.tenantId) (h : B3Hash) :
    Inv json { t with store := (t.store.markBundle flag json h).2 } := by
  unfold BundleStore.markBundle
  cases hm : t.store.index.get? h with
  | none => exact ht
  | some m =>
    obtain ⟨hnamed, hdated, hfound, -, hdata⟩ := ht.onDisk.saved h m hm
    have hpath : metaPath t.store.rootDir h m = metaPath t.store.rootDir h (flag m) :=
      metaPath_congr h (htenant m).symm
    have hdated' : 0 ≤ (flag m).createdAt := by rwa [hdate]
    obtain ⟨text, hw⟩ := json.writes_iff.mpr hdated'
    simp only [updateMetadataFile, hw]
    constructor
    · refine ht.onDisk.write ((hhash m).trans hnamed) hdated' (hpath ▸ hfound) ?_ ?_
        (json.fromStr_toStringPretty hw) ?_ fun _ => id
      · intro h' m' hm' hp
        exact ht.onDisk.apart h' m' h m hm' hm (hp.trans hpath.symm)
      · grind
      · rwa [bundlePath_eq_iff.mpr hpath] at hdata
    · intro e he
      obtain ⟨m', hm', hsame⟩ := ht.kept e he
      by_cases heq : e.1 = h
      · exact ⟨flag m, by rw [AList.get?_insert, if_pos heq], by grind⟩
      · exact ⟨m', by rw [AList.get?_insert_ne heq, hm'], hsame⟩

theorem Inv.runGc (ht : Inv json t) : Inv json (step hash json t .runGc) := by
  obtain ⟨report, s, hgc, hs, -, hsame⟩ := ht.onDisk.collectGroups
    ⟨t.store.index.items.length, [], t.store.index.items.length, 0⟩ t.store.bundlesByCpid
  have hrun : t.store.runGc = (.ok report, s) := hgc
  simp only [step, hrun]
  refine ⟨hs, ?_⟩
  intro e he
  obtain ⟨he, hout⟩ := List.mem_filter.mp he
  obtain ⟨m, hm, htenant⟩ := ht.kept e he
  exact ⟨m, by rw [hsame e.1 (of_decide_eq_true hout), hm], htenant⟩

theorem Inv.step (ht : Inv json t) (call : StoreCall) (hg : Admits hash t call) :
    Inv json (step hash json t call) := by
  cases call with
  | storeBundle data m => exact ht.storeBundle hg
  | markIncidentBundle h =>
    exact ht.markBundle (fun m => { m with isIncidentBundle := true }) (fun _ => rfl)
      (fun _ => rfl) (fun _ => rfl) h
  | markPromotionBundle h =>
    exact ht.markBundle (fun m => { m with isPromotionBundle := true }) (fun _ => rfl)
      (fun _ => rfl) (fun _ => rfl) h
  | runGc => exact ht.runGc

/-- A file of a store that has everything on disk, or the one written last. -/
theorem exists_file_of_rebuilt (hs : OnDisk json t.store) {text : δ} {k : B3Hash}
    {index : HashMap B3Hash BundleMetadata} {m' : BundleMetadata}
    (hrebuilt : loadMetadata json ∅ ((Iteration.asListed.visit (t.store.metaFiles.insert
      (metaPath t.store.rootDir (hash data) m) text).items).filter
        fun file => inTenantDir t.store.rootDir file.1) = .ok index)
    (hk : index.get? k = some m') (htext : json.fromStr text = .ok m) :
    inTenantDir t.store.rootDir (metaPath t.store.rootDir (hash data) m) = true ∧ m' = m ∧
        m.bundleHash = k ∨
      t.store.index.get? k = some m' ∧
        metaPath t.store.rootDir k m' ≠ metaPath t.store.rootDir (hash data) m := by
  obtain hempty | ⟨⟨path, text'⟩, hfile, hread, hnamed⟩ := mem_of_loadMetadata hrebuilt hk
  · simp at hempty
  · obtain ⟨hmem, hfound⟩ := List.mem_filter.mp hfile
    have hget := AList.mem_items.mp (Iteration.asListed.mem_visit.mp hmem)
    rw [AList.get?_insert] at hget
    by_cases hp : path = metaPath t.store.rootDir (hash data) m
    · grind
    · rw [if_neg hp] at hget
      obtain ⟨h₁, m₁, hm₁, rfl⟩ := hs.owned path (AList.mem_of_get? hget)
      obtain ⟨hnamed₁, -, -, ⟨text₁, htext₁, hread₁⟩, -⟩ := hs.saved h₁ m₁ hm₁
      grind

theorem Inv.admits_of_durable (ht : Inv json t) (call : StoreCall)
    (hd : Durable json (TrackedStore.step hash json t call)) : Admits hash t call := by
  cases call with
  | storeBundle data m =>
    simp only [Admits]
    simp only [TrackedStore.step, BundleStore.storeBundle] at hd
    cases hm : t.store.index.get? (hash data) with
    | some m' =>
      rw [if_pos (AList.mem_of_get? hm)] at hd
      intro tenantId hid
      obtain ⟨m'', hm'', hin⟩ := hd.listed (hash data, m) List.mem_cons_self tenantId hid
      rw [Option.some.inj (hm.symm.trans hm'')]
      exact (mem_listBundlesForTenant.mp hin).2
    | none =>
      intro hdated
      obtain ⟨text, hw⟩ := json.writes_iff.mpr hdated
      have htext := json.fromStr_toStringPretty hw
      rw [if_neg (AList.get?_eq_none.mp hm)] at hd
      simp only [hw] at hd
      obtain ⟨index, hrebuilt, hsame⟩ := hd.rebuilds Iteration.asListed
      have hself : index.get? (hash data) = some m := by
        rw [hsame, AList.get?_insert_self]
      obtain ⟨hfound, -, hnamed⟩ | ⟨hold, -⟩ :=
        exists_file_of_rebuilt ht.onDisk hrebuilt hself htext
      · refine ⟨hnamed, hfound, ?_⟩
        intro h' m' hm'
        have hne : h' ≠ hash data := by grind
        have hkept : index.get? h' = some m' := by
          rw [hsame, AList.get?_insert_ne hne, hm']
        obtain ⟨-, -, hnamed'⟩ | ⟨-, hp⟩ := exists_file_of_rebuilt ht.onDisk hrebuilt hkept htext
        · exact absurd (hnamed'.symm.trans hnamed) hne
        · exact hp
      · simp [hm] at hold
  | markIncidentBundle h | markPromotionBundle h | runGc => trivial

end Steps

/-- Along a run the index in memory stays the one on disk and the bundles stay listed exactly if
every call is admitted. -/
theorem durable_iff (rootDir : Path) (policy : RetentionPolicy) (calls : List StoreCall) :
    Always (step hash json) (Durable json) (new rootDir policy) calls ↔
      Guarded (step hash json) (Admits hash) (new rootDir policy) calls :=
  always_iff_guarded_of_kept (fun _ call ht hg => Inv.step ht call hg) (fun _ ht => ht.durable)
    (fun _ call ht hd => ht.admits_of_durable call hd) (inv_new rootDir policy)

/-- Metadata that name another hash come back under that hash; data that one tenant has stored are
not listed for the next. -/
theorem misnamed_and_shared_lost :
    (¬ Durable plainJson (run (step leadingHash plainJson) (new ["var"] {})
        [.storeBundle [1] (sampleMetadata 5 7 none "tenant-a" 1)])) ∧
      ¬ Durable plainJson (run (step leadingHash plainJson) (new ["var"] {})
        [.storeBundle [1] (sampleMetadata (leadingHash [1]) 7 none "tenant-a" 1),
          .storeBundle [1] (sampleMetadata (leadingHash [1]) 7 none "tenant-b" 1)]) := by
  constructor
  · intro hd
    obtain ⟨index, hrebuilt, hsame⟩ := hd.rebuilds Iteration.asListed
    have hlost : ((run (step leadingHash plainJson) (new ["var"] {})
        [.storeBundle [1] (sampleMetadata 5 7 none "tenant-a" 1)]).store.rebuildIndex plainJson
          Iteration.asListed).map (fun index => index.get? (leadingHash [1])) = .ok none := by
      decide
    rw [hrebuilt] at hlost
    have hnone : index.get? (leadingHash [1]) = none := Except.ok.inj hlost
    rw [hsame] at hnone
    revert hnone
    decide
  · intro hd
    obtain ⟨m, -, hin⟩ := hd.listed
      (leadingHash [1], sampleMetadata (leadingHash [1]) 7 none "tenant-b" 1)
      (by decide) "tenant-b" rfl
    have hempty : (run (step leadingHash plainJson) (new ["var"] {})
        [.storeBundle [1] (sampleMetadata (leadingHash [1]) 7 none "tenant-a" 1),
          .storeBundle [1] (sampleMetadata (leadingHash [1]) 7 none "tenant-b" 1)]
        ).store.listBundlesForTenant "tenant-b" = [] := by decide
    rw [hempty] at hin
    cases hin

end TrackedStore

end AdapterOS.Telemetry
