import AdapterOS.Telemetry.BundleWriter

/-! When the signed bundles are the written events: exactly if no two bundles are opened in the same
millisecond. -/
namespace AdapterOS.Telemetry

open Library

/-- A bundle as it is meant: the millisecond of its first event, and its lines. -/
structure Segment where
  createdAt : Nat
  lines : List Line

/-- What the calls and the thresholds make of the events, whatever the files are called. -/
structure Bundling where
  closed : List Segment
  opened : Option Segment

def encode (lines : List Line) : List UInt8 := lines.flatMap fun line => line.1 ++ [newline]

namespace Segment

variable {T : Type*} (tools : WriterTools T) (config : WriterConfig)

def full (g : Segment) (next : Line) : Bool :=
  config.maxEvents ≤ g.lines.length || config.maxBytes < (encode g.lines).length + next.1.length + 1

def root (g : Segment) : B3Hash := computeMerkleRoot tools.hash (g.lines.map Subtype.val)

def shrinks (g : Segment) : Bool :=
  (config.compression.enabled && config.compression.minBundleSize ≤ (encode g.lines).length) &&
    (BundleWriter.compressData tools config (encode g.lines)).length < (encode g.lines).length

/-- The signature file of a segment whose bundle file holds just its lines. -/
def signature (sequenceNo : Nat) (prev : Option B3Hash) (g : Segment) : SignatureMetadata where
  merkleRoot := B3Hash.display (g.root tools)
  signature := tools.sign (B3Hash.asBytes (g.root tools))
  publicKey := tools.publicKey
  eventCount := g.lines.length
  sequenceNo := sequenceNo
  prevBundleHash := prev
  version := 2
  compressionMetadata :=
    if g.shrinks tools config then
      some (BundleWriter.compressionMetadata tools config (encode g.lines))
    else none

end Segment

namespace Bundling

variable {T : Type*} (tools : WriterTools T) (config : WriterConfig)

def new : Bundling := ⟨[], none⟩

def flush (b : Bundling) : Bundling := ⟨b.closed ++ b.opened.toList, none⟩

def write (b : Bundling) (now : Nat) (line : Line) : Bundling :=
  match b.opened with
  | none => ⟨b.closed, some ⟨now, [line]⟩⟩
  | some g =>
    if g.full config line then ⟨b.closed ++ [g], some ⟨now, [line]⟩⟩
    else ⟨b.closed, some ⟨g.createdAt, g.lines ++ [line]⟩⟩

def step (b : Bundling) : WriterCall T → Bundling
  | .writeEvent now event =>
    match tools.toVec event with
    | .error _ => b
    | .ok line => b.write config now line
  | .flush _ => b.flush

def bundles (calls : List (WriterCall T)) : List Segment :=
  (run (step tools config) new calls).flush.closed

def times (b : Bundling) : List Nat := (b.closed ++ b.opened.toList).map Segment.createdAt

def lines (b : Bundling) : List (List UInt8) :=
  (b.closed ++ b.opened.toList).flatMap fun g => g.lines.map Subtype.val

end Bundling

section Lines

theorem encode_concat (lines : List Line) (line : Line) :
    encode (lines ++ [line]) = encode lines ++ line.1 ++ [newline] := by
  simp [encode]

theorem linesOf_encode (lines : List Line) :
    BundleWriter.linesOf (encode lines) = lines.map Subtype.val := by
  have hsplit : (encode lines).splitOnP (· == newline) = lines.map Subtype.val ++ [[]] := by
    induction lines with
    | nil => rfl
    | cons line lines ih => grind [encode, List.splitOnP_append_cons_of_forall_mem]
  rw [BundleWriter.linesOf, hsplit, List.dropLast_concat]

end Lines

namespace Bundling

variable {T : Type*} {tools : WriterTools T} {config : WriterConfig}

theorem times_of_opened {b : Bundling} {g : Segment} (hg : b.opened = some g) :
    b.times = b.closed.map Segment.createdAt ++ [g.createdAt] := by
  simp [times, hg]

theorem ne_of_mem_closed {b : Bundling} {g x : Segment} (hn : b.times.Nodup)
    (hg : b.opened = some g) (hx : x ∈ b.closed) : x.createdAt ≠ g.createdAt := by
  rw [times_of_opened hg] at hn
  exact (List.nodup_append.mp hn).2.2 _ (List.mem_map_of_mem hx) _ List.mem_cons_self

theorem lines_write (b : Bundling) (now : Nat) (line : Line) :
    (b.write config now line).lines = b.lines ++ [line.1] := by
  obtain ⟨closed, opened⟩ := b
  cases opened with
  | none => simp [write, lines]
  | some g => by_cases hf : g.full config line <;> simp [write, hf, lines]

@[simp] theorem lines_flush (b : Bundling) : b.flush.lines = b.lines := by
  simp [flush, lines]

theorem lines_run (b : Bundling) (calls : List (WriterCall T)) :
    (run (step tools config) b calls).lines = b.lines ++ BundleWriter.written tools calls := by
  induction calls generalizing b with
  | nil => simp [BundleWriter.written]
  | cons call calls ih =>
    rw [run_cons, ih]
    cases call with
    | flush now => simp [step, BundleWriter.written]
    | writeEvent now event => grind [step, BundleWriter.written, Except.toOption, lines_write]

end Bundling

namespace Segment

variable {T : Type*} (tools : WriterTools T) (config : WriterConfig)

def signAll : Nat → Option B3Hash → List Segment → List (Segment × SignatureMetadata)
  | _, _, [] => []
  | n, prev, g :: rest =>
    (g, g.signature tools config n prev) :: signAll (n + 1) (some (g.root tools)) rest

theorem map_fst_signAll (n : Nat) (prev : Option B3Hash) (l : List Segment) :
    (signAll tools config n prev l).map Prod.fst = l := by
  induction l generalizing n prev with
  | nil => rfl
  | cons g l ih => simp [signAll, ih]

variable {tools config}

theorem signAll_concat (n : Nat) (prev : Option B3Hash) (l : List Segment) (g : Segment) :
    signAll tools config n prev (l ++ [g]) = signAll tools config n prev l ++
      [(g, g.signature tools config (n + l.length) (tip (root tools) prev l))] := by
  induction l generalizing n prev with
  | nil => rfl
  | cons x l ih =>
    rw [List.cons_append, signAll, ih, signAll, List.cons_append, tip_cons, List.length_cons,
      Nat.add_right_comm, ← Nat.add_assoc]

theorem mem_signAll {n : Nat} {prev : Option B3Hash} {l : List Segment}
    {e : Segment × SignatureMetadata} (he : e ∈ signAll tools config n prev l) :
    e.1 ∈ l ∧ ∃ k q, n ≤ k ∧ e.2 = e.1.signature tools config k q := by
  induction l generalizing n prev with
  | nil => cases he
  | cons g l ih => rcases List.mem_cons.mp he with rfl | he <;> grind

theorem pairwise_signAll (n : Nat) (prev : Option B3Hash) (l : List Segment) :
    (signAll tools config n prev l).Pairwise fun a b => a.2.sequenceNo < b.2.sequenceNo := by
  induction l generalizing n prev with
  | nil => exact List.Pairwise.nil
  | cons g l ih =>
    refine List.pairwise_cons.mpr ⟨?_, ih _ _⟩
    intro e he
    obtain ⟨-, k, q, hk, hsig⟩ := mem_signAll he
    rw [hsig]
    exact hk

end Segment

namespace BundleWriter

variable {T : Type*} {tools : WriterTools T} {config : WriterConfig} {w : BundleWriter}
  {b : Bundling} {g : Segment} {bundle now : Nat} {line : Line}

section Rotation

def signedTotal (signatures : HashMap Nat SignatureMetadata) : Nat :=
  (signatures.items.map fun e => e.2.eventCount).sum

theorem signedTotal_insert (signatures : HashMap Nat SignatureMetadata) (bundle : Nat)
    (σ : SignatureMetadata) :
    signedTotal (signatures.insert bundle σ) =
      σ.eventCount + signedTotal (signatures.erase bundle) := by
  simp [signedTotal, AList.items_insert]

theorem signedTotal_erase_new {signatures : HashMap Nat SignatureMetadata}
    (h : bundle ∉ signatures) : signedTotal (signatures.erase bundle) = signedTotal signatures := by
  rw [signedTotal, AList.items_erase_of_notMem h, signedTotal]

theorem signedTotal_erase_old {signatures : HashMap Nat SignatureMetadata}
    {σ : SignatureMetadata} (h : signatures.get? bundle = some σ) :
    signedTotal signatures = σ.eventCount + signedTotal (signatures.erase bundle) := by
  have hperm := (AList.items_erase_perm h).map fun e => e.2.eventCount
  simpa [signedTotal] using hperm.sum_nat

theorem eventCount_compressBundle (w : BundleWriter) (bundle : Nat) (σ : SignatureMetadata) :
    (w.compressBundle tools config bundle σ).2.eventCount = σ.eventCount := by
  simp only [compressBundle]
  split <;> rfl

theorem rotateBundle_of_open (tools : WriterTools T) (config : WriterConfig)
    (hc : w.currentBundle = some bundle) :
    (w.rotateBundle tools config).currentBundle = none ∧
      (w.rotateBundle tools config).eventSeqCounter = w.eventSeqCounter + 1 ∧
      (w.rotateBundle tools config).lastMerkleRoot =
        some (computeMerkleRoot tools.hash (w.eventsBuffer.map Subtype.val)) ∧
      ∃ σ, (w.rotateBundle tools config).signatures = w.signatures.insert bundle σ ∧
        σ.eventCount = w.eventCount := by
  simp only [rotateBundle, hc, true_and]
  refine ⟨_, rfl, ?_⟩
  split
  · exact eventCount_compressBundle w bundle _
  · rfl

/-- What it does to a bundle file that holds just the lines of the bundle. -/
theorem rotateBundle_of_filed (tools : WriterTools T) (config : WriterConfig)
    (hc : w.currentBundle = some g.createdAt)
    (hbuffer : w.eventsBuffer = g.lines) (hcount : w.eventCount = g.lines.length)
    (hbytes : w.currentBytes = (encode g.lines).length)
    (hfile : w.bundles.get? g.createdAt = some (encode g.lines)) :
    (w.rotateBundle tools config).signatures = w.signatures.insert g.createdAt
        (g.signature tools config w.eventSeqCounter w.lastMerkleRoot) ∧
      (w.rotateBundle tools config).bundles =
        (if g.shrinks tools config then w.bundles.erase g.createdAt else w.bundles) ∧
      (w.rotateBundle tools config).compressed = if g.shrinks tools config then
          w.compressed.insert g.createdAt (compressData tools config (encode g.lines))
        else w.compressed := by
  grind [rotateBundle, compressBundle, Segment.signature, Segment.shrinks, Segment.root]

end Rotation

section Simulation

def lineTotal (l : List Segment) : Nat := (l.map fun g => g.lines.length).sum

/-- The writer is where the bundling says, and each signature file counts the events of the last
bundle with its name. -/
structure Represents (tools : WriterTools T) (w : BundleWriter) (b : Bundling) : Prop where
  current : w.currentBundle = b.opened.map Segment.createdAt
  buffer : ∀ g, b.opened = some g → g.lines ≠ [] ∧ w.eventsBuffer = g.lines ∧
    w.eventCount = g.lines.length ∧ w.currentBytes = (encode g.lines).length
  counter : w.eventSeqCounter = b.closed.length
  lastRoot : w.lastMerkleRoot = tip (Segment.root tools) none b.closed
  signed : ∀ t, t ∈ w.signatures ↔ t ∈ b.closed.map Segment.createdAt
  positive : ∀ t σ, w.signatures.get? t = some σ → 0 < σ.eventCount
  total_le : signedTotal w.signatures ≤ lineTotal b.closed
  nodup_of_total : signedTotal w.signatures = lineTotal b.closed →
    (b.closed.map Segment.createdAt).Nodup

/-- The bundle file of a closed bundle, compressed or not. -/
def Stored (tools : WriterTools T) (config : WriterConfig) (w : BundleWriter) (g : Segment) :
    Prop :=
  if g.shrinks tools config then
    w.compressed.get? g.createdAt = some (compressData tools config (encode g.lines))
  else w.bundles.get? g.createdAt = some (encode g.lines)

/-- Every bundle has a file and a signature file of its own. -/
structure Filed (tools : WriterTools T) (config : WriterConfig) (w : BundleWriter) (b : Bundling) :
    Prop where
  signatures : w.signatures.items.Perm
    ((Segment.signAll tools config 0 none b.closed).map fun e => (e.1.createdAt, e.2))
  closed : ∀ g ∈ b.closed, Stored tools config w g
  opened : ∀ g, b.opened = some g → w.bundles.get? g.createdAt = some (encode g.lines)
  fresh : ∀ t, t ∉ b.times → w.bundles.get? t = none

structure Inv (tools : WriterTools T) (config : WriterConfig) (w : BundleWriter) (b : Bundling) :
    Prop where
  represents : Represents tools w b
  filed : b.times.Nodup → Filed tools config w b

theorem inv_new (tools : WriterTools T) (config : WriterConfig) :
    Inv tools config new Bundling.new where
  represents := ⟨rfl, by simp [Bundling.new], rfl, rfl, by simp [new, Bundling.new],
    by simp [new], by simp [new, signedTotal, AList.items], by simp [Bundling.new]⟩
  filed _ := ⟨by simp [new, Bundling.new, Segment.signAll, AList.items], by simp [Bundling.new],
    by simp [Bundling.new], by simp [new]⟩

theorem Represents.currentBundle (h : Represents tools w b) (hg : b.opened = some g) :
    w.currentBundle = some g.createdAt := by
  rw [h.current, hg]
  rfl

theorem Stored.frame {w' : BundleWriter} (h : Stored tools config w g)
    (hbundles : w'.bundles.get? g.createdAt = w.bundles.get? g.createdAt)
    (hcompressed : w'.compressed.get? g.createdAt = w.compressed.get? g.createdAt) :
    Stored tools config w' g := by
  unfold Stored at h ⊢
  rwa [hbundles, hcompressed]

theorem Represents.rotate (h : Represents tools w b) (hg : b.opened = some g) :
    Represents tools (w.rotateBundle tools config) ⟨b.closed ++ [g], none⟩ := by
  obtain ⟨hne, hbuffer, hcount, -⟩ := h.buffer g hg
  obtain ⟨hnone, hcounter, hroot, σ, hsig, hσ⟩ :=
    rotateBundle_of_open tools config (h.currentBundle hg)
  have hpos : 0 < g.lines.length := List.length_pos_iff.mpr hne
  have htotal : lineTotal (b.closed ++ [g]) = lineTotal b.closed + g.lines.length := by
    simp [lineTotal]
  -- a signature file that is overwritten takes its events out of the count
  have hinsert : signedTotal (w.signatures.insert g.createdAt σ) ≤ lineTotal (b.closed ++ [g]) ∧
      (signedTotal (w.signatures.insert g.createdAt σ) = lineTotal (b.closed ++ [g]) →
        ((b.closed ++ [g]).map Segment.createdAt).Nodup) := by
    obtain ⟨⟩ := h
    grind [signedTotal_insert, AList.mem_iff_get?, signedTotal_erase_old, signedTotal_erase_new]
  have hpositive := h.positive
  constructor <;> simp only [hsig, hroot, hcounter, hbuffer] <;>
    grind [h.counter, h.signed, Segment.root, tip_concat]

theorem Filed.rotate (h : Filed tools config w b) (hw : Represents tools w b)
    (hg : b.opened = some g) (hn : b.times.Nodup) :
    Filed tools config (w.rotateBundle tools config) ⟨b.closed ++ [g], none⟩ := by
  obtain ⟨-, hbuffer, hcount, hbytes⟩ := hw.buffer g hg
  obtain ⟨hsig, hbundles, hcompressed⟩ :=
    rotateBundle_of_filed tools config (hw.currentBundle hg) hbuffer hcount hbytes (h.opened g hg)
  constructor
  · obtain ⟨⟩ := hw
    obtain ⟨⟩ := h
    grind [Bundling.ne_of_mem_closed, AList.items_insert, AList.items_erase_of_notMem,
      Segment.signAll_concat]
  · obtain ⟨⟩ := h
    grind [Bundling.ne_of_mem_closed, Stored]
  · simp
  · obtain ⟨⟩ := h
    grind [Bundling.times]

variable (h : Inv tools config w b)

include h

theorem Inv.rotate (hg : b.opened = some g) :
    Inv tools config (w.rotateBundle tools config) ⟨b.closed ++ [g], none⟩ where
  represents := h.represents.rotate hg
  filed := by
    intro hn
    have hsame : b.times = Bundling.times ⟨b.closed ++ [g], none⟩ := by simp [Bundling.times, hg]
    rw [← hsame] at hn
    exact (h.filed hn).rotate h.represents hg hn

theorem Inv.create (hb : b.opened = none) (now : Nat) (line : Line) :
    Inv tools config ((w.createNewBundle now).append line) ⟨b.closed, some ⟨now, [line]⟩⟩ := by
  obtain ⟨-, -, hcounter, hroot, hsigned, hpos, hle, hnodup⟩ := h.represents
  refine ⟨⟨rfl, ?_, hcounter, hroot, hsigned, hpos, hle, hnodup⟩, ?_⟩
  · intro g hg
    cases hg
    simp [append, createNewBundle, encode]
  · intro hn
    have htimes : b.times = b.closed.map Segment.createdAt := by simp [Bundling.times, hb]
    have htimes' : Bundling.times ⟨b.closed, some ⟨now, [line]⟩⟩ = b.times ++ [now] := by
      simp [Bundling.times, hb]
    rw [htimes'] at hn
    have hnow : now ∉ b.times := by
      intro hin
      exact (List.nodup_append.mp hn).2.2 _ hin _ List.mem_cons_self rfl
    obtain ⟨hsig, hclosed, -, hfresh⟩ := h.filed (List.nodup_append.mp hn).1
    have hget : ∀ t, ((w.createNewBundle now).append line).bundles.get? t =
        if t = now then some (encode [line]) else w.bundles.get? t := by
      grind [append, createNewBundle, encode]
    refine ⟨hsig, ?_, by grind, by grind⟩
    intro x hx
    have hne : x.createdAt ≠ now := by
      rintro rfl
      exact hnow (htimes ▸ List.mem_map_of_mem hx)
    exact (hclosed x hx).frame (by rw [hget, if_neg hne]) rfl

theorem Inv.extend (hg : b.opened = some g) (line : Line) :
    Inv tools config (w.append line) ⟨b.closed, some ⟨g.createdAt, g.lines ++ [line]⟩⟩ := by
  have hcurrent := h.represents.currentBundle hg
  obtain ⟨-, hbuffer, hcounter, hroot, hsigned, hpos, hle, hnodup⟩ := h.represents
  obtain ⟨-, hlines, hcount, hbytes⟩ := hbuffer g hg
  simp only [append, hcurrent]
  refine ⟨⟨rfl, ?_, hcounter, hroot, hsigned, hpos, hle, hnodup⟩, ?_⟩
  · grind [encode_concat]
  · intro hn
    have htimes : Bundling.times ⟨b.closed, some ⟨g.createdAt, g.lines ++ [line]⟩⟩ = b.times := by
      simp [Bundling.times, hg]
    rw [htimes] at hn
    obtain ⟨hsig, hclosed, hopened, hfresh⟩ := h.filed hn
    have hopen := Bundling.times_of_opened hg
    refine ⟨hsig, ?_, ?_, ?_⟩
    · intro x hx
      have hne := Bundling.ne_of_mem_closed hn hg hx
      exact (hclosed x hx).frame (AList.get?_insert_ne hne) rfl
    · grind [encode_concat]
    · grind

theorem Inv.shouldRotate_eq (hg : b.opened = some g) (line : Line) :
    w.shouldRotate config line = g.full config line := by
  obtain ⟨-, -, hcount, hbytes⟩ := h.represents.buffer g hg
  simp [shouldRotate, Segment.full, h.represents.currentBundle hg, hcount, hbytes]

theorem Inv.writeLine (now : Nat) (line : Line) :
    Inv tools config (w.writeLine tools config now line) (b.write config now line) := by
  unfold BundleWriter.writeLine Bundling.write
  cases hb : b.opened with
  | none =>
    have hcurrent : w.currentBundle = none := by rw [h.represents.current, hb]; rfl
    have hrotate : w.shouldRotate config line = false := by simp [shouldRotate, hcurrent]
    simp only [hrotate, hcurrent, Bool.false_eq_true, if_false, Option.isNone_none, if_true]
    exact h.create hb now line
  | some g =>
    rw [h.shouldRotate_eq hb]
    by_cases hf : g.full config line
    · have hnext := h.rotate hb
      have hnone : (w.rotateBundle tools config).currentBundle = none :=
        hnext.represents.current
      simp only [hf, if_true, hnone]
      exact hnext.create rfl now line
    · have hcurrent := h.represents.currentBundle hb
      simp only [hf, hcurrent, Bool.false_eq_true, if_false, Option.isNone_some]
      exact h.extend hb line

theorem Inv.flush : Inv tools config (w.flush tools config) b.flush := by
  unfold BundleWriter.flush Bundling.flush
  cases hb : b.opened with
  | none =>
    -- the count of the last bundle is still there, but nothing is open
    have hcurrent : w.currentBundle = none := by rw [h.represents.current, hb]; rfl
    have hsame : (if w.eventCount > 0 then w.rotateBundle tools config else w) = w := by
      simp [rotateBundle, hcurrent]
    have hb' : (⟨b.closed ++ (none : Option Segment).toList, none⟩ : Bundling) = b := by
      rw [Option.toList_none, List.append_nil, ← hb]
    rwa [hsame, hb']
  | some g =>
    obtain ⟨hne, -, hcount, -⟩ := h.represents.buffer g hb
    have hpos : w.eventCount > 0 := hcount ▸ List.length_pos_iff.mpr hne
    rw [if_pos hpos]
    exact h.rotate hb

theorem Inv.run (calls : List (WriterCall T)) : Inv tools config (run (step tools config) w calls)
      (run (Bundling.step tools config) b calls) := by
  induction calls generalizing w b with
  | nil => exact h
  | cons call calls ih =>
    refine ih ?_
    cases call with
    | flush now => exact h.flush
    | writeEvent now event =>
      simp only [step, writeEvent, Bundling.step]
      cases tools.toVec event with
      | error e => exact h
      | ok line => exact h.writeLine now line

end Simulation

section Result

theorem readBundle_of_stored {σ : SignatureMetadata} {n : Nat} {prev : Option B3Hash}
    (hσ : σ = g.signature tools config n prev) (h : Stored tools config w g) :
    w.readBundle tools g.createdAt σ = some ⟨σ, g.lines.map Subtype.val⟩ := by
  subst hσ
  by_cases hs : g.shrinks tools config
  · have hfile : w.compressed.get? g.createdAt =
        some (compressData tools config (encode g.lines)) := by
      simpa [Stored, hs] using h
    -- no compression does not save space
    have hundo : tools.decompress config.compression.algorithm
        (compressData tools config (encode g.lines)) = some (encode g.lines) := by
      cases ha : config.compression.algorithm with
      | none => simp [Segment.shrinks, compressData, ha] at hs
      | zstd | gzip | lz4 => simp [compressData, ha, tools.decompress_compress]
    simp [readBundle, Segment.signature, hs, hfile, compressionMetadata, hundo, linesOf_encode]
  all_goals grind [Stored, readBundle, Segment.signature, linesOf_encode]

def ofSigned (e : Segment × SignatureMetadata) : SignedBundle := ⟨e.2, e.1.lines.map Subtype.val⟩

theorem linked_signAll (n : Nat) (prev : Option B3Hash) (l : List Segment) :
    Linked (fun b => b.signature.prevBundleHash)
      (fun b : SignedBundle => computeMerkleRoot tools.hash b.lines) prev
      ((Segment.signAll tools config n prev l).map ofSigned) := by
  induction l generalizing n prev with
  | nil => trivial
  | cons g l ih => exact ⟨rfl, ih (n + 1) _⟩

theorem Filed.signed (h : Filed tools config w b) (hb : b.opened = none) :
    Signed tools b.lines w := by
  have hfiles : w.signatureFiles =
      (Segment.signAll tools config 0 none b.closed).map fun e => (e.1.createdAt, e.2) := by
    refine sortBy_eq_of_perm ?_ h.signatures
    exact List.pairwise_map.mpr (Segment.pairwise_signAll 0 none b.closed)
  refine ⟨(Segment.signAll tools config 0 none b.closed).map ofSigned, ?_, ?_, ?_,
    linked_signAll 0 none b.closed⟩
  · rw [hfiles, List.map_map, List.map_map]
    refine List.map_congr_left ?_
    intro e he
    obtain ⟨hin, n, prev, -, hσ⟩ := Segment.mem_signAll he
    exact readBundle_of_stored hσ (h.closed e.1 hin)
  · intro x hx
    obtain ⟨e, he, rfl⟩ := List.mem_map.mp hx
    obtain ⟨-, n, prev, -, hσ⟩ := Segment.mem_signAll he
    simp [ofSigned, hσ, Segment.signature, Segment.root]
  · have hlines : ((Segment.signAll tools config 0 none b.closed).map ofSigned).flatMap
        SignedBundle.lines = b.lines := by
      conv_rhs => rw [Bundling.lines, hb, Option.toList_none, List.append_nil,
        ← Segment.map_fst_signAll tools config 0 none b.closed]
      rw [List.flatMap_map, List.flatMap_map]
      rfl
    rw [hlines]

theorem map_signature_of_read {l : List (Nat × SignatureMetadata)} {signed : List SignedBundle}
    (h : l.map (fun e => w.readBundle tools e.1 e.2) = signed.map some) :
    signed.map SignedBundle.signature = l.map Prod.snd := by
  induction l generalizing signed with
  | nil => simp_all
  | cons e l ih =>
    cases signed with
    | nil => cases h
    | cons x signed =>
      rw [List.map_cons, List.map_cons, List.cons.injEq] at h
      obtain ⟨data, -, hx⟩ := Option.map_eq_some_iff.mp h.1
      rw [List.map_cons, List.map_cons, ih h.2, ← hx]

theorem Signed.total {events : List (List UInt8)} (h : Signed tools events w) :
    signedTotal w.signatures = events.length := by
  obtain ⟨signed, hread, hcount, hperm, -⟩ := h
  have hfiles : (w.signatureFiles.map fun e => e.2.eventCount).sum = signedTotal w.signatures :=
    ((sortBy_perm _ _).map _).sum_nat
  have hsigned : signed.map (fun x => x.signature.eventCount) =
      w.signatureFiles.map fun e => e.2.eventCount := by
    have hmap := congrArg (List.map SignatureMetadata.eventCount) (map_signature_of_read hread)
    rwa [List.map_map, List.map_map] at hmap
  have hlines : signed.map (fun x => x.signature.eventCount) = signed.map fun x => x.lines.length :=
    List.map_congr_left fun x hx => (hcount x hx).1
  rw [← hfiles, ← hsigned, hlines, ← hperm.length_eq, List.length_flatMap]

/-- After the last flush the signed bundles are the written events exactly if no two bundles were
opened in the same millisecond. -/
theorem signed_iff (calls : List (WriterCall T)) :
    Signed tools (written tools calls) ((run (step tools config) new calls).flush tools config) ↔
      ((Bundling.bundles tools config calls).map Segment.createdAt).Nodup := by
  have hinv := ((inv_new tools config).run calls).flush
  have hlines : (run (Bundling.step tools config) Bundling.new calls).flush.lines =
      written tools calls := by
    rw [Bundling.lines_flush, Bundling.lines_run]
    rfl
  constructor
  · intro h
    refine hinv.represents.nodup_of_total ?_
    rw [h.total, ← hlines, Bundling.lines]
    simp [lineTotal, Bundling.flush, List.length_flatMap]
  · intro hn
    rw [← hlines]
    refine (hinv.filed ?_).signed rfl
    simpa [Bundling.times, Bundling.bundles, Bundling.flush] using hn

def plainTools : WriterTools Line where
  toVec := .ok
  hash := digitHash
  sign _ := "sig"
  publicKey := "key"
  compress _ data := data
  decompress _ data := some data
  decompress_compress _ _ := rfl

def sameMillisecond : List (WriterCall Line) :=
  [.writeEvent 5 ⟨[1], by decide⟩, .writeEvent 5 ⟨[2], by decide⟩]

def sharedFile : BundleWriter :=
  (run (step plainTools ⟨1, 1024, {}⟩) new sameMillisecond).flush plainTools ⟨1, 1024, {}⟩

/-- The two share a file, and one signature for a single event is left. -/
theorem sameMillisecond_unsigned :
    ¬ Signed plainTools (written plainTools sameMillisecond) sharedFile := by
  rintro ⟨signed, hread, hcount, -⟩
  have hfile : (sharedFile.signatureFiles.map fun e => sharedFile.readBundle plainTools e.1 e.2).map
        (Option.map fun x => (x.signature.eventCount, x.lines)) = [some (1, [[1], [2]])] := by
    decide
  rw [hread] at hfile
  match signed with
  | [x] =>
    have hx : x.signature.eventCount = 1 ∧ x.lines = [[1], [2]] := by simpa using hfile
    have hone := (hcount x List.mem_cons_self).1
    rw [hx.1, hx.2] at hone
    cases hone
  | [] => cases hfile
  | _ :: _ :: _ => simp at hfile

end Result

end BundleWriter

end AdapterOS.Telemetry
