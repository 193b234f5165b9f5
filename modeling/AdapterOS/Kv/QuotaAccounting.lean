import AdapterOS.Kv.Quota
import AdapterOS.Library.Run
import Mathlib.Algebra.BigOperators.Group.Multiset.Basic

/-! The quota counters against the reservations still outstanding, over whole runs. -/
namespace AdapterOS.Kv

open Library TenantKvQuotaManager

/-- The manager with the clock, the handles that callers still hold, the reservations that are
neither settled nor collected, and whether a counter has ever wrapped below zero. -/
structure QuotaRun where
  manager : TenantKvQuotaManager
  clock : Nat
  held : List KvReservation
  outstanding : Multiset KvReservation
  wrapped : Bool

inductive QuotaOp where
  | advance (nanos : Nat)
  | reserve (bytes systemNanos : Nat)
  | finalize (index : Nat)
  | rollback (index : Nat)
  | release (bytes : Nat)

def QuotaRun.new (tenantId : String) (quotaBytes : Option Nat) (clock : Nat) : QuotaRun :=
  ⟨.new tenantId quotaBytes, clock, [], 0, false⟩

/-- A handle is settled, once: it leaves the held and the outstanding reservations. -/
def QuotaRun.settle (s : QuotaRun) (index : Nat) (r : KvReservation)
    (m : TenantKvQuotaManager) : QuotaRun :=
  { s with manager := m, held := s.held.eraseIdx index, outstanding := s.outstanding.erase r
           wrapped := s.wrapped || s.manager.reservedBytes < r.sizeBytes }

def quotaStep (s : QuotaRun) : QuotaOp → QuotaRun
  | .advance nanos => { s with clock := s.clock + nanos }
  | .reserve bytes systemNanos =>
    let collected := s.manager.expired s.clock
    let wrapped := s.wrapped || s.manager.reservedBytes < sumBytes collected
    match s.manager.reserve bytes s.clock systemNanos with
    | (.ok r, m) => { s with manager := m, held := s.held ++ [r]
                             outstanding := r ::ₘ (s.outstanding - collected), wrapped := wrapped }
    | (.error _, m) => { s with manager := m, outstanding := s.outstanding - collected
                                wrapped := wrapped }
  | .finalize index =>
    match s.held[index]? with
    | some r => s.settle index r (s.manager.finalize r)
    | none => s
  | .rollback index =>
    match s.held[index]? with
    | some r => s.settle index r (s.manager.rollback r)
    | none => s
  | .release bytes =>
    { s with manager := s.manager.release bytes
             wrapped := s.wrapped || s.manager.usedBytes < bytes }

def outstandingBytes (rs : Multiset KvReservation) : Nat := (rs.map (·.sizeBytes)).sum

/-- The books are right. -/
structure Accounted (s : QuotaRun) : Prop where
  reserved_eq : s.manager.reservedBytes = outstandingBytes s.outstanding
  not_wrapped : s.wrapped = false
  within : ∀ quota, s.manager.quotaBytes = some quota →
    s.manager.usedBytes + s.manager.reservedBytes ≤ quota

/-- A handle is settled only while its reservation has not been collected, releases are covered
by what is used, and without an effective quota the sum stays a machine word. -/
def QuotaGuard (s : QuotaRun) : QuotaOp → Prop
  | .advance _ => True
  | .reserve bytes _ => (∃ quota < 2 ^ 64 - 1, s.manager.quotaBytes = some quota) ∨
      s.manager.usedBytes + s.manager.reservedBytes + bytes < 2 ^ 64
  | .finalize index | .rollback index => ∀ r, s.held[index]? = some r → r ∈ s.outstanding
  | .release bytes => bytes ≤ s.manager.usedBytes

/-- What carries the accounting: whatever is listed is outstanding, and nothing overflows. -/
structure Books (s : QuotaRun) : Prop extends Accounted s where
  listed : (s.manager.reservations : Multiset KvReservation) ≤ s.outstanding
  fits : s.manager.usedBytes + s.manager.reservedBytes < 2 ^ 64

variable {s : QuotaRun} {rs : Multiset KvReservation} {r : KvReservation}

@[simp] theorem outstandingBytes_cons (r : KvReservation) (rs : Multiset KvReservation) :
    outstandingBytes (r ::ₘ rs) = r.sizeBytes + outstandingBytes rs := by
  simp [outstandingBytes]

theorem outstandingBytes_add (rs rs' : Multiset KvReservation) :
    outstandingBytes (rs + rs') = outstandingBytes rs + outstandingBytes rs' := by
  simp [outstandingBytes]

theorem outstandingBytes_sub {rs' : Multiset KvReservation} (h : rs' ≤ rs) :
    outstandingBytes (rs - rs') + outstandingBytes rs' = outstandingBytes rs := by
  rw [← outstandingBytes_add, Multiset.sub_add_cancel h]

theorem outstandingBytes_erase (h : r ∈ rs) :
    outstandingBytes (rs.erase r) + r.sizeBytes = outstandingBytes rs := by
  rw [← Multiset.cons_erase h, outstandingBytes_cons, Multiset.erase_cons_head]
  omega

theorem sumBytes_from {rs : List KvReservation} (start : Nat)
    (h : start + outstandingBytes rs < 2 ^ 64) :
    rs.foldl (fun sum r => wrap64 (sum + r.sizeBytes)) start = start + outstandingBytes rs := by
  induction rs generalizing start with
  | nil => simp [outstandingBytes]
  | cons r rs ih =>
    have hc : outstandingBytes (r :: rs : List KvReservation) =
        r.sizeBytes + outstandingBytes (rs : Multiset KvReservation) := by
      simp [outstandingBytes]
    rw [hc] at h ⊢
    rw [List.foldl_cons, wrap64_of_lt (by omega), ih _ (by omega)]
    omega

theorem sumBytes_eq {rs : List KvReservation}
    (h : outstandingBytes (rs : Multiset KvReservation) < 2 ^ 64) :
    sumBytes rs = outstandingBytes rs := by
  have hf := sumBytes_from 0 (show 0 + outstandingBytes rs < 2 ^ 64 by omega)
  rwa [Nat.zero_add] at hf

theorem expired_le (h : Books s) :
    (s.manager.expired s.clock : Multiset KvReservation) ≤ s.outstanding :=
  (Multiset.coe_le.mpr (List.filter_sublist.subperm)).trans h.listed

theorem books_collect (h : Books s) :
    Books { s with manager := s.manager.cleanupExpired s.clock
                   outstanding := s.outstanding - (s.manager.expired s.clock)
                   wrapped := s.wrapped ||
                     s.manager.reservedBytes < sumBytes (s.manager.expired s.clock) } := by
  have hsub := outstandingBytes_sub (expired_le h)
  have hres := h.reserved_eq
  have hfits := h.fits
  have hsum : sumBytes (s.manager.expired s.clock) =
      outstandingBytes (s.manager.expired s.clock : Multiset KvReservation) :=
    sumBytes_eq (by omega)
  have hnew : (s.manager.cleanupExpired s.clock).reservedBytes =
      s.manager.reservedBytes - sumBytes (s.manager.expired s.clock) :=
    wrapSub64_of_le (by omega) (by omega)
  refine ⟨⟨?_, ?_, ?_⟩, ?_, ?_⟩
  · dsimp only
    rw [hnew]
    omega
  · have hn : ¬ s.manager.reservedBytes < sumBytes (s.manager.expired s.clock) := by omega
    simp [h.not_wrapped, hn]
  · intro quota hq
    have hw := h.within quota hq
    dsimp only
    rw [hnew]
    change s.manager.usedBytes + _ ≤ quota
    omega
  · apply le_tsub_of_add_le_right
    obtain ⟨⟩ := h
    grind [Multiset.coe_add, Multiset.coe_eq_coe, TenantKvQuotaManager.expired,
      List.filter_append_perm, cleanupExpired]
  · dsimp only
    rw [hnew]
    change s.manager.usedBytes + _ < 2 ^ 64
    omega

theorem reserve_fits {m : TenantKvQuotaManager} {bytes : Nat}
    (hg : (∃ quota < 2 ^ 64 - 1, m.quotaBytes = some quota) ∨
      m.usedBytes + m.reservedBytes + bytes < 2 ^ 64)
    (hok : m.checkQuota bytes = .ok ()) :
    m.usedBytes + m.reservedBytes + bytes < 2 ^ 64 ∧
      ∀ quota, m.quotaBytes = some quota → m.usedBytes + m.reservedBytes + bytes ≤ quota := by
  grind [checkQuota, totalNeeded, saturatingAdd64]

theorem books_reserve (h : Books s) {bytes systemNanos : Nat}
    (hg : QuotaGuard s (.reserve bytes systemNanos)) :
    Books (quotaStep s (.reserve bytes systemNanos)) := by
  have hc := books_collect h
  let m := s.manager.cleanupExpired s.clock
  have hm : s.manager.cleanupExpired s.clock = m := rfl
  have hres : m.reservedBytes = outstandingBytes (s.outstanding - (s.manager.expired s.clock)) :=
    hc.reserved_eq
  have hsmaller : m.reservedBytes ≤ s.manager.reservedBytes := by
    have hsub := outstandingBytes_sub (expired_le h)
    have hs := h.reserved_eq
    omega
  have hg' : (∃ quota < 2 ^ 64 - 1, m.quotaBytes = some quota) ∨
      m.usedBytes + m.reservedBytes + bytes < 2 ^ 64 := by
    rcases hg with hq | hlt
    · exact Or.inl hq
    · right
      change s.manager.usedBytes + m.reservedBytes + bytes < 2 ^ 64
      omega
  cases hok : m.checkQuota bytes with
  | error e =>
    simp only [quotaStep, reserve_error hok]
    exact hc
  | ok u =>
    obtain ⟨hfits, hwithin⟩ := reserve_fits hg' hok
    let r := KvReservation.new (m.reservationId systemNanos) bytes s.clock
    have hw : wrap64 (m.reservedBytes + bytes) = m.reservedBytes + bytes :=
      wrap64_of_lt (by omega)
    simp only [quotaStep, reserve_ok hm hok, hw]
    refine ⟨⟨?_, hc.not_wrapped, ?_⟩, ?_, ?_⟩
    · simp only [outstandingBytes_cons]
      rw [← hres]
      change m.reservedBytes + bytes = bytes + m.reservedBytes
      omega
    · grind
    · change ((m.reservations ++ [r] : List KvReservation) : Multiset KvReservation) ≤ _
      rw [← Multiset.coe_add, add_comm]
      exact Multiset.cons_le_cons r hc.listed
    · change m.usedBytes + (m.reservedBytes + bytes) < 2 ^ 64
      omega

theorem unlist_le (h : Books s) (r : KvReservation) :
    ((s.manager.unlist r).reservations : Multiset KvReservation) ≤ s.outstanding.erase r := by
  have hn : r ∉ ((s.manager.unlist r).reservations : Multiset KvReservation) := by
    simp [TenantKvQuotaManager.unlist]
  have hle : ((s.manager.unlist r).reservations : Multiset KvReservation) ≤ s.outstanding :=
    (Multiset.coe_le.mpr (List.filter_sublist.subperm)).trans h.listed
  rw [← Multiset.erase_of_notMem hn]
  exact Multiset.erase_le_erase r hle

theorem books_settle {m : TenantKvQuotaManager} (h : Books s) (index : Nat)
    (hr : r ∈ s.outstanding) (hquota : m.quotaBytes = s.manager.quotaBytes)
    (hlist : m.reservations = (s.manager.unlist r).reservations)
    (hres : m.reservedBytes = wrapSub64 s.manager.reservedBytes r.sizeBytes)
    (hused : m.usedBytes ≤ s.manager.usedBytes + r.sizeBytes) :
    Books (s.settle index r m) := by
  have herase := outstandingBytes_erase hr
  have hbooks := h.reserved_eq
  have hfits := h.fits
  have hreserved : m.reservedBytes = s.manager.reservedBytes - r.sizeBytes :=
    hres.trans (wrapSub64_of_le (by omega) (by omega))
  have hn : ¬ s.manager.reservedBytes < r.sizeBytes := by omega
  refine ⟨⟨?_, ?_, ?_⟩, ?_, ?_⟩
  · change m.reservedBytes = outstandingBytes (s.outstanding.erase r)
    omega
  · simp [QuotaRun.settle, h.not_wrapped, hn]
  · intro quota hq
    have hw := h.within quota (hquota.symm.trans hq)
    change m.usedBytes + m.reservedBytes ≤ quota
    omega
  · change (m.reservations : Multiset KvReservation) ≤ s.outstanding.erase r
    rw [hlist]
    exact unlist_le h r
  · change m.usedBytes + m.reservedBytes < 2 ^ 64
    omega

theorem books_finalize (h : Books s) (index : Nat) (hr : r ∈ s.outstanding) :
    Books (s.settle index r (s.manager.finalize r)) :=
  books_settle h index hr rfl rfl rfl (Nat.mod_le _ _)

theorem books_rollback (h : Books s) (index : Nat) (hr : r ∈ s.outstanding) :
    Books (s.settle index r (s.manager.rollback r)) :=
  books_settle h index hr rfl rfl rfl (Nat.le_add_right _ _)

theorem books_release (h : Books s) {bytes : Nat} (hb : bytes ≤ s.manager.usedBytes) :
    Books (quotaStep s (.release bytes)) := by
  have hfits := h.fits
  have hused : (s.manager.release bytes).usedBytes = s.manager.usedBytes - bytes :=
    wrapSub64_of_le (by omega) hb
  refine ⟨⟨h.reserved_eq, ?_, ?_⟩, h.listed, ?_⟩
  · simp [quotaStep, h.not_wrapped, Nat.not_lt.mpr hb]
  · intro quota hq
    have hw := h.within quota hq
    simp only [quotaStep, hused]
    change s.manager.usedBytes - bytes + s.manager.reservedBytes ≤ quota
    omega
  · simp only [quotaStep, hused]
    change s.manager.usedBytes - bytes + s.manager.reservedBytes < 2 ^ 64
    omega

theorem books_step {op : QuotaOp} (h : Books s) (hg : QuotaGuard s op) :
    Books (quotaStep s op) := by
  cases op with
  | advance nanos => exact ⟨⟨h.reserved_eq, h.not_wrapped, h.within⟩, h.listed, h.fits⟩
  | reserve bytes systemNanos => exact books_reserve h hg
  | finalize index =>
    simp only [quotaStep]
    cases hi : s.held[index]? with
    | none => exact h
    | some r => exact books_finalize h index (hg r hi)
  | rollback index =>
    simp only [quotaStep]
    cases hi : s.held[index]? with
    | none => exact h
    | some r => exact books_rollback h index (hg r hi)
  | release bytes => exact books_release h hg

theorem books_new (tenantId : String) (quotaBytes : Option Nat) (clock : Nat) :
    Books (.new tenantId quotaBytes clock) := by
  refine ⟨⟨rfl, rfl, ?_⟩, le_refl _, Nat.two_pow_pos 64⟩
  intro quota _
  exact Nat.zero_le quota

/-- The quota accounting is right as long as no handle is settled after its reservation has been
collected as expired. -/
theorem accounted_of_guarded (tenantId : String) (quotaBytes : Option Nat) (clock : Nat)
    (ops : List QuotaOp) (hg : Guarded quotaStep QuotaGuard (.new tenantId quotaBytes clock) ops) :
    Always quotaStep Accounted (.new tenantId quotaBytes clock) ops :=
  always_of_guarded (fun _ _ h hop => books_step h hop) (fun _ h => h.toAccounted)
    (books_new tenantId quotaBytes clock) hg

theorem accounted_expired_reservation :
    Always quotaStep Accounted (.new "tenant" (some 1024) 0)
      [.reserve 512 0, .finalize 0, .reserve 512 1, .advance (2 * reservationTimeout),
        .reserve 100 2, .rollback 1, .release 512] := by
  apply accounted_of_guarded
  refine ⟨Or.inl ⟨1024, by decide, rfl⟩, ?_, Or.inl ⟨1024, by decide, rfl⟩, trivial,
    Or.inl ⟨1024, by decide, rfl⟩, ?_, ?_, trivial⟩
  · intro r hr
    cases hr
    decide
  · intro r hr
    cases hr
    decide
  · change 512 ≤ TenantKvQuotaManager.usedBytes _
    decide

/-- The reservation expires, the next `reserve` collects it, and finalizing the handle then
wraps the reserved bytes below zero. -/
theorem late_finalize_wraps :
    ¬ Always quotaStep Accounted (.new "tenant" (some 1024) 0)
      [.reserve 512 0, .advance (2 * reservationTimeout), .reserve 100 1, .finalize 0] := by
  intro h
  have hw := (h.initial (List.prefix_refl _)).not_wrapped
  revert hw
  decide

end AdapterOS.Kv
