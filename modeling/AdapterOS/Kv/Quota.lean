import AdapterOS.Core.Basic
import AdapterOS.Library.Counter

/-! The per-tenant quota of the KV cache: reservations that expire and are collected lazily. -/
namespace AdapterOS.Kv

open Library

def reservationTimeout : Nat := 300 * 10 ^ 9

structure KvReservation where
  id : String
  sizeBytes : Nat
  createdAt : Nat
  expiresAt : Nat
  deriving DecidableEq, Repr

def KvReservation.new (id : String) (sizeBytes now : Nat) : KvReservation :=
  ⟨id, sizeBytes, now, now + reservationTimeout⟩

def KvReservation.isExpired (r : KvReservation) (now : Nat) : Bool := now > r.expiresAt

structure TenantKvQuotaManager where
  tenantId : String
  quotaBytes : Option Nat
  usedBytes : Nat
  reservedBytes : Nat
  reservations : List KvReservation

namespace TenantKvQuotaManager

def new (tenantId : String) (quotaBytes : Option Nat) : TenantKvQuotaManager :=
  ⟨tenantId, quotaBytes, 0, 0, []⟩

def exceededError (m : TenantKvQuotaManager) (needed quota : Nat) : AosError :=
  let tenant := m.tenantId
  let used := m.usedBytes
  let reserved := m.reservedBytes
  .memoryPressure s!"KV quota exceeded for tenant {tenant}: need {needed} bytes, quota {quota} bytes (used: {used}, reserved: {reserved})"

def totalNeeded (m : TenantKvQuotaManager) (bytes : Nat) : Nat :=
  saturatingAdd64 (saturatingAdd64 m.usedBytes m.reservedBytes) bytes

def checkQuota (m : TenantKvQuotaManager) (bytes : Nat) : Except AosError Unit :=
  match m.quotaBytes with
  | none => .ok ()
  | some quota =>
    if m.totalNeeded bytes > quota then .error (m.exceededError (m.totalNeeded bytes) quota)
    else .ok ()

def expired (m : TenantKvQuotaManager) (now : Nat) : List KvReservation :=
  m.reservations.filter (·.isExpired now)

def sumBytes (rs : List KvReservation) : Nat :=
  rs.foldl (fun sum r => wrap64 (sum + r.sizeBytes)) 0

def cleanupExpired (m : TenantKvQuotaManager) (now : Nat) : TenantKvQuotaManager :=
  { m with reservations := m.reservations.filter (fun r => ¬ r.isExpired now)
           reservedBytes := wrapSub64 m.reservedBytes (sumBytes (m.expired now)) }

def reservationId (m : TenantKvQuotaManager) (systemNanos : Nat) : String :=
  let tenant := m.tenantId
  s!"kvres_{tenant}_{systemNanos}"

def reserve (m : TenantKvQuotaManager) (bytes now systemNanos : Nat) :
    Except AosError KvReservation × TenantKvQuotaManager :=
  let m' := m.cleanupExpired now
  match m'.checkQuota bytes with
  | .error e => (.error e, m')
  | .ok _ =>
    let r := KvReservation.new (m'.reservationId systemNanos) bytes now
    (.ok r, { m' with reservedBytes := wrap64 (m'.reservedBytes + bytes)
                      reservations := m'.reservations ++ [r] })

theorem reserve_error {m : TenantKvQuotaManager} {bytes now systemNanos : Nat} {e : AosError}
    (h : (m.cleanupExpired now).checkQuota bytes = .error e) :
    m.reserve bytes now systemNanos = (.error e, m.cleanupExpired now) := by
  simp only [reserve, h]

theorem reserve_ok {m m' : TenantKvQuotaManager} {bytes now systemNanos : Nat}
    (hm : m.cleanupExpired now = m') (h : m'.checkQuota bytes = .ok ()) :
    m.reserve bytes now systemNanos = (.ok (.new (m'.reservationId systemNanos) bytes now),
        { m' with
          reservedBytes := wrap64 (m'.reservedBytes + bytes)
          reservations :=
            m'.reservations ++ [.new (m'.reservationId systemNanos) bytes now] }) := by
  simp only [reserve, hm, h]

def unlist (m : TenantKvQuotaManager) (r : KvReservation) : TenantKvQuotaManager :=
  { m with reservations := m.reservations.filter (·.id ≠ r.id) }

def finalize (m : TenantKvQuotaManager) (r : KvReservation) : TenantKvQuotaManager :=
  { m.unlist r with reservedBytes := wrapSub64 m.reservedBytes r.sizeBytes
                    usedBytes := wrap64 (m.usedBytes + r.sizeBytes) }

def rollback (m : TenantKvQuotaManager) (r : KvReservation) : TenantKvQuotaManager :=
  { m.unlist r with reservedBytes := wrapSub64 m.reservedBytes r.sizeBytes }

def release (m : TenantKvQuotaManager) (bytes : Nat) : TenantKvQuotaManager :=
  { m with usedBytes := wrapSub64 m.usedBytes bytes }

end TenantKvQuotaManager

end AdapterOS.Kv
