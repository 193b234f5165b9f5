import AdapterOS.Core.Basic
import AdapterOS.Library.HashMap
import AdapterOS.Library.Run

/-! Requests that carry an idempotency key: the store of keys and the middleware around a handler.
A step is one operation of the store, or the start or the end of the handler. -/
namespace AdapterOS.Server

open Library

/-- Seconds since the epoch. -/
abbrev Timestamp := Int

def idempotencyTtl : Int := 24 * 60 * 60

def maxCachedBodySize : Nat := 1024 * 1024

structure CachedResponse where
  statusCode : Nat
  headers : List (String × String)
  body : List UInt8
  createdAt : Timestamp
  deriving DecidableEq

def CachedResponse.isExpired (r : CachedResponse) (now : Timestamp) : Bool :=
  idempotencyTtl ≤ now - r.createdAt

inductive IdempotencyStatus where
  | new
  | inProgress
  | completed
  deriving DecidableEq

structure CacheEntry where
  status : IdempotencyStatus
  response : Option CachedResponse
  deriving DecidableEq

/-- The locks are only ever taken for reading, so that waiting for one ends at once; what is left
of a lock is that there is one. -/
structure IdempotencyStore where
  cache : HashMap String CacheEntry
  locks : HashSet String

namespace IdempotencyStore

variable (s : IdempotencyStore) (key : String)

def new : IdempotencyStore := ⟨∅, ∅⟩

def check : IdempotencyStatus :=
  match s.cache.get? key with
  | some entry => entry.status
  | none => .new

def getResponse (now : Timestamp) : Option CachedResponse :=
  match s.cache.get? key with
  | none => none
  | some entry =>
    match entry.response with
    | none => none
    | some r => if r.isExpired now then none else some r

def markInProgress : IdempotencyStore × Bool :=
  match s.cache.get? key with
  | some _ => (⟨s.cache, (s.locks.insert key ()).erase key⟩, false)
  | none => (⟨s.cache.insert key ⟨.inProgress, none⟩, s.locks.insert key ()⟩, true)

def storeResponse (response : CachedResponse) : IdempotencyStore :=
  ⟨s.cache.insert key ⟨.completed, some response⟩, s.locks.erase key⟩

def remove : IdempotencyStore := ⟨s.cache.erase key, s.locks.erase key⟩

def hasLock : Bool := (s.locks.get? key).isSome

def keeps (now : Timestamp) (entry : CacheEntry) : Bool :=
  match entry.response with
  | some r => now - r.createdAt < idempotencyTtl
  | none => entry.status = .inProgress

def cleanupExpired (now : Timestamp) : IdempotencyStore × Nat :=
  let cache := s.cache.retain fun _ entry => keeps now entry
  (⟨cache, s.locks.retain fun key _ => (cache.get? key).isSome⟩,
    s.cache.keys.length - cache.keys.length)

end IdempotencyStore

/-- The bytes of a header. -/
abbrev HeaderValue := List UInt8

def headerText (v : HeaderValue) : Option String :=
  if v.all fun b => (32 ≤ b && b < 127) || b == 9 then
    some (String.ofList (v.map fun b => Char.ofNat b.toNat))
  else none

inductive Method where
  | get
  | head
  | options
  | trace
  | connect
  | post
  | put
  | patch
  | delete
  | extension (name : String)
  deriving DecidableEq

def Method.isMutating : Method → Bool
  | .post | .put | .patch | .delete => true
  | _ => false

structure Request where
  method : Method
  accept : Option HeaderValue
  idempotencyKey : Option HeaderValue

/-- A body that cannot be collected is `none`. -/
structure Response where
  status : Nat
  headers : List (String × HeaderValue)
  body : Option (List UInt8)

/-- How the middleware takes a request. -/
inductive Intake where
  -- the handler runs without idempotency
  | bypass
  | refuse (response : Response)
  | keyed (key : String)

def errorResponse (status : Nat) (code message : String) : Response :=
  ⟨status, [("content-type", utf8 "application/json")],
    some (utf8 ("\x7b\"code\":\"" ++ code ++ "\",\"error\":\"" ++ message ++ "\"\x7d"))⟩

def conflict : Response :=
  errorResponse 409 "IDEMPOTENCY_CONFLICT"
    "Request with this Idempotency-Key is already in progress"

def isEventStream (accept : Option HeaderValue) : Bool :=
  match accept.bind headerText with
  | some text => decide ("text/event-stream".toList <:+: text.toList)
  | none => false

def Request.intake (r : Request) : Intake :=
  if !r.method.isMutating then .bypass
  else if isEventStream r.accept then .bypass
  else
    match r.idempotencyKey with
    | none => .bypass
    | some value =>
      match headerText value with
      | none =>
        .refuse (errorResponse 400 "INVALID_IDEMPOTENCY_KEY" "Idempotency-Key must be valid UTF-8")
      | some text =>
        if text = "" then .bypass
        else if (utf8 text).length ≤ 256 then .keyed text
        else
          .refuse (errorResponse 400 "IDEMPOTENCY_KEY_TOO_LONG"
            "Idempotency-Key must be 256 characters or less")

/-- The headers of what was stored are texts of a response, and pass the checks again. -/
def buildResponseFromCache (cached : CachedResponse) : Response :=
  ⟨cached.statusCode,
    cached.headers.map (fun h => (h.1, utf8 h.2)) ++ [("x-idempotency-cached", utf8 "true")],
    some cached.body⟩

namespace Response

variable (r : Response)

def isSuccess : Bool := 200 ≤ r.status && r.status < 300

def isClientError : Bool := 400 ≤ r.status && r.status < 500

def isServerError : Bool := 500 ≤ r.status && r.status < 600

def toCached (body : List UInt8) (now : Timestamp) : CachedResponse :=
  ⟨r.status, r.headers.filterMap fun h => (headerText h.2).map (h.1, ·), body, now⟩

def processed (body : List UInt8) : Response :=
  ⟨r.status, r.headers.filter (fun h => h.1 ≠ "x-idempotency-cached") ++
    [("x-idempotency-cached", utf8 "false")], some body⟩

end Response

/-- Where a request stands: the operation it makes next. -/
inductive Pc where
  | idle
  | bypassing
  | checking (key : String)
  | found (key : String)
  | waiting (key : String)
  | rechecking (key : String)
  | marking (key : String)
  -- the handler, with whether the key was marked for this request
  | starting (key : String) (marked : Bool)
  | executing (key : String) (marked : Bool)
  | collecting (key : String) (marked : Bool) (response : Response)
  | storing (key : String) (marked : Bool) (cached : CachedResponse) (response : Response)
  | removing (key : String) (marked : Bool) (response : Response)
  | returned (response : Response)

namespace Pc

/-- The key of a request that is being processed. -/
def key? : Pc → Option String
  | .checking key | .found key | .waiting key | .rechecking key | .marking key | .starting key _
  | .executing key _ | .collecting key _ _ | .storing key _ _ _ | .removing key _ _ => some key
  | .idle | .bypassing | .returned _ => none

def executing? : Pc → Option String
  | .executing key _ => some key
  | _ => none

/-- From the start of the handler until the response is stored or the key removed: the key, and
whether it was marked for this request. -/
def holder? : Pc → Option (String × Bool)
  | .starting key marked | .executing key marked | .collecting key marked _
  | .storing key marked _ _ | .removing key marked _ => some (key, marked)
  | _ => none

def Ended : Pc → Prop
  | .idle | .returned _ => True
  | _ => False

end Pc

def afterHandler (key : String) (marked : Bool) (r : Response) : Pc :=
  if r.isSuccess || r.isClientError then .collecting key marked r
  else if r.isServerError then .removing key marked r
  else .returned r

/-- The next operation of a request; the handler ends by itself. -/
def IdempotencyStore.advance (s : IdempotencyStore) (now : Timestamp) :
    Pc → IdempotencyStore × Pc
  | .checking key =>
    match s.check key with
    | .completed => (s, .found key)
    | .inProgress => (s, .waiting key)
    | .new => (s, .marking key)
  | .found key =>
    match s.getResponse key now with
    | some cached => (s, .returned (buildResponseFromCache cached))
    -- expired: the handler runs without the key being marked
    | none => (s, .starting key false)
  | .waiting key => (s, if s.hasLock key then .rechecking key else .returned conflict)
  | .rechecking key =>
    match s.getResponse key now with
    | some cached => (s, .returned (buildResponseFromCache cached))
    | none => (s, .returned conflict)
  | .marking key =>
    match s.markInProgress key with
    | (s', true) => (s', .starting key true)
    | (s', false) => (s', .returned conflict)
  | .starting key marked => (s, .executing key marked)
  | .collecting key marked r =>
    match r.body with
    | none => (s, .removing key marked { r with body := some [] })
    | some body =>
      if body.length ≤ maxCachedBodySize then
        (s, .storing key marked (r.toCached body now) (r.processed body))
      else (s, .removing key marked (r.processed body))
  | .storing key _ cached r => (s.storeResponse key cached, .returned r)
  | .removing key _ r => (s.remove key, .returned r)
  | pc => (s, pc)

structure Middleware (n : Nat) where
  store : IdempotencyStore
  now : Timestamp
  pc : Fin n → Pc

inductive Action (n : Nat) where
  | request (t : Fin n) (r : Request)
  | advance (t : Fin n)
  -- the handler returns
  | finish (t : Fin n) (r : Response)
  | cleanupExpired
  | elapse (secs : Nat)

namespace Middleware

variable {n : Nat}

def new (n : Nat) (now : Timestamp) : Middleware n := ⟨.new, now, fun _ => .idle⟩

def goto (c : Middleware n) (t : Fin n) (next : IdempotencyStore × Pc) : Middleware n :=
  { c with store := next.1, pc := Function.update c.pc t next.2 }

def begin (r : Request) : Pc :=
  match r.intake with
  | .bypass => .bypassing
  | .refuse response => .returned response
  | .keyed key => .checking key

def step (c : Middleware n) : Action n → Middleware n
  | .request t r =>
    match c.pc t with
    | .idle | .returned _ => c.goto t (c.store, begin r)
    | _ => c
  | .advance t => c.goto t (c.store.advance c.now (c.pc t))
  | .finish t r =>
    match c.pc t with
    | .bypassing => c.goto t (c.store, .returned r)
    | .executing key marked => c.goto t (c.store, afterHandler key marked r)
    | _ => c
  | .cleanupExpired => { c with store := (c.store.cleanupExpired c.now).1 }
  | .elapse secs => { c with now := c.now + secs }

/-- What a step can do. -/
inductive Effect (c : Middleware n) : Action n → Middleware n → Prop
  | rest {a} : Effect c a c
  | move {a t s pc} : s.cache = c.store.cache → pc.holder? = (c.pc t).holder? →
      Effect c a (c.goto t (s, pc))
  | expired {t} (key) : c.pc t = .found key → c.store.getResponse key c.now = none →
      Effect c (.advance t) (c.goto t (c.store, .starting key false))
  | mark {t key locks} : (c.pc t).holder? = none → c.store.cache.get? key = none →
      Effect c (.advance t)
        (c.goto t (⟨c.store.cache.insert key ⟨.inProgress, none⟩, locks⟩, .starting key true))
  | finish {t key marked r} : c.pc t = .executing key marked →
      Effect c (.finish t r) (c.goto t (c.store, afterHandler key marked r))
  | store {t marked cached r} (key) : (c.pc t).holder? = some (key, marked) →
      Effect c (.advance t) (c.goto t (c.store.storeResponse key cached, .returned r))
  | remove {t marked r} (key) : (c.pc t).holder? = some (key, marked) →
      Effect c (.advance t) (c.goto t (c.store.remove key, .returned r))
  | cleanupExpired : Effect c .cleanupExpired { c with store := (c.store.cleanupExpired c.now).1 }
  | elapse {secs : Nat} : Effect c (.elapse secs) { c with now := c.now + secs }

end Middleware

section Lemmas

variable {n : Nat} {s : IdempotencyStore} {key k : String} {now : Timestamp} {entry : CacheEntry}
  {c : Middleware n} {t : Fin n}

namespace IdempotencyStore

theorem cache_storeResponse (s : IdempotencyStore) (key : String) (r : CachedResponse)
    (k : String) :
    (s.storeResponse key r).cache.get? k =
      if k = key then some ⟨.completed, some r⟩ else s.cache.get? k :=
  AList.get?_insert _ _ _ _

theorem cache_remove (s : IdempotencyStore) (key k : String) :
    (s.remove key).cache.get? k = if k = key then none else s.cache.get? k :=
  AList.get?_erase _ _ _

theorem cache_cleanupExpired (s : IdempotencyStore) (now : Timestamp) (k : String) :
    (s.cleanupExpired now).1.cache.get? k = (s.cache.get? k).filter (keeps now) :=
  AList.get?_retain _ _ _

theorem markInProgress_cases (s : IdempotencyStore) (key : String) :
    (∃ locks, s.markInProgress key = (⟨s.cache, locks⟩, false)) ∨
    s.cache.get? key = none ∧
      ∃ locks, s.markInProgress key = (⟨s.cache.insert key ⟨.inProgress, none⟩, locks⟩, true) := by
  unfold markInProgress
  cases hget : s.cache.get? key with
  | some entry => exact .inl ⟨_, rfl⟩
  | none => exact .inr ⟨rfl, _, rfl⟩

theorem check_eq_inProgress : s.check key = .inProgress ↔
      ∃ entry, s.cache.get? key = some entry ∧ entry.status = .inProgress := by
  unfold check
  cases hget : s.cache.get? key with
  | none => simp
  | some entry => simp

end IdempotencyStore

namespace Middleware

theorem step_advance (c : Middleware n) (t : Fin n) :
    c.step (.advance t) = c.goto t (c.store.advance c.now (c.pc t)) := rfl

@[simp] theorem store_goto (next : IdempotencyStore × Pc) : (c.goto t next).store = next.1 := rfl

@[simp] theorem now_goto (next : IdempotencyStore × Pc) : (c.goto t next).now = c.now := rfl

theorem pc_goto (u : Fin n) (next : IdempotencyStore × Pc) :
    (c.goto t next).pc u = if u = t then next.2 else c.pc u :=
  Function.update_apply c.pc t next.2 u

theorem effect_advance (c : Middleware n) (t : Fin n) :
    c.Effect (.advance t) (c.step (.advance t)) := by
  rw [step_advance]
  cases hpc : c.pc t with simp only [IdempotencyStore.advance]
  | found key =>
    split
    · exact .move rfl (by simp [hpc, Pc.holder?])
    · exact .expired key hpc ‹_›
  | marking key =>
    rcases c.store.markInProgress_cases key with ⟨locks, hmark⟩ | ⟨hnone, locks, hmark⟩ <;>
      simp only [hmark]
    · exact .move rfl (by simp [hpc, Pc.holder?])
    · exact .mark (by simp [hpc, Pc.holder?]) hnone
  | storing key marked cached r => exact .store key (by rw [hpc]; rfl)
  | removing key marked r => exact .remove key (by rw [hpc]; rfl)
  | _ => (repeat' split) <;> exact .move rfl (by simp [hpc, Pc.holder?])

theorem holder_begin (r : Request) : (begin r).holder? = none := by
  unfold begin
  split <;> rfl

theorem effect_step (c : Middleware n) (a : Action n) : c.Effect a (c.step a) := by
  cases a with
  | request t r =>
    simp only [step]
    split
    · next hpc => exact .move rfl (by rw [holder_begin, hpc]; rfl)
    · next hpc => exact .move rfl (by rw [holder_begin, hpc]; rfl)
    · exact .rest
  | advance t => exact c.effect_advance t
  | finish t r =>
    simp only [step]
    split
    · next hpc => exact .move rfl (by simp [hpc, Pc.holder?])
    · next hpc => exact .finish hpc
    · exact .rest
  | cleanupExpired => exact .cleanupExpired
  | elapse secs => exact .elapse

end Middleware

end Lemmas

end AdapterOS.Server
