import AdapterOS.Library.HashMap

/-! The adapter repository on a key-value backend. An adapter is kept under its id, and every index
is a family of keys with the name of the index, a value and the id of an adapter that has the
value. -/
namespace AdapterOS.Storage

open Library

inductive StorageError where
  | notFound (id : String)
  | serializationError (message : String)
  | conflictError (message : String)
  deriving DecidableEq

/-- The fields that keys and indexes are made of. -/
structure AdapterKv where
  id : String
  tenantId : String
  tier : String
  hashB3 : String
  adapterId : Option String
  active : Int
  currentState : String
  pinned : Int
  parentId : Option String
  lifecycleState : String
  contentHashB3 : Option String
  deriving DecidableEq

def adapterKey (id : String) : String := "adapter:" ++ id

namespace AdapterKv

variable (a : AdapterKv)

def keyId : String := a.adapterId.getD a.id

def primaryKey : String := adapterKey a.keyId

def legacyPrimaryKey : String := adapterKey a.id

def indexEntityIds : List String := if a.id ≠ a.keyId then [a.keyId, a.id] else [a.keyId]

end AdapterKv

section Backend

/-- An adapter as its bytes, or the byte under an index key. -/
inductive StoredValue where
  | adapter (a : AdapterKv)
  | one
  deriving DecidableEq

def StoredValue.deserialize : StoredValue → Except StorageError AdapterKv
  | .adapter a => .ok a
  | .one => .error (.serializationError "io error: unexpected end of file")

abbrev KvBackend := HashMap String StoredValue

variable (o : Iteration String)

def scanPrefix (text : String) (kv : KvBackend) : List String :=
  (o.visit kv.keys).filter fun key => text.toList.isPrefixOf key.toList

def indexKey (indexName indexValue entityId : String) : String :=
  "index:" ++ indexName ++ ":" ++ indexValue ++ ":" ++ entityId

def indexPrefix (indexName indexValue : String) : String :=
  "index:" ++ indexName ++ ":" ++ indexValue ++ ":"

variable (indexName indexValue entityId : String) (kv : KvBackend)

def addToIndex : KvBackend := kv.insert (indexKey indexName indexValue entityId) .one

def removeFromIndex : KvBackend := kv.erase (indexKey indexName indexValue entityId)

def entityOf (key : String) : Option String :=
  let parts := key.toList.splitOn ':'
  if 4 ≤ parts.length then some (String.ofList ([':'].intercalate (parts.drop 3))) else none

def queryIndex : List String :=
  (scanPrefix o (indexPrefix indexName indexValue) kv).filterMap entityOf

def updateIndex (oldValue : Option String) (newValue : String) : KvBackend :=
  match oldValue with
  | some old =>
    if old ≠ newValue then
      addToIndex indexName newValue entityId (removeFromIndex indexName old entityId kv)
    else addToIndex indexName newValue entityId kv
  | none => addToIndex indexName newValue entityId kv

def removeAllFromIndex : KvBackend :=
  kv.eraseAll ((scanPrefix o ("index:" ++ indexName) kv).filter fun key =>
    (":" ++ entityId).toList.isSuffixOf key.toList)

end Backend

section Indexes

/-- The indexes, in the order in which they are kept. -/
inductive AdapterIndex where
  | byTenant | byState | byTenantState | byTier | byHash | byContentHash | byAdapterId
  | byLifecycleState | byActive | byPinned | byParent
  deriving DecidableEq

namespace AdapterIndex

def all : List AdapterIndex :=
  [byTenant, byState, byTenantState, byTier, byHash, byContentHash, byAdapterId, byLifecycleState,
    byActive, byPinned, byParent]

def name : AdapterIndex → String
  | byTenant => "adapters_by_tenant"
  | byState => "adapters_by_state"
  | byTenantState => "adapters_by_tenant_state"
  | byTier => "adapters_by_tier"
  | byHash => "adapters_by_hash"
  | byContentHash => "adapters_by_content_hash"
  | byAdapterId => "adapters_by_adapter_id"
  | byLifecycleState => "adapters_by_lifecycle_state"
  | byActive => "adapters_by_active"
  | byPinned => "adapters_by_pinned"
  | byParent => "adapters_by_parent"

/-- The value under which an adapter is in an index. -/
def value : AdapterIndex → AdapterKv → Option String
  | byTenant, a => some a.tenantId
  | byState, a => some a.currentState
  | byTenantState, a => some (a.tenantId ++ ":" ++ a.currentState)
  | byTier, a => some a.tier
  | byHash, a => some a.hashB3
  | byContentHash, a => a.contentHashB3
  | byAdapterId, a => a.adapterId
  | byLifecycleState, a => some a.lifecycleState
  | byActive, a => some (toString a.active)
  | byPinned, a => some (toString a.pinned)
  | byParent, a => a.parentId

variable (n : AdapterIndex)

def addWhenNew (shouldAddNew : Bool) (entityId newValue : String) (kv : KvBackend) : KvBackend :=
  if shouldAddNew then addToIndex n.name newValue entityId kv else kv

/-- A value that an adapter need not have: without one, nothing is done. -/
def followOptional (shouldAddNew : Bool) (entityId : String) (adapter : AdapterKv)
    (old : Option AdapterKv) (kv : KvBackend) : KvBackend :=
  match n.value adapter, old with
  | none, _ => kv
  | some newValue, none => addWhenNew n shouldAddNew entityId newValue kv
  | some newValue, some old =>
    if shouldAddNew then addToIndex n.name newValue entityId kv
    else if n.value old ≠ some newValue then
      match n.value old with
      | some oldValue =>
        addToIndex n.name newValue entityId (removeFromIndex n.name oldValue old.keyId kv)
      | none => addToIndex n.name newValue entityId kv
    else kv

/-- The parent; without one, the entry of the old parent goes. -/
def followParent (entityId : String) (adapter : AdapterKv) (old : Option AdapterKv)
    (kv : KvBackend) : KvBackend :=
  let oldParent := old.bind AdapterKv.parentId
  let oldEntity := (old.map AdapterKv.keyId).getD adapter.keyId
  match adapter.parentId, oldParent with
  | some parentId, _ => updateIndex byParent.name entityId kv oldParent parentId
  | none, some oldParent => removeFromIndex byParent.name oldParent oldEntity kv
  | none, none => kv

/-- What `update_indexes` does for one index. -/
def maintain (shouldAddNew : Bool) (adapter : AdapterKv) (old : Option AdapterKv)
    (kv : KvBackend) (n : AdapterIndex) : KvBackend :=
  let entityId := adapter.keyId
  match n with
  | byTenant => addWhenNew byTenant shouldAddNew entityId adapter.tenantId kv
  | byState =>
    updateIndex byState.name entityId kv (old.map AdapterKv.currentState) adapter.currentState
  | byTenantState =>
    updateIndex byTenantState.name entityId kv
      (old.map fun a => a.tenantId ++ ":" ++ a.currentState)
      (adapter.tenantId ++ ":" ++ adapter.currentState)
  | byTier => updateIndex byTier.name entityId kv (old.map AdapterKv.tier) adapter.tier
  | byHash => addWhenNew byHash shouldAddNew entityId adapter.hashB3 kv
  | byContentHash => followOptional byContentHash shouldAddNew entityId adapter old kv
  | byAdapterId => followOptional byAdapterId shouldAddNew entityId adapter old kv
  | byLifecycleState =>
    updateIndex byLifecycleState.name entityId kv (old.map AdapterKv.lifecycleState)
      adapter.lifecycleState
  | byActive =>
    updateIndex byActive.name entityId kv (old.map fun a => toString a.active)
      (toString adapter.active)
  | byPinned =>
    updateIndex byPinned.name entityId kv (old.map fun a => toString a.pinned)
      (toString adapter.pinned)
  | byParent => followParent entityId adapter old kv

def dropEntry (adapter : AdapterKv) (entityId : String) (kv : KvBackend) (n : AdapterIndex) :
    KvBackend :=
  match n.value adapter with
  | some v => removeFromIndex n.name v entityId kv
  | none => kv

end AdapterIndex

def removeFromIndexes (adapter : AdapterKv) (kv : KvBackend) : KvBackend :=
  adapter.indexEntityIds.foldl
    (fun kv entityId => AdapterIndex.all.foldl (AdapterIndex.dropEntry adapter entityId) kv) kv

def updateIndexes (adapter : AdapterKv) (old : Option AdapterKv) (kv : KvBackend) : KvBackend :=
  let idChanged := old.any fun a => a.keyId ≠ adapter.keyId
  let kv := match old with
    | some old => if idChanged then removeFromIndexes old kv else kv
    | none => kv
  AdapterIndex.all.foldl (AdapterIndex.maintain (old.isNone || idChanged) adapter old) kv

end Indexes

namespace AdapterRepository

section Operations

variable (o : Iteration String)

def create (adapter : AdapterKv) (kv : KvBackend) : KvBackend × Except StorageError String :=
  let key := adapter.primaryKey
  let legacyKey := adapter.legacyPrimaryKey
  if key ∈ kv ∨ (legacyKey ≠ key ∧ legacyKey ∈ kv) then
    (kv, .error (.conflictError ("Adapter already exists: " ++ adapter.id)))
  else (updateIndexes adapter none (kv.insert key (.adapter adapter)), .ok adapter.id)

/-- The key of the external id, and the one that the index leads to. -/
def candidateKeys (adapterId : String) (kv : KvBackend) : List String :=
  match (queryIndex o AdapterIndex.byAdapterId.name adapterId kv).head? with
  | some first =>
    if first ≠ adapterId then [adapterKey adapterId, adapterKey first] else [adapterKey adapterId]
  | none => [adapterKey adapterId]

def get (tenantId adapterId : String) (kv : KvBackend) :
    Except StorageError (Option AdapterKv) :=
  match (candidateKeys o adapterId kv).findSome? kv.get? with
  | none => .ok none
  | some value => do
    let adapter ← value.deserialize
    return if adapter.tenantId ≠ tenantId then none else some adapter

/-- What an update finds, and under which key. -/
def storedUnder (adapter : AdapterKv) (kv : KvBackend) : Option (String × StoredValue) :=
  match kv.get? adapter.primaryKey with
  | some value => some (adapter.primaryKey, value)
  | none =>
    if adapter.legacyPrimaryKey ≠ adapter.primaryKey then
      (kv.get? adapter.legacyPrimaryKey).map fun value => (adapter.legacyPrimaryKey, value)
    else none

def update (adapter : AdapterKv) (kv : KvBackend) : KvBackend × Except StorageError Unit :=
  match storedUnder adapter kv with
  | none => (kv, .error (.notFound adapter.id))
  | some (storedKey, value) =>
    match value.deserialize with
    | .error e => (kv, .error e)
    | .ok old =>
      let key := adapter.primaryKey
      let kv := kv.insert key (.adapter adapter)
      let kv := if storedKey ≠ key then kv.erase storedKey else kv
      (updateIndexes adapter (some old) kv, .ok ())

def delete (tenantId adapterId : String) (kv : KvBackend) :
    KvBackend × Except StorageError Bool :=
  match get o tenantId adapterId kv with
  | .error e => (kv, .error e)
  | .ok none => (kv, .ok false)
  | .ok (some adapter) =>
    let key := adapter.primaryKey
    let legacyKey := adapter.legacyPrimaryKey
    let deleted := decide (key ∈ kv)
    let kv := kv.erase key
    let deleted := deleted || (decide (legacyKey ≠ key) && decide (legacyKey ∈ kv))
    let kv := if legacyKey ≠ key then kv.erase legacyKey else kv
    (if deleted then removeFromIndexes adapter kv else kv, .ok deleted)

end Operations

section Queries

variable (o : Iteration String)

def stored? (kv : KvBackend) (key : String) : Option AdapterKv :=
  match kv.get? key with
  | some (.adapter a) => some a
  | _ => none

def loadAdapters (adapterIds : List String) (kv : KvBackend) : List AdapterKv :=
  adapterIds.filterMap fun id => stored? kv (adapterKey id)

def listByTenant (tenantId : String) (kv : KvBackend) : List AdapterKv :=
  loadAdapters (queryIndex o AdapterIndex.byTenant.name tenantId kv) kv

def listByState (tenantId state : String) (kv : KvBackend) : List AdapterKv :=
  loadAdapters
    (queryIndex o AdapterIndex.byTenantState.name (tenantId ++ ":" ++ state) kv) kv

def listByTier (tenantId tier : String) (kv : KvBackend) : List AdapterKv :=
  (loadAdapters (queryIndex o AdapterIndex.byTier.name tier kv) kv).filter
    fun a => a.tenantId = tenantId

def findByHash (hash : String) (kv : KvBackend) : Option AdapterKv :=
  (loadAdapters (queryIndex o AdapterIndex.byHash.name hash kv) kv).head?

def findByContentHash (contentHash : String) (kv : KvBackend) : Option AdapterKv :=
  (loadAdapters (queryIndex o AdapterIndex.byContentHash.name contentHash kv) kv).head?

def allStored (kv : KvBackend) : List AdapterKv := (o.visit kv.keys).filterMap (stored? kv)

end Queries

inductive Call where
  | create (adapter : AdapterKv)
  | update (adapter : AdapterKv)
  | delete (tenantId adapterId : String)
  deriving DecidableEq

def step (o : Iteration String) (kv : KvBackend) : Call → KvBackend
  | .create adapter => (create adapter kv).1
  | .update adapter => (update adapter kv).1
  | .delete tenantId adapterId => (delete o tenantId adapterId kv).1

end AdapterRepository

end AdapterOS.Storage
