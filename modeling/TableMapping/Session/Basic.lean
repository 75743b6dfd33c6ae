import TableMapping.Config
import TableMapping.Registry
import TableMapping.Session.Engine
import TableMapping.Session.VersionRecord
import TableMapping.Sql.Create
import TableMapping.Sql.Write

/-!
# Sessions

A session works for the models of an application over one engine.  Before it first touches a
model it prepares it: the table and its indexes are created, where model and configuration
ask for it, and the declared version is compared with the stored one.  A preparation that
fails is repeated at the next use; one that succeeds is never repeated.

The version records are a model of the session itself.  Their own version is never checked,
so a preparation contains at most one other preparation, that of the version records.

`SessionState.trace` holds all that happened, in order; the log of a session is what `Event.logLine?`
sees of it.
-/

namespace TableMapping

/-- A model that a session knows: the version records, or a model of the application. -/
inductive ModelKey (κ : Type) where
  | versions
  | model (k : κ)
  deriving DecidableEq

/-- The objects of the models that a session knows. -/
abbrev ModelKey.Object {κ : Type} (Obj : Models κ) : Models (ModelKey κ)
  | .versions => VersionRecord
  | .model k => Obj k

/-- The purpose of a statement. -/
inductive StatementKind where
  | createTable
  | createIndex
  | insert
  | update
  | delete
  | merge
  | select
  | query
  deriving DecidableEq, Repr

/-- The purpose of a statement in the log. -/
def StatementKind.label : StatementKind → String
  | createTable => "CREATE TABLE"
  | createIndex => "CREATE INDEX"
  | insert => "INSERT"
  | update => "UPDATE"
  | delete => "DELETE"
  | merge => "MERGE"
  | select => "SELECT"
  | query => "QUERY"

/-- What a statement is sent for. -/
inductive Purpose (κ : Type) where
  /-- An operation of the application on the objects of a model. -/
  | operation (model : ModelKey κ)
  /-- The creation of a model's table and its indexes. -/
  | creation (model : ModelKey κ)
  /-- The version check of a model, which looks up and writes its version record. -/
  | versionCheck (model : ModelKey κ)
  /-- Nothing the session knows of: the application wrote the statement itself. -/
  | application
  deriving DecidableEq

/-- Something that happened in a session. -/
inductive Event (κ : Type) where
  | opened (product : String) (dialect : Dialect)
  | warned (n : Notice)
  /-- A statement was sent. -/
  | sent (purpose : Purpose κ) (kind : StatementKind) (s : Statement)
  /-- A table is about to be upgraded. -/
  | upgrading (model : ModelKey κ) (u : Upgrade)
  /-- The upgrader answered. -/
  | upgraded (model : ModelKey κ) (u : Upgrade) (answer : Except MappingError Bool)
  /-- A model is prepared. -/
  | prepared (model : ModelKey κ)

/-- The line that an event leaves in the log. -/
def Event.logLine? {κ : Type} : Event κ → Option LogLine
  | opened product dialect => some (.opened product dialect.name)
  | warned n => some (.warning n)
  | sent _ kind s => some (.statement kind.label s.sql)
  | upgrading _ u => some (.upgrading u.table u.fromVersion u.toVersion)
  | upgraded .. => none
  | prepared _ => none

/-- What a session works with. -/
structure Environment (σ : Type) {κ : Type} (Obj : Models κ) where
  engine : Engine σ
  schema : (k : κ) → ModelSchema (Obj k)
  config : MappingConfig
  upgrader : Option (Upgrader σ)

namespace Environment

variable {σ κ : Type} {Obj : Models κ}

/-- The product that a session assumes. -/
def product (env : Environment σ Obj) : String :=
  env.config.dialect.getD env.engine.product

/-- The dialect that a session writes. -/
def dialect (env : Environment σ Obj) : Dialect :=
  Dialect.detect env.product

/-- The schema of a model that a session knows. -/
def schemaOf (env : Environment σ Obj) : (k : ModelKey κ) → ModelSchema (ModelKey.Object Obj k)
  | .versions => VersionRecord.schema
  | .model k => env.schema k

end Environment

/-- The state of a session. -/
structure SessionState (σ : Type) {κ : Type} (Obj : Models κ) where
  engine : σ
  ledger : Ledger
  registry : Registry (ModelKey.Object Obj)
  /-- The models that are prepared. -/
  prepared : List (ModelKey κ)
  /-- What happened, in order. -/
  trace : List (Event κ)

/-- A computation in a session. -/
abbrev Session (σ : Type) {κ : Type} (Obj : Models κ) :=
  ExceptT MappingError (StateM (SessionState σ Obj))

namespace SessionState

variable {σ κ : Type} {Obj : Models κ}

/-- The state of a session that has just been opened over a registry, which it may share with
earlier sessions. -/
def openedOver (env : Environment σ Obj) (engine : σ) (ledger : Ledger)
    (registry : Registry (ModelKey.Object Obj)) : SessionState σ Obj :=
  ⟨engine, ledger, registry, [], [.opened env.product env.dialect]⟩

/-- The state of a session that has just been opened over a registry of its own. -/
def opened (env : Environment σ Obj) (engine : σ) : SessionState σ Obj :=
  openedOver env engine .start .empty

/-- The log of a session. -/
def log (s : SessionState σ Obj) : List LogLine :=
  s.trace.filterMap Event.logLine?

end SessionState

namespace Session

variable {σ κ : Type} {Obj : Models κ}

/-! ## Single steps -/

/-- Note an event. -/
def note (e : Event κ) : Session σ Obj Unit :=
  modify fun s => { s with trace := s.trace ++ [e] }

/-- Note warnings. -/
def warn (notices : List Notice) : Session σ Obj Unit :=
  modify fun s => { s with trace := s.trace ++ notices.map .warned }

/-- Run a computation of the mapping. -/
def mapping {α : Type} (x : Mapping α) : Session σ Obj α :=
  ExceptT.mk fun s =>
    let (answer, ledger) := x.run s.ledger
    (answer, { s with ledger := ledger })

/-- Ask the engine. -/
def ask {α : Type} (request : σ → Except MappingError α × σ) : Session σ Obj α :=
  ExceptT.mk fun s =>
    let (answer, engine) := request s.engine
    (answer, { s with engine := engine })

/-- Classify a failure by the table of the statement. -/
def classified {α : Type} (table : String) (x : Session σ Obj α) : Session σ Obj α :=
  ExceptT.mk fun s =>
    match x.run s with
    | (.ok a, s) => (.ok a, s)
    | (.error e, s) => (.error (e.classify table), s)

/-- Send a statement to the engine. -/
def send {α : Type} (purpose : Purpose κ) (kind : StatementKind) (table : String)
    (statement : Statement) (request : Statement → σ → Except MappingError α × σ) :
    Session σ Obj α := do
  note (.sent purpose kind statement)
  classified table (ask (request statement))

/-! ## Preparation -/

variable [DecidableEq κ] (env : Environment σ Obj)

/-- The definition of a model. -/
def definition (k : ModelKey κ) : Session σ Obj (TableDefinition (ModelKey.Object Obj k)) := do
  let s ← get
  let (stored, registry) ← mapping (s.registry.definition env.schemaOf k)
  modify fun s => { s with registry := registry }
  return stored.definition

/-- Send a statement that changes rows or tables. -/
def execute (purpose : Purpose κ) (kind : StatementKind) (table : String) (statement : Statement) :
    Session σ Obj UInt64 :=
  send purpose kind table statement env.engine.execute

/-- Send a query. -/
def runQuery (purpose : Purpose κ) (table : String) (statement : Statement) :
    Session σ Obj (List Row) :=
  send purpose .select table statement env.engine.query

/-- Create an index; one that exists already is as good as created. -/
def createIndex (k : ModelKey κ) (table : String) (statement : Statement) : Session σ Obj Unit :=
  tryCatch (do discard (execute env (.creation k) .createIndex table statement)) fun e =>
    match e with
    | .execution message => if isAlreadyExistsMessage message then pure () else throw e
    | e => throw e

/-- Create indexes in order. -/
def createIndexes (k : ModelKey κ) (table : String) : List Statement → Session σ Obj Unit
  | [] => pure ()
  | s :: rest => do
    createIndex env k table s
    createIndexes k table rest

/-- Create the table of a model and its indexes. -/
def create (k : ModelKey κ) (d : TableDefinition (ModelKey.Object Obj k)) : Session σ Obj Unit := do
  warn (d.createNotices env.dialect)
  discard (execute env (.creation k) .createTable d.tableName (d.createTableStatement env.dialect))
  createIndexes env k d.tableName (d.indexes.map fun i => d.createIndexStatement i env.dialect)

/-- Create the table of a model and its indexes where model and configuration ask for it. -/
def createIfAsked (k : ModelKey κ) (d : TableDefinition (ModelKey.Object Obj k)) :
    Session σ Obj Unit :=
  if d.createIfRequired && env.config.createTables then create env k d else pure ()

/-- Note that a model is prepared. -/
def markPrepared (k : ModelKey κ) : Session σ Obj Unit :=
  modify fun s => { s with prepared := k :: s.prepared, trace := s.trace ++ [.prepared k] }

/-- Prepare a model, with the given check of its version. -/
def prepareWith (check : (k : ModelKey κ) → TableDefinition (ModelKey.Object Obj k) → Session σ Obj Unit)
    (k : ModelKey κ) : Session σ Obj (TableDefinition (ModelKey.Object Obj k)) := do
  let d ← definition env k
  if k ∈ (← get).prepared then
    return d
  createIfAsked env k d
  check k d
  markPrepared k
  return d

/-- Read rows into objects, one after the other. -/
def readRows {M : Type} (view : SelectView M) : List Row → Mapping (List M)
  | [] => pure []
  | row :: rows => do
    let view ← Mapping.ofExcept (view.readRow row)
    let m ← view.object
    let ms ← readRows view rows
    return m :: ms

/-- Insert an object of a prepared model. -/
def insertPrepared {M : Type} (purpose : Purpose κ) (d : TableDefinition M) (m : M) :
    Session σ Obj UInt64 := do
  let statement ← mapping (d.insertStatement m env.dialect)
  execute env purpose .insert d.tableName statement

/-- Update an object of a prepared model. -/
def updatePrepared {M : Type} (purpose : Purpose κ) (d : TableDefinition M) (m : M) :
    Session σ Obj UInt64 := do
  let statement ← mapping (d.updateStatement m env.dialect)
  execute env purpose .update d.tableName statement

/-- Select the objects of a prepared model. -/
def selectPrepared {M : Type} (purpose : Purpose κ) (d : TableDefinition M) (q : Query M) :
    Session σ Obj (List M) := do
  let rows ← runQuery env purpose d.tableName (q.toSelect env.dialect)
  mapping (readRows q.view rows)

/-- Prepare the model of the version records. -/
def prepareVersions : Session σ Obj (TableDefinition VersionRecord) :=
  prepareWith env (fun _ _ => pure ()) .versions

/-- The query for the version record of a table. -/
def versionQuery (versions : TableDefinition VersionRecord) (schema table : String) :
    Mapping (Query VersionRecord) := do
  let a ← Alias.materialize versions
  let c ← Mapping.ofExcept
    ((Query.ofAlias a).condition none (a.handle VersionRecord.schemaNameField))
  let q ← c.compareValue .equal (.text schema)
  let c ← Mapping.ofExcept (q.condition (some .and) (a.handle VersionRecord.tableNameField))
  c.compareValue .equal (.text table)

/-- Hand a table to the upgrader, which answers whether it succeeded. -/
def askUpgrader (upgrader : Upgrader σ) (u : Upgrade) : Session σ Obj (Except MappingError Bool) :=
  ExceptT.mk fun s =>
    let (answer, engine) := upgrader u s.engine
    (.ok answer, { s with engine := engine })

/-- Have a table upgraded. -/
def upgrade (upgrader : Upgrader σ) (k : ModelKey κ) (u : Upgrade) : Session σ Obj Unit := do
  note (.upgrading k u)
  let answer ← askUpgrader upgrader u
  note (.upgraded k u answer)
  match answer with
  | .error e => throw e
  | .ok true => return
  | .ok false => throw (.upgradeFailed u.table u.fromVersion u.toVersion)

/-- The version record of a table, when there is one. -/
def storedVersion (k : ModelKey κ) (d : TableDefinition (ModelKey.Object Obj k))
    (versions : TableDefinition VersionRecord) : Session σ Obj (Option VersionRecord) := do
  let lookup ← mapping (versionQuery versions (d.schemaName.getD "") d.tableName)
  return (← selectPrepared env (.versionCheck k) versions lookup).head?

/-- Compare the declared version of a model with its record.  Without a record one is written;
a record that is behind is brought forward by the upgrader; a record that is ahead is left
alone with a warning. -/
def settleVersion (upgrader : Upgrader σ) (k : ModelKey κ)
    (d : TableDefinition (ModelKey.Object Obj k)) (versions : TableDefinition VersionRecord) :
    Option VersionRecord → Session σ Obj Unit
  | none =>
    discard (insertPrepared env (.versionCheck k) versions
      ⟨d.schemaName.getD "", d.tableName, d.version⟩)
  | some record =>
    if record.version < d.version then do
      upgrade upgrader k ⟨env.dialect, d.schemaName, d.tableName, record.version, d.version⟩
      discard (updatePrepared env (.versionCheck k) versions { record with version := d.version })
    else if d.version < record.version then
      warn [.storedVersionNewer record.version d.tableName d.version]
    else pure ()

/-- Compare the declared version of a model with the stored one, when there is an upgrader, the
model has a version and the configuration asks for it. -/
def checkVersion (k : ModelKey κ) (d : TableDefinition (ModelKey.Object Obj k)) : Session σ Obj Unit :=
  match env.upgrader with
  | none => pure ()
  | some upgrader =>
    if d.version ≤ 0 || !env.config.checkVersions then pure ()
    else do
      let versions ← prepareVersions env
      let stored ← storedVersion env k d versions
      settleVersion env upgrader k d versions stored

/-- The version check of a model.  The version records have no version of their own. -/
def versionCheck : (k : ModelKey κ) → TableDefinition (ModelKey.Object Obj k) → Session σ Obj Unit
  | .versions, _ => pure ()
  | .model k, d => checkVersion env (.model k) d

/-- Prepare a model: create its table, then check its version. -/
def prepare (k : ModelKey κ) : Session σ Obj (TableDefinition (ModelKey.Object Obj k)) :=
  prepareWith env (versionCheck env) k

/-! ## Operations -/

/-- Prepare a model and do nothing else. -/
def createTable (k : ModelKey κ) : Session σ Obj Unit := do
  discard (prepare env k)

/-- A fresh alias of a model. -/
def newAlias (k : ModelKey κ) : Session σ Obj (Alias (ModelKey.Object Obj k)) := do
  let d ← prepare env k
  mapping (Alias.materialize d)

/-- Insert an object; the answer is the number of rows. -/
def insert (k : ModelKey κ) (m : ModelKey.Object Obj k) : Session σ Obj UInt64 := do
  let d ← prepare env k
  insertPrepared env (.operation k) d m

/-- The clause that makes an engine tell the generated key, where it needs one. -/
def returningClause (k : ModelKey κ) (d : TableDefinition (ModelKey.Object Obj k)) : List Fragment :=
  match env.dialect, d.fields.find? fun f => f.isAutoIncrement with
  | .postgres, some f => [.text " RETURNING ", .column f.columnName]
  | _, _ => []

/-- Insert an object; the answer is the generated key. -/
def insertForKey (k : ModelKey κ) (m : ModelKey.Object Obj k) : Session σ Obj Int64 := do
  let d ← prepare env k
  let fragments ← mapping (d.insertFragments m)
  let statement := env.dialect.statement (fragments ++ returningClause env k d)
  send (.operation k) .insert d.tableName statement env.engine.insert

/-- Insert objects in order, up to the first that fails; the answer is the number of rows. -/
def insertAll (k : ModelKey κ) : List (ModelKey.Object Obj k) → Session σ Obj UInt64
  | [] => pure 0
  | m :: ms => do
    let n ← insert env k m
    let rest ← insertAll k ms
    return n + rest

/-- Update the row with the key of an object. -/
def update (k : ModelKey κ) (m : ModelKey.Object Obj k) : Session σ Obj UInt64 := do
  let d ← prepare env k
  updatePrepared env (.operation k) d m

/-- Delete the row with the key of an object. -/
def delete (k : ModelKey κ) (m : ModelKey.Object Obj k) : Session σ Obj UInt64 := do
  let d ← prepare env k
  let statement ← mapping (d.deleteStatement m env.dialect)
  execute env (.operation k) .delete d.tableName statement

/-- The number at the start of the first row. -/
def firstInteger? (rows : List Row) : Option Int64 :=
  rows.head?.bind fun row => row.head?.bind Value.integer?

/-- Insert an object, or update the row that has its key. -/
def merge (k : ModelKey κ) (m : ModelKey.Object Obj k) : Session σ Obj Unit := do
  let d ← prepare env k
  match ← mapping (d.mergePlan m env.dialect) with
  | .native statement => discard (execute env (.operation k) .merge d.tableName statement)
  | .emulated probe update insert =>
    let rows ← runQuery env (.operation k) d.tableName probe
    if 0 < (firstInteger? rows).getD 0 then
      discard (execute env (.operation k) .update d.tableName update)
    else
      discard (execute env (.operation k) .insert d.tableName insert)

/-- The objects of a query. -/
def select (k : ModelKey κ) (q : Query (ModelKey.Object Obj k)) :
    Session σ Obj (List (ModelKey.Object Obj k)) := do
  let d ← prepare env k
  selectPrepared env (.operation k) d q

/-- The first object of a query. -/
def selectFirst (k : ModelKey κ) (q : Query (ModelKey.Object Obj k)) :
    Session σ Obj (Option (ModelKey.Object Obj k)) := do
  return (← select env k (q.withLimit 1)).head?

/-- The number of rows of a query. -/
def selectCount (k : ModelKey κ) (q : Query (ModelKey.Object Obj k)) : Session σ Obj Int64 := do
  let d ← prepare env k
  let rows ← runQuery env (.operation k) d.tableName (q.toCount env.dialect)
  match firstInteger? rows with
  | some n => return n
  | none => throw (.conversion "COUNT(*)" .noCount)

/-- Run a statement that the application wrote. -/
def executeQuery (statement : Statement) : Session σ Obj (List Row) :=
  send .application .query "" statement env.engine.query

end Session
end TableMapping
