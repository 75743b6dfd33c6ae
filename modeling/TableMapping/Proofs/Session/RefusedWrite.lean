import TableMapping.Proofs.Session.Merge
import TableMapping.Proofs.Sql.Conversion

/-!
# A refused write sends nothing

Whatever a write may refuse, it refuses before its first statement: a definition without primary
key, or a field that cannot be converted.  An emulated merge, too, makes its three statements before
it asks whether the key is taken.

* `Write`: the operations that write one object, and `TableDefinition.Refusal`, why one of them is
  refused.
* `TableDefinition.refusal_iff`: a write is refused exactly when what it makes first cannot be made.
* `run_write_of_made_error`: then it leaves engine and trace as the preparation left them.
* `begins_write_of_made_ok`: any other write sends a statement.
* `run_insertAll_append_error`, `trail_insertAll`: of a list of objects, those before the first that
  is refused have been sent.
* `refused_write_sends_nothing`: all of this in any session.
-/

namespace TableMapping

/-- The operations that write one object. -/
inductive Write where
  | insert
  | insertForKey
  | update
  | delete
  | merge
  deriving DecidableEq

namespace Write

variable {κ : Type} {Obj : Models κ}

/-- The operation on an object of a model. -/
def operation (k : ModelKey κ) (m : ModelKey.Object Obj k) : Write → Operation Obj
  | insert => .insert k m
  | insertForKey => .insertForKey k m
  | update => .update k m
  | delete => .delete k m
  | merge => .merge k m

/-- The name under which a write refuses a definition without primary key, if it goes by the key. -/
def byKey? : Write → Option String
  | insert => none
  | insertForKey => none
  | update => some "update"
  | delete => some "delete"
  | merge => some "merge"

end Write

namespace TableDefinition

open Runs

variable {M : Type} {d : TableDefinition M} {dialect : Dialect} {m : M} {l : Ledger} {w : Write}
  {e : MappingError}

/-- The conversions of a write, in their order. -/
def convertedFields (d : TableDefinition M) (dialect : Dialect) : Write → List (MappedField M)
  | .insert => d.fields
  | .insertForKey => d.fields
  | .update => d.updatedFields ++ d.keyFields
  | .delete => d.keyFields
  | .merge => d.mergedFields dialect

/-- What a write makes before it sends anything. -/
def made (d : TableDefinition M) (dialect : Dialect) (m : M) : Write → Mapping Unit
  | .insert => discard (d.insertStatement m dialect)
  | .insertForKey => discard (d.insertFragments m)
  | .update => discard (d.updateStatement m dialect)
  | .delete => discard (d.deleteStatement m dialect)
  | .merge => discard (d.mergePlan m dialect)

theorem converts_made {s : ModelSchema M} {build : Nat} (hd : s.define build = .ok d)
    (hkeyed : w.byKey?.isSome → d.hasPrimaryKey = true) :
    Converts m (d.convertedFields dialect w) (d.made dialect m w) := by
  cases w with
  | insert => exact (converts_insertStatement d m dialect).discard
  | insertForKey => exact (converts_insertFragments d m).discard
  | update => exact (converts_updateStatement hd (hkeyed rfl)).discard
  | delete => exact (converts_deleteStatement hd (hkeyed rfl)).discard
  | merge => exact (converts_mergePlan hd (hkeyed rfl)).discard

theorem run_made_of_keyless {name : String} (hw : w.byKey? = some name)
    (hkeyless : d.hasPrimaryKey = false) (m : M) (l : Ledger) :
    (d.made dialect m w).run l = (.error (.noPrimaryKey d.tableName name), l) := by
  cases w with
  | insert => exact nomatch hw
  | insertForKey => exact nomatch hw
  | update =>
    cases hw
    exact run_discard_eq_error_iff.mpr (run_updateStatement_of_keyless hkeyless m dialect l)
  | delete =>
    cases hw
    exact run_discard_eq_error_iff.mpr (run_deleteStatement_of_keyless hkeyless m dialect l)
  | merge =>
    cases hw
    exact run_discard_eq_error_iff.mpr (run_requireKey_bind_error hkeyless "merge" _ l)

/-- Why the write of an object is refused. -/
inductive Refusal (d : TableDefinition M) (dialect : Dialect) (m : M) (l : Ledger) (w : Write) :
    MappingError → Prop
  | noPrimaryKey {name : String} (hw : w.byKey? = some name) (hkeyless : d.hasPrimaryKey = false) :
      Refusal d dialect m l w (.noPrimaryKey d.tableName name)
  | conversion {e : MappingError} (hkeyed : w.byKey?.isSome → d.hasPrimaryKey = true)
      (h : FirstFault m (d.convertedFields dialect w) l e) : Refusal d dialect m l w e

/-- A write is refused when it needs a field that cannot be converted whatever was converted
before. -/
theorem exists_refusal_of_mem {f : MappedField M} (hf : f ∈ d.convertedFields dialect w)
    (h : ∀ l, ∃ e, f.Fault m l e) (l : Ledger) : ∃ e, d.Refusal dialect m l w e := by
  by_cases hkeyed : w.byKey?.isSome → d.hasPrimaryKey = true
  · obtain ⟨e, hfault⟩ := exists_firstFault_of_mem hf h l
    exact ⟨e, .conversion hkeyed hfault⟩
  · obtain ⟨hw, hkeyless⟩ := Classical.not_imp.mp hkeyed
    obtain ⟨name, hname⟩ := Option.isSome_iff_exists.mp hw
    exact ⟨_, .noPrimaryKey hname (Bool.eq_false_iff.mpr hkeyless)⟩

/-- A write is refused exactly when what it makes first cannot be made. -/
theorem refusal_iff {s : ModelSchema M} {build : Nat} (hd : s.define build = .ok d) :
    d.Refusal dialect m l w e ↔ ∃ l', (d.made dialect m w).run l = (.error e, l') := by
  constructor
  · rintro (⟨hw, hkeyless⟩ | ⟨hkeyed, h⟩)
    · exact ⟨l, run_made_of_keyless hw hkeyless m l⟩
    · exact (converts_made hd hkeyed).run_eq_error_iff.mpr h
  · rintro ⟨l', hmade⟩
    by_cases hkeyed : w.byKey?.isSome → d.hasPrimaryKey = true
    · exact .conversion hkeyed ((converts_made hd hkeyed).run_eq_error_iff.mp ⟨l', hmade⟩)
    · obtain ⟨hw, hkeyless⟩ := Classical.not_imp.mp hkeyed
      obtain ⟨name, hname⟩ := Option.isSome_iff_exists.mp hw
      have hkeyless := Bool.eq_false_iff.mpr hkeyless
      cases hmade.symm.trans (run_made_of_keyless hname hkeyless m l)
      exact .noPrimaryKey hname hkeyless

end TableDefinition

namespace Session

open Runs TableDefinition

variable {σ κ : Type} {Obj : Models κ} {s t u : SessionState σ Obj}

/-! ## Statements that are made before they are sent -/

section Made

variable {α β : Type} {y : Mapping β} {f : β → Session σ Obj α} {l : Ledger}

theorem run_mapping_bind_error {e : MappingError} (h : y.run t.ledger = (.error e, l)) :
    (mapping y >>= f).run t = (.error e, { t with ledger := l }) := by
  refine run_bind_error ?_
  rw [run_mapping, h]

theorem run_mapping_bind_ok {b : β} (h : y.run t.ledger = (.ok b, l)) :
    (mapping y >>= f).run t = (f b).run { t with ledger := l } := by
  refine run_bind_ok ?_
  rw [run_mapping, h]

end Made

/-- The first of these events is a statement for an operation on a model. -/
def Begins (k : ModelKey κ) (es : List (Event κ)) : Prop :=
  ∃ kind st fs, es = .sent (.operation k) kind st :: fs

/-- The statements of a plan begin with one of them. -/
theorem begins_performPlan (env : Environment σ Obj) (k : ModelKey κ) (table : String)
    (plan : MergePlan) :
    Leaves (performPlan env (.operation k) table plan) fun _ es => Begins k es := by
  cases plan with
  | native st => exact leaves_discard (leaves_send fun _ => ⟨.merge, st, [], rfl⟩)
  | emulated probe update insert =>
    refine leaves_bind (leaves_send (P := fun _ es => Begins k es)
      fun _ => ⟨.select, probe, [], rfl⟩) (Q := fun _ _ _ => True) (fun rows => ?_) ?_ ?_
    · split
      · exact leaves_discard (leaves_send fun _ => trivial)
      · exact leaves_discard (leaves_send fun _ => trivial)
    · exact fun _ _ h => h
    · rintro _ _ _ fs' ⟨kind, st, fs, rfl⟩ -
      exact ⟨kind, st, fs ++ fs', rfl⟩

/-! ## One write -/

section Write

variable [DecidableEq κ] {env : Environment σ Obj} {k : ModelKey κ}
  {d : TableDefinition (ModelKey.Object Obj k)} {m : ModelKey.Object Obj k} {w : Write}
  {schema : ModelSchema (ModelKey.Object Obj k)} {build : Nat} {e : MappingError}

/-- Where a write cannot make what it makes first, it leaves everything else as the preparation left
it. -/
theorem run_write_of_made_error (hprep : (prepare env k).run s = (.ok d, t)) {l : Ledger}
    (hmade : (d.made env.dialect m w).run t.ledger = (.error e, l)) :
    ((w.operation k m).perform env).run s = (.error e, { t with ledger := l }) := by
  cases w with
  | insert =>
    exact (run_bind_ok hprep).trans (run_mapping_bind_error (run_discard_eq_error_iff.mp hmade))
  | insertForKey =>
    exact (run_bind_ok hprep).trans (run_mapping_bind_error (run_discard_eq_error_iff.mp hmade))
  | update =>
    exact (run_bind_ok hprep).trans (run_mapping_bind_error (run_discard_eq_error_iff.mp hmade))
  | delete =>
    exact (run_bind_ok hprep).trans (run_mapping_bind_error (run_discard_eq_error_iff.mp hmade))
  | merge =>
    exact (run_bind_ok hprep).trans (run_mapping_bind_error (run_discard_eq_error_iff.mp hmade))

/-- Otherwise it goes on to send a statement. -/
theorem begins_write_of_made_ok (hprep : (prepare env k).run s = (.ok d, t)) {l : Ledger}
    (hmade : (d.made env.dialect m w).run t.ledger = (.ok (), l)) :
    ∃ es, Trail es t (((w.operation k m).perform env).run s).2 ∧ Begins k es := by
  have hsend : ∀ {α : Type} {x y : Session σ Obj α}, x.run s = y.run { t with ledger := l } →
      Leaves y (fun _ es => Begins k es) → ∃ es, Trail es t (x.run s).2 ∧ Begins k es := by
    intro α x y hrun hy
    obtain ⟨es, htrail, hes⟩ := hy { t with ledger := l }
    rw [hrun]
    exact ⟨es, ⟨htrail.trace, htrail.prepared, htrail.registry⟩, hes⟩
  cases w with
  | insert =>
    obtain ⟨st, hst⟩ := run_discard_eq_ok_iff.mp hmade
    exact hsend ((run_bind_ok hprep).trans (run_mapping_bind_ok hst))
      (leaves_send fun _ => ⟨.insert, st, [], rfl⟩)
  | insertForKey =>
    obtain ⟨fragments, hfragments⟩ := run_discard_eq_ok_iff.mp hmade
    exact hsend ((run_bind_ok hprep).trans (run_mapping_bind_ok hfragments))
      (leaves_send fun _ => ⟨.insert, _, [], rfl⟩)
  | update =>
    obtain ⟨st, hst⟩ := run_discard_eq_ok_iff.mp hmade
    exact hsend ((run_bind_ok hprep).trans (run_mapping_bind_ok hst))
      (leaves_send fun _ => ⟨.update, st, [], rfl⟩)
  | delete =>
    obtain ⟨st, hst⟩ := run_discard_eq_ok_iff.mp hmade
    exact hsend ((run_bind_ok hprep).trans (run_mapping_bind_ok hst))
      (leaves_send fun _ => ⟨.delete, st, [], rfl⟩)
  | merge =>
    obtain ⟨plan, hplan⟩ := run_discard_eq_ok_iff.mp hmade
    exact hsend (run_merge hprep hplan) (begins_performPlan env k d.tableName plan)

end Write

/-! ## A list of objects -/

section InsertAll

variable [DecidableEq κ] {env : Environment σ Obj} {k : ModelKey κ}
  {d : TableDefinition (ModelKey.Object Obj k)} {m : ModelKey.Object Obj k}
  {before after : List (ModelKey.Object Obj k)} {n : UInt64} {e : MappingError}
  {es : List (Event κ)}

variable (env d) in
/-- A statement that inserts an object. -/
def Inserts (m : ModelKey.Object Obj k) (st : Statement) : Prop :=
  ∃ l l', (d.insertStatement m env.dialect).run l = (.ok st, l')

theorem trail_insert (h : Standing k d s) (hrun : (insert env k m).run s = (.ok n, t)) :
    ∃ st, Inserts env d m st ∧ Trail [.sent (.operation k) .insert st] s t := by
  rw [insert, run_bind_ok h.run_prepare, insertPrepared] at hrun
  obtain ⟨st, u, hst, hsend⟩ := run_bind_eq_ok.mp hrun
  rw [run_mapping] at hst
  have hu : u = { s with ledger := ((d.insertStatement m env.dialect).run s.ledger).2 } :=
    (congrArg Prod.snd hst).symm
  rw [execute, run_send rfl] at hsend
  have ht := congrArg Prod.snd hsend
  subst hu
  subst ht
  have hmade : ((d.insertStatement m env.dialect).run s.ledger).1 = .ok st := congrArg Prod.fst hst
  exact ⟨st, ⟨s.ledger, _, Prod.ext hmade rfl⟩, rfl, rfl, rfl⟩

/-- Of a list of objects that are inserted, each has been sent once, in order. -/
theorem trail_insertAll (h : Standing k d s)
    (hrun : (insertAll env k before).run s = (.ok n, t)) :
    ∃ sts, List.Forall₂ (Inserts env d) before sts ∧
      Trail (sts.map fun st => .sent (.operation k) .insert st) s t := by
  induction before generalizing s n with
  | nil =>
    cases hrun
    exact ⟨[], .nil, .refl _⟩
  | cons m ms ih =>
    obtain ⟨n₁, u, hm, hrun⟩ := run_bind_eq_ok.mp hrun
    obtain ⟨n₂, u', hms, hrun⟩ := run_bind_eq_ok.mp hrun
    cases hrun
    obtain ⟨st, hst, htrail⟩ := trail_insert h hm
    obtain ⟨sts, hsts, htrail'⟩ := ih (h.trail htrail) hms
    exact ⟨st :: sts, .cons hst hsts, htrail.trans htrail'⟩

/-- Where the objects before one have been inserted and it cannot be, no other is tried. -/
theorem run_insertAll_append_error (hbefore : (insertAll env k before).run s = (.ok n, t))
    (hm : (insert env k m).run t = (.error e, u)) :
    (insertAll env k (before ++ m :: after)).run s = (.error e, u) := by
  induction before generalizing s n with
  | nil =>
    cases hbefore
    exact run_bind_error hm
  | cons b bs ih =>
    obtain ⟨n₁, s₁, hb, hbefore⟩ := run_bind_eq_ok.mp hbefore
    obtain ⟨n₂, s₂, hbs, hbefore⟩ := run_bind_eq_ok.mp hbefore
    cases hbefore
    exact (run_bind_ok hb).trans (run_bind_error (ih hbs))

/-- Insertion from a state and from what its preparation leaves are the same. -/
theorem run_insertAll_of_prepare (hprep : (prepare env k).run s = (.ok d, t))
    (h : Standing k d t) (hne : before ≠ []) :
    (insertAll env k before).run s = (insertAll env k before).run t := by
  cases before with
  | nil => exact absurd rfl hne
  | cons m ms =>
    have hm : (insert env k m).run s = (insert env k m).run t := by
      rw [insert, run_bind_ok hprep, run_bind_ok h.run_prepare]
    rcases hrun : (insert env k m).run t with ⟨e | n, u⟩
    · rw [insertAll, run_bind_error hrun, run_bind_error (hm.trans hrun)]
    · rw [insertAll, run_bind_ok hrun, run_bind_ok (hm.trans hrun)]

end InsertAll

/-! ## In any session -/

section Session

variable [DecidableEq κ] {env : Environment σ Obj} {k : ModelKey κ}
  {d : TableDefinition (ModelKey.Object Obj k)}

/-- In every session, and in every dialect, a write that lacks its primary key or needs a field that
cannot be converted answers that error, with engine and trace as the preparation left them; any
other write sends a statement.  Of a list of objects of which one is refused, exactly those before
it have been sent. -/
theorem refused_write_sends_nothing (engine : σ) (ledger : Ledger)
    {registry : Registry (ModelKey.Object Obj)} (hbuilt : registry.BuiltFrom env.schemaOf)
    (ops : List (Operation Obj)) :
    let s := Operation.performAll env ops (.openedOver env engine ledger registry)
    (prepare env k).run s = (.ok d, t) →
      (∀ w m,
        (∀ e, d.Refusal env.dialect m t.ledger w e →
          ∃ l, ((w.operation k m).perform env).run s = (.error e, { t with ledger := l })) ∧
        ((∀ e, ¬ d.Refusal env.dialect m t.ledger w e) →
          ∃ es, Trail es t (((w.operation k m).perform env).run s).2 ∧ Begins k es) ∧
        ∀ f ∈ d.convertedFields env.dialect w, (∀ l, ∃ e, f.Fault m l e) →
          ∃ e, d.Refusal env.dialect m t.ledger w e) ∧
      ∀ before m after n u e, (insertAll env k before).run t = (.ok n, u) →
        d.Refusal env.dialect m u.ledger .insert e →
          (∃ l, (insertAll env k (before ++ m :: after)).run s =
            (.error e, { u with ledger := l })) ∧
          ∃ sts, List.Forall₂ (Inserts env d) before sts ∧
            Trail (sts.map fun st => .sent (.operation k) .insert st) t u := by
  intro s hprep
  obtain ⟨_, hgoes, -⟩ := goes_performAll engine ledger hbuilt ops
  have hstanding := standing_of_prepare hgoes.built hprep
  obtain ⟨build, hd⟩ := hstanding.exists_define (built_of_prepare hgoes.built hprep)
  refine ⟨fun w m => ⟨fun e he => ?_, fun hnone => ?_, fun f hf hfault => ?_⟩, ?_⟩
  · obtain ⟨l, hmade⟩ := (refusal_iff hd).mp he
    exact ⟨l, run_write_of_made_error hprep hmade⟩
  · rcases hmade : (d.made env.dialect m w).run t.ledger with ⟨e | _, l⟩
    · exact absurd ((refusal_iff hd).mpr ⟨l, hmade⟩) (hnone e)
    · exact begins_write_of_made_ok hprep hmade
  · exact exists_refusal_of_mem hf hfault t.ledger
  · intro before m after n u e hbefore he
    obtain ⟨sts, hsts, htrail⟩ := trail_insertAll hstanding hbefore
    obtain ⟨l, hmade⟩ := (refusal_iff hd).mp he
    have hm : (insert env k m).run u = (.error e, { u with ledger := l }) :=
      run_write_of_made_error (w := .insert) (hstanding.trail htrail).run_prepare hmade
    refine ⟨⟨l, ?_⟩, sts, hsts, htrail⟩
    rw [run_insertAll_of_prepare hprep hstanding (by simp)]
    exact run_insertAll_append_error hbefore hm

end Session

/-! ### Tickets whose numbers are written once -/

/-- A ticket. -/
structure Ticket where
  number : Int64

/-- An adapter that writes one value and refuses the next. -/
def writesOnce : Adapter where
  dataType := "BIGINT"
  serialize
    | [], v => .ok v
    | _ :: _, _ => .error (.conversion "number" (.stated "written already"))
  deserialize _ v := .ok v

def ticketNumber : FieldSpec Ticket :=
  ((FieldSpec.value Int64 "number" (·.number) fun x _ => ⟨x⟩).withAdapter writesOnce).withColumn
    { primaryKey := true }

def ticketSchema : ModelSchema Ticket :=
  (ModelSchema.named "Ticket" ⟨0⟩).addField ticketNumber

def ticketColumn : MappedField Ticket where
  columnName := "number"
  fieldName := "number"
  fieldType := .bigInt
  dataType := "BIGINT"
  maxLength := 0
  isPrimaryKey := true
  isAutoIncrement := false
  trim := false
  allowNull := true
  defaultValue := none
  encoding := none
  declaredIndex := 0
  build := 0
  adapter := some writesOnce
  get := ticketNumber.get
  set := ticketNumber.set

def ticketDefinition : TableDefinition Ticket where
  modelName := "Ticket"
  schemaName := none
  tableName := "Ticket"
  version := 0
  createIfRequired := true
  memoryTable := false
  fields := [ticketColumn]
  primaryKey := ["number"]
  indexes := []
  declared := ["number"]
  blank := ⟨0⟩

theorem define_ticketSchema : ticketSchema.define 0 = .ok ticketDefinition := by
  have hkey : ticketSchema.resolveColumns "primary key" [ticketColumn]
      (ticketSchema.keyNames [ticketColumn]) = .ok ["number"] := by
    have hkeyNames : ticketSchema.keyNames [ticketColumn] = ["number"] := rfl
    rw [hkeyNames]
    simp [ModelSchema.resolveColumns, ticketColumn]
  have hflags : [ticketColumn].map (ModelSchema.flagKey ["number"]) = [ticketColumn] := by
    simp [ModelSchema.flagKey, ticketColumn]
  refine bind_eq_ok.mpr ⟨_, rfl, bind_eq_ok.mpr ⟨_, hkey, bind_eq_ok.mpr ⟨[], rfl, ?_⟩⟩⟩
  exact congrArg (fun fields => Except.ok { ticketDefinition with fields := fields }) hflags

/-- An engine that counts what it is asked, and that merges in two steps. -/
def ticketEnvironment : Environment Nat fun _ : Unit => Ticket where
  engine := {
    product := "ANSI"
    execute := fun _ n => (.ok 1, n + 1)
    insert := fun _ n => (.ok 1, n + 1)
    query := fun _ n => (.ok [], n + 1) }
  schema _ := ticketSchema
  config := { createTables := false }
  upgrader := none

theorem dialect_ticketEnvironment : ticketEnvironment.dialect = .ansi := by
  have hdetect : Dialect.detect "ANSI" = .ansi := by decide +kernel
  exact hdetect

theorem run_prepare_ticket :
    ∃ t, (prepare ticketEnvironment (.model ())).run (.opened ticketEnvironment 0) =
      (.ok ticketDefinition, t) ∧ t.engine = 0 ∧ t.ledger.calls = [] :=
  run_prepare_opened ticketEnvironment 0 rfl rfl define_ticketSchema

/-- The first conversion of a ticket is made. -/
theorem run_storageValue_ticket {l : Ledger} (hcalls : l.calls = []) (m : Ticket) :
    (ticketColumn.storageValue m).run l = (.ok (.of (.bigInt m.number)),
      l.record ticketColumn.slot (.serialize (.of (.bigInt m.number)))) := by
  have hhistory : l.history ticketColumn.slot = [] := by
    rw [Ledger.history, hcalls]
    rfl
  have hget : ticketColumn.get m = .ok (.plain (.of (.bigInt m.number))) := rfl
  have hstore : ticketColumn.toStorage (.plain (.of (.bigInt m.number))) =
      Mapping.serialize ticketColumn.slot writesOnce (.of (.bigInt m.number)) := rfl
  rw [MappedField.run_storageValue hget, hstore, Mapping.run_serialize, hhistory]
  rfl

/-- The second is refused. -/
theorem fault_ticket {l : Ledger} {c : AdapterCall} {cs : List AdapterCall}
    (hhistory : l.history ticketColumn.slot = c :: cs) (m : Ticket) :
    ticketColumn.Fault m l (.conversion "number" (.stated "written already")) := by
  refine .adapter rfl rfl ?_
  rw [hhistory]
  rfl

theorem run_insertAll_ticket {t : SessionState Nat fun _ : Unit => Ticket}
    (hprep : (prepare ticketEnvironment (.model ())).run t = (.ok ticketDefinition, t))
    (hcalls : t.ledger.calls = []) (m : Ticket) :
    ∃ u, (insertAll ticketEnvironment (.model ()) [m]).run t = (.ok 1, u) ∧
      u.engine = t.engine + 1 ∧
      u.ledger = t.ledger.record ticketColumn.slot (.serialize (.of (.bigInt m.number))) := by
  have hvalues : (storedValues m ticketDefinition.fields).run t.ledger =
      (.ok [(ticketColumn, .of (.bigInt m.number))],
        t.ledger.record ticketColumn.slot (.serialize (.of (.bigInt m.number)))) :=
    run_bind_ok (run_storageValue_ticket hcalls m)
  have hmade := run_mapping_bind_ok (t := t) (f := fun st =>
      execute ticketEnvironment (.operation (.model ())) .insert ticketDefinition.tableName st)
    (run_insertStatement_of_values hvalues ticketEnvironment.dialect)
  have hinsert : ∃ u, (insert ticketEnvironment (.model ()) m).run t = (.ok 1, u) ∧
      u.engine = t.engine + 1 ∧
      u.ledger = t.ledger.record ticketColumn.slot (.serialize (.of (.bigInt m.number))) :=
    ⟨_, (run_bind_ok hprep).trans (hmade.trans rfl), rfl, rfl⟩
  obtain ⟨u, hinsert, hengine, hledger⟩ := hinsert
  exact ⟨u, run_bind_ok hinsert, hengine, hledger⟩

/-- A merge whose object can be converted once, and not again for the count, asks the engine
nothing; and of two tickets the first is inserted. -/
theorem refused_write_sends_nothing_ticket :
    ∃ t, (prepare ticketEnvironment (.model ())).run (.opened ticketEnvironment 0) =
        (.ok ticketDefinition, t) ∧ t.engine = 0 ∧
      (∃ e l, (merge ticketEnvironment (.model ()) ⟨7⟩).run (.opened ticketEnvironment 0) =
        (.error e, { t with ledger := l })) ∧
      ∃ e u, (insertAll ticketEnvironment (.model ()) [⟨7⟩, ⟨8⟩]).run
        (.opened ticketEnvironment 0) = (.error e, u) ∧ u.engine = 1 := by
  obtain ⟨t, hprep, hengine, hcalls⟩ := run_prepare_ticket
  obtain ⟨hwrites, hlists⟩ :=
    refused_write_sends_nothing 0 .start Registry.builtFrom_empty [] hprep
  have hfirst := run_storageValue_ticket hcalls ⟨7⟩
  have hsecond := fault_ticket (Ledger.history_record t.ledger ticketColumn.slot
    (.serialize (.of (.bigInt 7))))
  refine ⟨t, hprep, hengine, ?_, ?_⟩
  · have hrefusal : ticketDefinition.Refusal ticketEnvironment.dialect ⟨7⟩ t.ledger .merge
        (.conversion "number" (.stated "written already")) := by
      rw [dialect_ticketEnvironment]
      exact .conversion (fun _ => rfl) (.later hfirst (.here (hsecond ⟨7⟩)))
    exact ⟨_, (hwrites .merge ⟨7⟩).1 _ hrefusal⟩
  · have hagain : (prepare ticketEnvironment (.model ())).run t = (.ok ticketDefinition, t) :=
      (standing_of_prepare Registry.builtFrom_empty hprep).run_prepare
    obtain ⟨u, hinsert, hcount, hledger⟩ := run_insertAll_ticket hagain hcalls ⟨7⟩
    have hfault := fault_ticket (l := u.ledger)
      (by rw [hledger, Ledger.history_record]) ⟨8⟩
    obtain ⟨⟨l, hrun⟩, -⟩ := hlists [⟨7⟩] ⟨8⟩ [] 1 u _ hinsert (.conversion nofun (.here hfault))
    rw [hengine] at hcount
    exact ⟨_, _, hrun, hcount⟩

end Session
end TableMapping
