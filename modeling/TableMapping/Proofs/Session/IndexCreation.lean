import TableMapping.Proofs.Model.Definition
import TableMapping.Proofs.Session.Creation

/-!
# Indexes that exist already

A preparation means to go on when the engine refuses an index because it exists already.  What
it looks at is the failure after `MappingError.classify`, and the phrases for stored keys and
missing tables are tried first there.  So a message that has one of those phrases too is not
recognised, and the preparation fails.

* `tolerated_execution_iff`: which messages of an existing index let the creation go on.
* `run_createIndex_error`: what comes of the statement of such an index.
* `prepare_createIndex`: what comes of a whole preparation, for every place of the index among
  the indexes and every answer of the engine.  It goes on as after a success exactly when the
  message is neither one of a stored key nor one of a missing table.
* `isDuplicateKeyMessage_of_duplicateKeyName`: every message with the second phrase for existing
  objects is one of a stored key, so that phrase is never recognised.
* `prepare_createIndex_duplicateKeyName`: a preparation that fails for this reason.
-/

namespace TableMapping

theorem MappingError.classify_execution (table message : String) :
    (MappingError.execution message).classify table =
      if isDuplicateKeyMessage message then .duplicateKey message
      else if isTableNotFoundMessage message then .tableNotFound table
      else .execution message := rfl

theorem isDuplicateKeyMessage_of_duplicateKeyName {message : String}
    (h : mentionsAny message ["duplicate key name"] = true) :
    isDuplicateKeyMessage message = true :=
  mentionsAny_of_infix h (by decide : "duplicate key".toList <:+: "duplicate key name".toList)
    (by decide)

namespace Session

open Runs

variable {σ κ : Type} {Obj : Models κ} {env : Environment σ Obj} {s s₀ s₁ t : SessionState σ Obj}
  {k : ModelKey κ} {d : TableDefinition (ModelKey.Object Obj k)}

/-! ## The statement of one index -/

/-- A message of an existing object is tolerated if it still tells of one after it was
classified. -/
theorem tolerated_execution_iff {table m : String} (hm : isAlreadyExistsMessage m = true) :
    Tolerated table (.error (.execution m)) ↔
      ¬ isDuplicateKeyMessage m = true ∧ ¬ isTableNotFoundMessage m = true := by
  rw [tolerated_error_iff, MappingError.classify_execution]
  by_cases hduplicate : isDuplicateKeyMessage m = true
  · simp [hduplicate]
  · by_cases hmissing : isTableNotFoundMessage m = true
    · simp [hduplicate, hmissing]
    · simp [hduplicate, hmissing, hm]

theorem run_createIndex_error (table : String) {st : Statement} {m : String} {g : σ}
    (h : env.engine.execute st s.engine = (.error (.execution m), g))
    (hm : isAlreadyExistsMessage m = true) :
    (createIndex env k table st).run s =
      (if isDuplicateKeyMessage m then .error (.duplicateKey m)
        else if isTableNotFoundMessage m then .error (.tableNotFound table)
        else .ok (), served s (.creation k) .createIndex st g) := by
  have htolerated : Tolerated table (.error (.execution m)) ↔ _ := tolerated_execution_iff hm
  have hclassify := MappingError.classify_execution table m
  by_cases hduplicate : isDuplicateKeyMessage m = true
  · rw [if_pos hduplicate] at hclassify ⊢
    rw [run_createIndex_of_not_tolerated h fun hok => (htolerated.mp hok).1 hduplicate, hclassify]
  · rw [if_neg hduplicate] at hclassify ⊢
    by_cases hmissing : isTableNotFoundMessage m = true
    · rw [if_pos hmissing] at hclassify ⊢
      rw [run_createIndex_of_not_tolerated h fun hok => (htolerated.mp hok).2 hmissing, hclassify]
    · rw [if_neg hmissing]
      exact run_createIndex_of_tolerated h (htolerated.mpr ⟨hduplicate, hmissing⟩)

theorem createIndexes_append (table : String) (xs ys : List Statement) :
    createIndexes env k table (xs ++ ys) = (do
      createIndexes env k table xs
      createIndexes env k table ys) := by
  induction xs with
  | nil => rw [List.nil_append, createIndexes, pure_bind]
  | cons x xs ih => rw [List.cons_append, createIndexes, ih, createIndexes, bind_assoc]

/-! ## A whole preparation -/

variable (env k d) in
/-- The creation of a table and the first of its indexes. -/
def createFirst (first : List IndexDefinition) : Session σ Obj Unit := do
  warn (d.createNotices env.dialect)
  discard (execute env (.creation k) .createTable d.tableName (d.createTableStatement env.dialect))
  createIndexes env k d.tableName (first.map fun i => d.createIndexStatement i env.dialect)

variable [DecidableEq κ]

variable (env k d) in
/-- What a preparation still has to do when only these indexes are left to be created. -/
def finishPreparation (left : List IndexDefinition) :
    Session σ Obj (TableDefinition (ModelKey.Object Obj k)) := do
  createIndexes env k d.tableName (left.map fun i => d.createIndexStatement i env.dialect)
  versionCheck env k d
  markPrepared k
  return d

/-- A preparation passes through the state in which any one of its indexes is created. -/
theorem run_prepare_at_index (hdef : (definition env k).run s = (.ok d, s₀))
    (hk : k ∉ s.prepared) (hasked : (d.createIfRequired && env.config.createTables) = true)
    {first left : List IndexDefinition} {i : IndexDefinition}
    (hidx : d.indexes = first ++ i :: left)
    (hfirst : (createFirst env k d first).run s₀ = (.ok (), s₁)) :
    (prepare env k).run s = (do
      createIndex env k d.tableName (d.createIndexStatement i env.dialect)
      finishPreparation env k d left : Session σ Obj _).run s₁ := by
  have hcreate : createIfAsked env k d = (do
      createFirst env k d first
      createIndex env k d.tableName (d.createIndexStatement i env.dialect)
      createIndexes env k d.tableName
        (left.map fun i => d.createIndexStatement i env.dialect)) := by
    rw [createIfAsked, if_pos hasked, create, hidx, List.map_append, createIndexes_append]
    simp only [createFirst, bind_assoc, List.map_cons, createIndexes]
  rw [← prepared_eq_of_run_definition hdef] at hk
  rw [prepare, prepareWith, run_bind_ok hdef, run_bind_ok run_get, if_neg hk, hcreate]
  simp only [bind_assoc]
  rw [run_bind_ok hfirst]
  rfl

/-- What comes of the preparation when the engine has answered the statement of any one of the
indexes, whose creation follows that of the table and of the indexes before it. -/
theorem prepare_createIndex (hdef : (definition env k).run s = (.ok d, s₀))
    (hk : k ∉ s.prepared) (hasked : (d.createIfRequired && env.config.createTables) = true)
    {first left : List IndexDefinition} {i : IndexDefinition}
    (hidx : d.indexes = first ++ i :: left)
    (hfirst : (createFirst env k d first).run s₀ = (.ok (), s₁))
    {b : Except MappingError UInt64} {g : σ}
    (hanswer : env.engine.execute (d.createIndexStatement i env.dialect) s₁.engine = (b, g)) :
    let s₂ := served s₁ (.creation k) .createIndex (d.createIndexStatement i env.dialect) g
    (∀ n, b = .ok n → (prepare env k).run s = (finishPreparation env k d left).run s₂) ∧
    ∀ m, b = .error (.execution m) → isAlreadyExistsMessage m = true →
      (prepare env k).run s =
        if isDuplicateKeyMessage m then (.error (.duplicateKey m), s₂)
        else if isTableNotFoundMessage m then (.error (.tableNotFound d.tableName), s₂)
        else (finishPreparation env k d left).run s₂ := by
  intro s₂
  rw [run_prepare_at_index hdef hk hasked hidx hfirst]
  refine ⟨?_, ?_⟩
  · rintro n rfl
    exact run_bind_ok (run_createIndex_of_tolerated hanswer (.created n))
  · rintro m rfl hm
    have hrun := run_createIndex_error (k := k) d.tableName hanswer hm
    by_cases hduplicate : isDuplicateKeyMessage m = true
    · rw [if_pos hduplicate] at hrun ⊢
      exact run_bind_error hrun
    · rw [if_neg hduplicate] at hrun ⊢
      by_cases hmissing : isTableNotFoundMessage m = true
      · rw [if_pos hmissing] at hrun ⊢
        exact run_bind_error hrun
      · rw [if_neg hmissing] at hrun ⊢
        exact run_bind_ok hrun

/-! ## A table with three indexes -/

/-- A product. -/
structure Product where
  id : Int64
  name : String

def productId : FieldSpec Product :=
  (FieldSpec.value Int64 "id" (·.id) fun x p => { p with id := x }).withColumn {}

def productName : FieldSpec Product :=
  (FieldSpec.value String "name" (·.name) fun x p => { p with name := x }).withColumn {}

/-- Products have three indexes. -/
def productSchema : ModelSchema Product :=
  let columns := ((ModelSchema.named "Product" ⟨0, ""⟩).addField productId).addField productName
  ((columns.addIndex { columns := ["name"] }).addIndex
    { columns := ["id"], kind := .unique }).addIndex { columns := ["name", "id"] }

def productColumn (f : FieldSpec Product) (dataType : String) (index : Nat) :
    MappedField Product where
  columnName := f.name
  fieldName := f.name
  fieldType := f.fieldType
  dataType := dataType
  maxLength := 0
  isPrimaryKey := false
  isAutoIncrement := false
  trim := false
  allowNull := true
  defaultValue := none
  encoding := none
  declaredIndex := index
  build := 0
  adapter := none
  get := f.get
  set := f.set

def productDefinition : TableDefinition Product where
  modelName := "Product"
  schemaName := none
  tableName := "Product"
  version := 0
  createIfRequired := true
  memoryTable := false
  fields := [productColumn productId "BIGINT" 0, productColumn productName "VARCHAR" 1]
  primaryKey := []
  indexes := [⟨.standard, "Product_0", ["name"]⟩, ⟨.unique, "Product_1", ["id"]⟩,
    ⟨.standard, "Product_2", ["name", "id"]⟩]
  declared := ["id", "name"]
  blank := ⟨0, ""⟩

theorem sameName_product : Text.sameName "id" "name" = false := by
  rw [Text.sameName_eq_decide]
  decide

theorem mapFields_product : productSchema.mapFields 0 0 [] productSchema.declaredFields =
    .ok productDefinition.fields := by
  show (if (Text.sameName "id" "name" || false) = true then throw _ else _) = _
  rw [sameName_product]
  rfl

/-- The columns of an index are found under their names. -/
theorem resolveColumns_product (names : List String) (h : ∀ n ∈ names, n = "id" ∨ n = "name") :
    productSchema.resolveColumns "index" productDefinition.fields names = .ok names := by
  induction names with
  | nil => rfl
  | cons n names ih =>
    obtain ⟨hn, hnames⟩ := List.forall_mem_cons.mp h
    have ih := ih hnames
    rw [ModelSchema.resolveColumns] at ih ⊢
    rw [List.mapM_cons, ih]
    rcases hn with rfl | rfl
    · simp [productDefinition, productColumn, productId, FieldSpec.value,
        FieldSpec.ofAccessors, FieldSpec.withColumn]
      rfl
    · simp [productDefinition, productColumn, productId, productName, FieldSpec.value,
        FieldSpec.ofAccessors, FieldSpec.withColumn, sameName_product]
      rfl

theorem define_productSchema : productSchema.define 0 = .ok productDefinition := by
  have hindexes : productSchema.defineIndexes productDefinition.fields [] productSchema.indexes =
      .ok productDefinition.indexes := by
    have hfirst : productSchema.indexName 0 { columns := ["name"] } = "Product_0" := by
      show "Product" ++ "_" ++ Numeral.ofNat 0 = _
      decide +kernel
    have hsecond : productSchema.indexName 1 { columns := ["id"], kind := .unique } =
        "Product_1" := by
      show "Product" ++ "_" ++ Numeral.ofNat 1 = _
      decide +kernel
    have hthird : productSchema.indexName 2 { columns := ["name", "id"] } = "Product_2" := by
      show "Product" ++ "_" ++ Numeral.ofNat 2 = _
      decide +kernel
    show productSchema.defineIndexes _ [] [_, _, _] = _
    rw [ModelSchema.defineIndexes_cons hfirst rfl (resolveColumns_product _ (by simp))]
    rw [ModelSchema.defineIndexes_cons hsecond (by simp [Text.sameName_eq_decide])
      (resolveColumns_product _ (by simp))]
    rw [ModelSchema.defineIndexes_cons hthird (by simp [Text.sameName_eq_decide])
      (resolveColumns_product _ (by simp))]
    rfl
  refine bind_eq_ok.mpr ⟨_, mapFields_product, bind_eq_ok.mpr ⟨[], rfl, ?_⟩⟩
  have hflags : productDefinition.fields.map (ModelSchema.flagKey []) =
      productDefinition.fields := rfl
  rw [hflags]
  exact bind_eq_ok.mpr ⟨_, hindexes, rfl⟩

/-- An engine that refuses its third statement with a message.  It counts its statements. -/
def refusingThird (message : String) : Engine Nat where
  product := "MySQL"
  execute _ n := (if n = 2 then .error (.execution message) else .ok 1, n + 1)
  insert _ n := (.ok 1, n + 1)
  query _ n := (.ok [], n + 1)

/-- What a session for products works with. -/
def productEnvironment (message : String) : Environment Nat fun _ : Unit => Product where
  engine := refusingThird message
  schema _ := productSchema
  config := {}
  upgrader := none

theorem run_definition_product (message : String) :
    ∃ s₀, (definition (productEnvironment message) (.model ())).run
        (.opened (productEnvironment message) 0) = (.ok productDefinition, s₀) ∧
      s₀.engine = 0 ∧ s₀.prepared = [] := by
  have hnone : (SessionState.opened (productEnvironment message) 0).registry.find? (.model ()) =
      none := rfl
  have hbuild : ((productEnvironment message).schemaOf (.model ())).define
      (SessionState.opened (productEnvironment message) 0).ledger.builds =
        .ok productDefinition := define_productSchema
  rw [run_definition_of_none hnone, hbuild]
  exact ⟨_, rfl, rfl, rfl⟩

/-- The table of products and the first of its indexes are created. -/
theorem run_createFirst_product (message : String)
    {s₀ : SessionState Nat fun _ : Unit => Product} (h : s₀.engine = 0) :
    ∃ s₁, (createFirst (productEnvironment message) (.model ()) productDefinition
        [⟨.standard, "Product_0", ["name"]⟩]).run s₀ = (.ok (), s₁) ∧
      s₁.engine = 2 ∧ s₁.prepared = s₀.prepared := by
  obtain ⟨engine, ledger, registry, prepared, trace⟩ := s₀
  cases h
  exact ⟨_, rfl, rfl, rfl⟩

theorem execute_productEnvironment (message : String) (st : Statement) {n : Nat} (h : n = 2) :
    (productEnvironment message).engine.execute st n = (.error (.execution message), 3) := by
  rw [h]
  rfl

theorem indexes_productDefinition : productDefinition.indexes =
    [⟨.standard, "Product_0", ["name"]⟩] ++ ⟨.unique, "Product_1", ["id"]⟩ ::
      [⟨.standard, "Product_2", ["name", "id"]⟩] := rfl

/-- The second index of the products exists already, and their preparation goes on with the third
and succeeds. -/
theorem prepare_createIndex_product :
    isAlreadyExistsMessage "index Product_1 already exists" = true ∧
      ∃ t, (prepare (productEnvironment "index Product_1 already exists") (.model ())).run
          (.opened (productEnvironment "index Product_1 already exists") 0) =
            (.ok productDefinition, t) ∧ t.engine = 4 ∧ t.prepared = [.model ()] := by
  have hm : isAlreadyExistsMessage "index Product_1 already exists" = true := by decide
  have hduplicate : isDuplicateKeyMessage "index Product_1 already exists" = false := by decide
  have hmissing : isTableNotFoundMessage "index Product_1 already exists" = false := by decide
  obtain ⟨s₀, hdef, hzero, hnone⟩ := run_definition_product "index Product_1 already exists"
  obtain ⟨s₁, hfirst, htwo, hprepared⟩ :=
    run_createFirst_product "index Product_1 already exists" hzero
  have hrun := (prepare_createIndex hdef List.not_mem_nil rfl indexes_productDefinition hfirst
    (execute_productEnvironment _ _ htwo)).2 _ rfl hm
  rw [hduplicate, hmissing] at hrun
  refine ⟨hm, _, hrun, rfl, ?_⟩
  show ModelKey.model () :: s₁.prepared = _
  rw [hprepared, hnone]

/-- The second index of the products exists already and the engine says so, but the preparation
takes the message for that of a stored key, and asks for nothing else. -/
theorem prepare_createIndex_duplicateKeyName :
    isAlreadyExistsMessage "Duplicate key name 'Product_1'" = true ∧
      ∃ t, (prepare (productEnvironment "Duplicate key name 'Product_1'") (.model ())).run
          (.opened (productEnvironment "Duplicate key name 'Product_1'") 0) =
            (.error (.duplicateKey "Duplicate key name 'Product_1'"), t) ∧
        t.engine = 3 ∧ t.prepared = [] := by
  have hm : isAlreadyExistsMessage "Duplicate key name 'Product_1'" = true := by decide
  have hduplicate : isDuplicateKeyMessage "Duplicate key name 'Product_1'" = true :=
    isDuplicateKeyMessage_of_duplicateKeyName (by decide)
  obtain ⟨s₀, hdef, hzero, hnone⟩ := run_definition_product "Duplicate key name 'Product_1'"
  obtain ⟨s₁, hfirst, htwo, hprepared⟩ :=
    run_createFirst_product "Duplicate key name 'Product_1'" hzero
  have hindex (st : Statement) := run_createIndex_error (k := .model ()) productDefinition.tableName
    (execute_productEnvironment _ st htwo) hm
  simp only [hduplicate, if_true] at hindex
  have hrun := run_prepare_at_index hdef List.not_mem_nil rfl indexes_productDefinition hfirst
  rw [run_bind_error (hindex _)] at hrun
  exact ⟨hm, _, hrun, rfl, hprepared.trans hnone⟩

end Session
end TableMapping
