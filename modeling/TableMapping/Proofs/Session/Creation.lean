import TableMapping.Proofs.Session.History

/-!
# The creation of a table

A creation asks the engine for the table and then for its indexes, and what comes of it depends on
the answers.  The table has to be created; an index may exist already, provided that its failure
still says so after it was classified.  The first answer of another kind ends the creation.

* `Tolerated table b`: the answer `b` to the statement of an index lets the creation go on.
* `IndexesCreated`, `Created`: the moments of a creation, with the answers in them, and its own
  answer.
* `passes_createIfAsked`: a creation has these cases, whatever the engine answers.
* `Created.creates`: all of its moments are statements of the creation and warnings.
-/

namespace TableMapping

/-- A statement for the creation of a model's table, or a warning. -/
def Event.Creates {κ : Type} (k : ModelKey κ) (e : Event κ) : Prop :=
  e.SentFor (.creation k) ∨ ∃ n, e = .warned n

namespace Session

open Runs

variable {σ κ : Type} {Obj : Models κ} {env : Environment σ Obj} {s : SessionState σ Obj}
  {k : ModelKey κ} {d : TableDefinition (ModelKey.Object Obj k)} {table : String} {st : Statement}
  {b : Except MappingError Unit} {hs : List (Moment σ κ)} {g : σ}

/-! ## The answers -/

/-- An answer that lets a creation go on: the index is created, or it exists already. -/
inductive Tolerated (table : String) : Except MappingError UInt64 → Prop
  | created (n : UInt64) : Tolerated table (.ok n)
  | existing {e : MappingError} {message : String} (he : e.classify table = .execution message)
      (hmessage : isAlreadyExistsMessage message = true) : Tolerated table (.error e)

theorem tolerated_error_iff {e : MappingError} :
    Tolerated table (.error e) ↔
      ∃ message, e.classify table = .execution message ∧ isAlreadyExistsMessage message = true := by
  constructor
  · intro h
    cases h with
    | existing he hmessage => exact ⟨_, he, hmessage⟩
  · rintro ⟨message, he, hmessage⟩
    exact .existing he hmessage

section Cases

variable (env) (k)

/-- Indexes are created in order, up to the first answer that is not tolerated. -/
inductive IndexesCreated (table : String) :
    List Statement → Except MappingError Unit → List (Moment σ κ) → Prop
  | done : IndexesCreated table [] (.ok ()) []
  | next {st : Statement} {sts : List Statement} {g g' : σ} {answer : Except MappingError UInt64}
      {b : Except MappingError Unit} {hs : List (Moment σ κ)}
      (hask : env.engine.execute st g = (answer, g')) (hanswer : Tolerated table answer)
      (hrest : IndexesCreated table sts b hs) :
      IndexesCreated table (st :: sts) b (⟨.sent (.creation k) .createIndex st, g, g'⟩ :: hs)
  | refused {st : Statement} {sts : List Statement} {g g' : σ} {e : MappingError}
      (hask : env.engine.execute st g = (.error e, g')) (he : ¬ Tolerated table (.error e)) :
      IndexesCreated table (st :: sts) (.error (e.classify table))
        [⟨.sent (.creation k) .createIndex st, g, g'⟩]

variable {k} (d)

/-- Model and configuration ask for the creation of the table. -/
def CreationAsked : Prop :=
  d.createIfRequired = true ∧ env.config.createTables = true

/-- The warnings of a creation. -/
def creationWarnings (g : σ) : List (Moment σ κ) :=
  (d.createNotices env.dialect).map fun n => ⟨.warned n, g, g⟩

/-- The moment of the statement that creates the table. -/
def tableMoment (g g' : σ) : Moment σ κ :=
  ⟨.sent (.creation k) .createTable (d.createTableStatement env.dialect), g, g'⟩

/-- A creation: it is not asked for, or the table is refused, or the table is created and the
indexes follow. -/
inductive Created : Except MappingError Unit → List (Moment σ κ) → Prop
  | unasked (h : ¬ CreationAsked env d) : Created (.ok ()) []
  | refused (h : CreationAsked env d) {g g' : σ} {e : MappingError}
      (hask : env.engine.execute (d.createTableStatement env.dialect) g = (.error e, g')) :
      Created (.error (e.classify d.tableName))
        (creationWarnings env d g ++ [tableMoment env d g g'])
  | created (h : CreationAsked env d) {g g' : σ} {n : UInt64} {b : Except MappingError Unit}
      {hs : List (Moment σ κ)}
      (hask : env.engine.execute (d.createTableStatement env.dialect) g = (.ok n, g'))
      (hindexes : IndexesCreated env k d.tableName
        (d.indexes.map fun i => d.createIndexStatement i env.dialect) b hs) :
      Created b (creationWarnings env d g ++ tableMoment env d g g' :: hs)

end Cases

/-! ## The statement of one index -/

theorem run_discard_execute_of_error {e : MappingError}
    (hask : env.engine.execute st s.engine = (.error e, g)) (purpose : Purpose κ)
    (kind : StatementKind) (table : String) :
    (discard (execute env purpose kind table st)).run s =
      (.error (e.classify table), served s purpose kind st g) := by
  rw [run_discard, execute, run_send hask]
  rfl

theorem run_createIndex_of_tolerated {answer : Except MappingError UInt64}
    (hask : env.engine.execute st s.engine = (answer, g)) (h : Tolerated table answer) :
    (createIndex env k table st).run s = (.ok (), served s (.creation k) .createIndex st g) := by
  cases h with
  | created n =>
    rw [createIndex, run_tryCatch, run_discard, execute, run_send hask]
    rfl
  | existing he hmessage =>
    rw [createIndex, run_tryCatch, run_discard_execute_of_error hask]
    dsimp only
    rw [he]
    dsimp only
    rw [if_pos hmessage]
    rfl

theorem run_createIndex_of_not_tolerated {e : MappingError}
    (hask : env.engine.execute st s.engine = (.error e, g)) (h : ¬ Tolerated table (.error e)) :
    (createIndex env k table st).run s =
      (.error (e.classify table), served s (.creation k) .createIndex st g) := by
  rw [createIndex, run_tryCatch, run_discard_execute_of_error hask]
  dsimp only
  split
  · rename_i message he
    have hmessage : ¬ isAlreadyExistsMessage message = true :=
      fun hmessage => h (.existing he hmessage)
    rw [if_neg hmessage, he]
    rfl
  · rfl

/-- Whatever becomes of its failure, an index is asked for. -/
theorem snd_run_createIndex (k : ModelKey κ) (table : String) (st : Statement)
    (s : SessionState σ Obj) :
    ((createIndex env k table st).run s).2 =
      served s (.creation k) .createIndex st (env.engine.execute st s.engine).2 := by
  rcases hask : env.engine.execute st s.engine with ⟨answer, g⟩
  by_cases h : Tolerated table answer
  · rw [run_createIndex_of_tolerated hask h]
  · cases answer with
    | ok n => exact absurd (.created n) h
    | error e => rw [run_createIndex_of_not_tolerated hask h]

/-! ## The cases -/

theorem passes_createIndexes (h : s.registry.BuiltFrom env.schemaOf) (table : String)
    (sts : List Statement) :
    Passes env (createIndexes env k table sts) s (IndexesCreated env k table sts) := by
  have hkind : StatementKind.createIndex ≠ .select := nofun
  induction sts generalizing s with
  | nil => exact passes_pure h .done
  | cons st sts ih =>
    rcases hask : env.engine.execute st s.engine with ⟨answer, g⟩
    have hoccurs : Occurs env ⟨.sent (.creation k) .createIndex st, s.engine,
        (env.engine.execute st s.engine).2⟩ := .executed _ hkind st s.engine
    rw [hask] at hoccurs
    have hgoes := goes_served h hoccurs
    by_cases hanswer : Tolerated table answer
    · have hfirst : Passes env (createIndex env k table st) s fun b hs =>
          b = .ok () ∧ hs = [⟨.sent (.creation k) .createIndex st, s.engine, g⟩] :=
        passes_of_run (run_createIndex_of_tolerated hask hanswer) hgoes ⟨rfl, rfl⟩
      refine hfirst.bind (fun e hs h => nomatch h.1) ?_
      rintro _ t _ - hgoes' ⟨-, rfl⟩
      exact (ih hgoes'.built).mono fun b hs hrest => .next hask hanswer hrest
    · cases answer with
      | ok n => exact absurd (.created n) hanswer
      | error e =>
        have hrun := run_createIndex_of_not_tolerated (k := k) hask hanswer
        exact passes_of_run (run_bind_error hrun) hgoes (.refused hask hanswer)

/-- The cases of a creation, whatever the engine answers. -/
theorem passes_createIfAsked (h : s.registry.BuiltFrom env.schemaOf)
    (d : TableDefinition (ModelKey.Object Obj k)) :
    Passes env (createIfAsked env k d) s (Created env d) := by
  have hkind : StatementKind.createTable ≠ .select := nofun
  unfold createIfAsked
  by_cases hasked : CreationAsked env d
  · rw [if_pos (by rw [hasked.1, hasked.2]; rfl), create]
    have hwarn : Passes env (warn (d.createNotices env.dialect)) s fun b hs =>
        b = .ok () ∧ hs = creationWarnings env d s.engine := passes_warn h ⟨rfl, rfl⟩
    refine hwarn.bind (fun e hs h => nomatch h.1) ?_
    rintro _ t _ hrun hgoes ⟨-, rfl⟩
    have hengine : t.engine = s.engine := by
      cases hrun
      rfl
    have htable : Passes env (discard (execute env (.creation k) .createTable d.tableName
        (d.createTableStatement env.dialect))) t fun b hs => ∃ answer g,
          env.engine.execute (d.createTableStatement env.dialect) s.engine = (answer, g) ∧
          b = (answer.mapError (·.classify d.tableName)).map (fun _ => ()) ∧
          hs = [tableMoment env d s.engine g] := by
      refine (passes_execute hgoes.built hkind fun answer g hask => ?_).discard
      rw [hengine] at hask ⊢
      exact ⟨answer, g, hask, rfl, rfl⟩
    refine htable.bind ?_ ?_
    · rintro e _ ⟨answer, g, hask, hb, rfl⟩
      cases answer with
      | ok n => exact nomatch hb
      | error e' =>
        cases hb
        exact .refused hasked hask
    · rintro _ u _ - hgoes' ⟨answer, g, hask, hb, rfl⟩
      cases answer with
      | error e' => exact nomatch hb
      | ok n =>
        refine (passes_createIndexes hgoes'.built d.tableName _).mono fun b hs hindexes => ?_
        exact .created hasked hask hindexes
  · rw [if_neg]
    · exact passes_pure h (.unasked hasked)
    · rwa [Bool.and_eq_true]

/-! ## Nothing else happens -/

theorem creates_creationWarnings (d : TableDefinition (ModelKey.Object Obj k)) (g : σ) :
    ∀ m ∈ creationWarnings env d g, m.event.Creates k := by
  intro m hm
  obtain ⟨n, -, rfl⟩ := List.mem_map.mp hm
  exact .inr ⟨n, rfl⟩

theorem IndexesCreated.creates {sts : List Statement} (h : IndexesCreated env k table sts b hs) :
    ∀ m ∈ hs, m.event.Creates k := by
  induction h with
  | done => exact List.forall_mem_nil _
  | next _ _ _ ih => exact List.forall_mem_cons.mpr ⟨.inl rfl, ih⟩
  | refused => exact List.forall_mem_singleton.mpr (.inl rfl)

theorem Created.creates (h : Created env d b hs) : ∀ m ∈ hs, m.event.Creates k := by
  cases h with
  | unasked => exact List.forall_mem_nil _
  | refused =>
    exact List.forall_mem_append.mpr
      ⟨creates_creationWarnings d _, List.forall_mem_singleton.mpr (.inl rfl)⟩
  | created _ _ hindexes =>
    exact List.forall_mem_append.mpr
      ⟨creates_creationWarnings d _, List.forall_mem_cons.mpr ⟨.inl rfl, hindexes.creates⟩⟩

/-- A creation marks no model. -/
theorem not_marked_of_creates (h : ∀ m ∈ hs, m.event.Creates k) (k' : ModelKey κ) :
    ¬ Marked k' hs := by
  refine not_marked_of_forall fun m hm heq => ?_
  have hcreates := h m hm
  rw [heq] at hcreates
  rcases hcreates with hsent | ⟨n, hwarned⟩
  · exact hsent
  · exact nomatch hwarned

end Session
end TableMapping
