import TableMapping.Proofs.Session.StoredVersions

/-!
# Stored versions over many sessions

The records of a database are seen by one session after the other, each with models and versions
of its own.  A session does not know of the others; what they have in common is the state of the
engine.

* `SessionPlan`, `runAll`: sessions that are held one after the other.
* `Sound`: the engine keeps the version records, and only version checks write to them.
* `runAll_keepsVersions`: what holds at every moment of every session.
-/

namespace TableMapping

/-- A session that is to be held over the state that the sessions before it leave. -/
structure SessionPlan (σ : Type) where
  Key : Type
  keys : DecidableEq Key
  Obj : Models Key
  env : Environment σ Obj
  ledger : Ledger
  registry : Registry (ModelKey.Object Obj)
  operations : List (Operation Obj)

namespace SessionPlan

open Session VersionRecord Value

variable {σ : Type}

instance (p : SessionPlan σ) : DecidableEq p.Key := p.keys

/-- The session when it is opened. -/
def opened (p : SessionPlan σ) (g : σ) : SessionState σ p.Obj :=
  .openedOver p.env g p.ledger p.registry

/-- The session after its operations. -/
def closed (p : SessionPlan σ) (g : σ) : SessionState σ p.Obj :=
  Operation.performAll p.env p.operations (p.opened g)

/-- The state of the engine after sessions one after the other. -/
def runAll : List (SessionPlan σ) → σ → σ
  | [], g => g
  | p :: ps, g => runAll ps (p.closed g).engine

/-- The session keeps version records: its registry holds definitions of its own models, its
engine runs the statements of version checks by their meaning, and it sends no other statement
that changes version records. -/
structure Sound (p : SessionPlan σ) (records : σ → Multiset VersionRecord) (g : σ) : Prop where
  built : p.registry.BuiltFrom p.env.schemaOf
  keeps : KeepsVersions p.env records
  writes : OnlyChecksWrite p.env records (p.closed g).trace

theorem Sound.allKept {p : SessionPlan σ} {records : σ → Multiset VersionRecord} {g : σ}
    (h : p.Sound records g) (hunique : UniqueRecords (records g)) :
    ∃ hs, Goes p.env hs (p.opened g) (p.closed g) ∧ AllKept p.env records [] hs ∧
      UniqueRecords (records (p.closed g).engine) := by
  obtain ⟨hs, hgoes, hconduct⟩ : ∃ hs, Goes p.env hs (p.opened g) (p.closed g) ∧
      Conduct p.env hs := goes_performAll g p.ledger h.built p.operations
  have hwrites := h.writes
  rw [hgoes.trace] at hwrites
  have hkept : AllKept p.env records [] hs :=
    hconduct.allKept h.keeps hwrites.of_append.2 hgoes.course hunique
  exact ⟨hs, hgoes, hkept, hkept.unique hgoes.course hunique⟩

/-- Over any sequence of sessions with models of any versions, and whatever their upgraders
answer: a table has one record at most, whose version never decreases and changes only to what is
asked for after none was found or after a successful upgrade, and every upgrade starts from the
stored version. -/
theorem runAll_keepsVersions {records : σ → Multiset VersionRecord} {g : σ}
    {plans : List (SessionPlan σ)} (hunique : UniqueRecords (records g))
    (hsound : ∀ earlier p later, plans = earlier ++ p :: later →
      p.Sound records (runAll earlier g)) :
    (∀ earlier p later, plans = earlier ++ p :: later →
      ∃ hs, Goes p.env hs (p.opened (runAll earlier g)) (p.closed (runAll earlier g)) ∧
        AllKept p.env records [] hs) ∧
      UniqueRecords (records (runAll plans g)) := by
  induction plans generalizing g with
  | nil =>
    refine ⟨fun earlier p later h => ?_, hunique⟩
    exact absurd h (List.append_ne_nil_of_right_ne_nil earlier (List.cons_ne_nil p later)).symm
  | cons q plans ih =>
    obtain ⟨hs, hgoes, hkept, hunique'⟩ := (hsound [] q plans rfl).allKept hunique
    obtain ⟨hrest, hlast⟩ := ih hunique' fun earlier p later h =>
      hsound (q :: earlier) p later (congrArg (q :: ·) h)
    refine ⟨fun earlier p later h => ?_, hlast⟩
    rcases List.cons_eq_append_iff.mp h with ⟨rfl, hfirst⟩ | ⟨earlier', rfl, hrest'⟩
    · cases hfirst
      exact ⟨hs, hgoes, hkept⟩
    · exact hrest earlier' p later hrest'

/-! ## A list of records -/

/-- The row of a record. -/
def toRow (r : VersionRecord) : Row :=
  [.text r.schemaName, .text r.tableName, .of (.int r.version)]

theorem ofRow?_toRow (r : VersionRecord) : ofRow? (toRow r) = some r := by
  have hversion : Storable.read? Int32 (.of (.int r.version)) = some r.version := by
    rw [Storable.read?]
    show ((Value.of (.int r.version)).coerce .int).toOption.bind _ = _
    rw [coerce_int]
    rfl
  have htext : ∀ s : String, Storable.read? String (.text s) = some s := fun _ => rfl
  rw [toRow, ofRow?, htext, htext, hversion]
  rfl

theorem mapM_ofRow?_toRow (rs : List VersionRecord) : (rs.map toRow).mapM ofRow? = some rs := by
  induction rs with
  | nil => rfl
  | cons r rs ih =>
    rw [List.map_cons, List.mapM_cons, ofRow?_toRow, ih]
    rfl

/-- An engine that holds version records in a list. -/
def recordEngine : Engine (List VersionRecord) where
  product := "H2"
  execute st g :=
    if st.sql = (insertion .h2 blank).sql then
      match st.params with
      | [.of (.string s), .of (.string t), .of (.int v)] => (.ok 1, ⟨s, t, v⟩ :: g)
      | _ => (.ok 0, g)
    else if st.sql = (advance .h2 blank).sql then
      match st.params with
      | [.of (.int v), .of (.string s), .of (.string t)] =>
        (.ok 1, g.map fun r => if IsOf s t r then ⟨s, t, v⟩ else r)
      | _ => (.ok 0, g)
    else (.ok 0, g)
  insert _ g := (.ok 0, g)
  query st g :=
    match st.params with
    | [.of (.string s), .of (.string t)] => (.ok ((g.filter fun r => IsOf s t r).map toRow), g)
    | _ => (.ok [], g)

/-- The records that the engine holds. -/
def held (g : List VersionRecord) : Multiset VersionRecord := g

/-- A session for widgets in some version, with upgrades that succeed. -/
def widgetPlan (version : Int32) : SessionPlan (List VersionRecord) where
  Key := Unit
  keys := inferInstance
  Obj _ := Unit
  env := {
    engine := recordEngine
    schema := fun _ => (ModelSchema.named "Widget" ()).withVersion version
    config := { createTables := false }
    upgrader := some fun _ g => (.ok true, g) }
  ledger := .start
  registry := .empty
  operations := [.createTable (.model ())]

theorem dialect_widgetPlan (version : Int32) : (widgetPlan version).env.dialect = .h2 := by
  show Dialect.detect "H2" = .h2
  decide +kernel

theorem query_lookup (schema table : String) (g : List VersionRecord) :
    recordEngine.query (VersionRecord.lookup .h2 schema table) g =
      (.ok ((g.filter fun r => IsOf schema table r).map toRow), g) := rfl

theorem execute_insertion (r : VersionRecord) (g : List VersionRecord) :
    recordEngine.execute (insertion .h2 r) g = (.ok 1, r :: g) := by
  have hsql : (insertion .h2 r).sql = (insertion .h2 blank).sql := rfl
  unfold recordEngine
  dsimp only
  rw [if_pos hsql]
  rfl

theorem execute_advance (r : VersionRecord) (g : List VersionRecord) :
    recordEngine.execute (advance .h2 r) g =
      (.ok 1, g.map fun r' => if IsOf r.schemaName r.tableName r' then r else r') := by
  have hinsertion : (advance .h2 r).sql ≠ (insertion .h2 blank).sql := by
    show (advance .h2 blank).sql ≠ _
    decide
  have hsql : (advance .h2 r).sql = (advance .h2 blank).sql := rfl
  unfold recordEngine
  dsimp only
  rw [if_neg hinsertion, if_pos hsql]
  rfl

theorem keepsVersions_widgetPlan (version : Int32) :
    KeepsVersions (widgetPlan version).env held where
  lookup {schema table g rows g'} hask := by
    rw [dialect_widgetPlan] at hask
    cases (query_lookup schema table g).symm.trans hask
    refine ⟨_, mapM_ofRow?_toRow _, ?_⟩
    rw [ofTable, held, Multiset.filter_coe]
  query st g := by
    show held (recordEngine.query st g).2 = held g
    unfold recordEngine
    dsimp only
    split <;> rfl
  insertion r g := by
    rw [dialect_widgetPlan]
    refine .inl ?_
    show held (recordEngine.execute (VersionRecord.insertion .h2 r) g).2 = _
    rw [execute_insertion]
    rfl
  advance r g := by
    rw [dialect_widgetPlan]
    refine .inl ?_
    show held (recordEngine.execute (VersionRecord.advance .h2 r) g).2 = _
    rw [execute_advance]
    rfl
  upgrader h u g := by
    cases h
    rfl

/-- Not a statement that is sent for anything but a version check. -/
def isCheckOrNote {κ : Type} : Event κ → Bool
  | .sent (.versionCheck _) _ _ => true
  | .sent .. => false
  | _ => true

theorem sound_widgetPlan {version : Int32} {g : List VersionRecord}
    (h : ((widgetPlan version).closed g).trace.all isCheckOrNote = true) :
    (widgetPlan version).Sound held g where
  built := Registry.builtFrom_empty
  keeps := keepsVersions_widgetPlan version
  writes p kind st hmem hp := by
    have hcheck := List.all_eq_true.mp h _ hmem
    cases p with
    | versionCheck k => exact absurd rfl (hp k)
    | _ => exact nomatch hcheck

/-- Widgets in their first version, and then in their second. -/
theorem runAll_keepsVersions_widgets :
    UniqueRecords (held []) ∧
      (∀ earlier p later, [widgetPlan 1, widgetPlan 2] = earlier ++ p :: later →
        p.Sound held (runAll earlier [])) ∧
      (∀ earlier p later, [widgetPlan 1, widgetPlan 2] = earlier ++ p :: later →
        ∃ hs, Goes p.env hs (p.opened (runAll earlier [])) (p.closed (runAll earlier [])) ∧
          AllKept p.env held [] hs) ∧
      UniqueRecords (held (runAll [widgetPlan 1, widgetPlan 2] [])) := by
  have hunique : UniqueRecords (held []) := fun _ _ => Nat.zero_le 1
  have hsound : ∀ earlier p later, [widgetPlan 1, widgetPlan 2] = earlier ++ p :: later →
      p.Sound held (runAll earlier []) := by
    intro earlier p later h
    rcases List.cons_eq_append_iff.mp h with ⟨rfl, hfirst⟩ | ⟨earlier₁, rfl, h₁⟩
    · cases hfirst
      exact sound_widgetPlan (by decide +kernel)
    · rcases List.cons_eq_append_iff.mp h₁ with ⟨rfl, hfirst⟩ | ⟨earlier₂, -, h₂⟩
      · cases hfirst
        exact sound_widgetPlan (by decide +kernel)
      · exact absurd h₂ (List.append_ne_nil_of_right_ne_nil _ (List.cons_ne_nil p later)).symm
  exact ⟨hunique, hsound, runAll_keepsVersions hunique hsound⟩

example : runAll [widgetPlan 1, widgetPlan 2] [] = [⟨"", "Widget", 2⟩] := by decide +kernel

end SessionPlan
end TableMapping
