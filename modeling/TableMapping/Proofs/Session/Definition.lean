import TableMapping.Proofs.Model.RegistryCalls
import TableMapping.Proofs.Session.Run

/-!
# The definition of a model in a session

A preparation begins with the definition of its model.  Where the registry has one, that is the
answer, and nothing changes; otherwise one is built, and kept unless that fails.  No statement is
sent for it, and no model becomes prepared.

* `run_definition_of_find?`, `run_definition_of_none`: the two cases.
* `find?_of_run_definition`: a definition that is answered is known from then on.
* `run_prepareWith_of_mem`: a prepared model has its definition looked up, and nothing else.
* `run_prepare_opened`: the preparation that consists of the definition alone.
-/

namespace TableMapping

namespace Registry

variable {κ : Type} {Obj : Models κ}

/-- Every definition of the one registry is kept in the other. -/
def KeptIn (r r' : Registry Obj) : Prop :=
  ∀ k stored, r.find? k = some stored → r'.find? k = some stored

theorem KeptIn.refl (r : Registry Obj) : r.KeptIn r := fun _ _ h => h

theorem KeptIn.trans {r r' r'' : Registry Obj} (h : r.KeptIn r') (h' : r'.KeptIn r'') :
    r.KeptIn r'' :=
  fun k stored hk => h' k stored (h k stored hk)

theorem keptIn_insert [DecidableEq κ] {r : Registry Obj} {k : κ} (h : r.find? k = none)
    (stored : Stored (Obj k)) : r.KeptIn (r.insert k stored) :=
  fun _ _ hk => find?_insert_mono h hk

end Registry

namespace Session

open Runs

variable {σ κ : Type} {Obj : Models κ} {env : Environment σ Obj} {s t : SessionState σ Obj}
  {k : ModelKey κ} [DecidableEq κ]

theorem run_definition_of_find? {stored : Stored (ModelKey.Object Obj k)}
    (h : s.registry.find? k = some stored) :
    (definition env k).run s = (.ok stored.definition, s) := by
  have hmap : (mapping (s.registry.definition env.schemaOf k) : Session σ Obj _).run s =
      (.ok (stored, s.registry), s) := by
    rw [run_mapping, Registry.run_definition_of_find? h]
  unfold definition
  rw [run_bind_ok (run_get), run_bind_ok hmap]
  rfl

/-- A model without a definition gets one, unless its schema cannot be built. -/
theorem run_definition_of_none (h : s.registry.find? k = none) :
    (definition env k).run s =
      (match (env.schemaOf k).define s.ledger.builds with
        | .ok d => (.ok d, { s with
            ledger := { s.ledger with builds := s.ledger.builds + 1 },
            registry := s.registry.insert k ⟨s.ledger.builds, d⟩ })
        | .error e => (.error e, { s with
            ledger := { s.ledger with builds := s.ledger.builds + 1 } })) := by
  have hreg : (s.registry.definition env.schemaOf k).run s.ledger =
      (((env.schemaOf k).define s.ledger.builds).map fun d =>
        s.registry.insertIfNew k ⟨s.ledger.builds, d⟩,
          { s.ledger with builds := s.ledger.builds + 1 }) :=
    Registry.run_definition_of_none h
  unfold definition
  rw [run_bind_ok (run_get)]
  cases hd : (env.schemaOf k).define s.ledger.builds with
  | error e =>
    refine run_bind_error ?_
    rw [run_mapping, hreg, hd]
    rfl
  | ok d =>
    rw [hd] at hreg
    rw [run_bind_ok (by rw [run_mapping, hreg]; rfl)]
    simp only [Registry.insertIfNew, h]
    rfl

theorem prepared_eq_of_run_definition
    {b : Except MappingError (TableDefinition (ModelKey.Object Obj k))}
    (h : (definition env k).run s = (b, t)) : t.prepared = s.prepared := by
  cases hfind : s.registry.find? k with
  | some stored =>
    cases h.symm.trans (run_definition_of_find? hfind)
    rfl
  | none =>
    rw [run_definition_of_none hfind] at h
    split at h <;> cases h <;> rfl

/-- A definition that is answered is known from then on. -/
theorem find?_of_run_definition {d : TableDefinition (ModelKey.Object Obj k)}
    (hrun : (definition env k).run s = (.ok d, t)) :
    ∃ stored, t.registry.find? k = some stored ∧ stored.definition = d := by
  cases hfind : s.registry.find? k with
  | some stored =>
    rw [run_definition_of_find? hfind] at hrun
    cases hrun
    exact ⟨stored, hfind, rfl⟩
  | none =>
    rw [run_definition_of_none hfind] at hrun
    split at hrun
    · cases hrun
      exact ⟨_, Registry.find?_insert_self .., rfl⟩
    · exact nomatch hrun

/-- A prepared model has its definition looked up, and nothing else. -/
theorem run_prepareWith_of_mem
    (check : (k : ModelKey κ) → TableDefinition (ModelKey.Object Obj k) → Session σ Obj Unit)
    (hk : k ∈ s.prepared) : (prepareWith env check k).run s = (definition env k).run s := by
  rcases hrun : (definition env k).run s with ⟨e | d, t⟩
  · exact run_bind_error hrun
  · have hkt : k ∈ t.prepared := by
      rw [prepared_eq_of_run_definition hrun]
      exact hk
    unfold prepareWith
    rw [run_bind_ok hrun, run_bind_ok run_get, if_pos hkt]
    rfl

variable (env) in
/-- Where no table is to be created and nobody upgrades, a model is prepared by its definition
alone. -/
theorem run_prepare_opened {k : κ} {d : TableDefinition (Obj k)} (engine : σ)
    (hcreate : env.config.createTables = false) (hupgrader : env.upgrader = none)
    (hd : (env.schema k).define 0 = .ok d) :
    ∃ t, (prepare env (.model k)).run (.opened env engine) = (.ok d, t) ∧ t.engine = engine ∧
      t.ledger.calls = [] := by
  have hnone : (SessionState.opened env engine).registry.find? (.model k) = none := rfl
  have hbuild : (env.schemaOf (.model k)).define (SessionState.opened env engine).ledger.builds =
      .ok d := hd
  have hdef : ∃ s, (definition env (.model k)).run (.opened env engine) = (.ok d, s) ∧
      s.engine = engine ∧ s.ledger.calls = [] ∧ s.prepared = [] := by
    rw [run_definition_of_none hnone, hbuild]
    exact ⟨_, rfl, rfl, rfl, rfl⟩
  obtain ⟨s, hrun, hengine, hcalls, hprepared⟩ := hdef
  have hfresh : ModelKey.model k ∉ s.prepared := by
    rw [hprepared]
    exact List.not_mem_nil
  have hcreation : createIfAsked env (.model k) d = pure () := by
    rw [createIfAsked, hcreate, Bool.and_false, if_neg Bool.false_ne_true]
  have hcheck : versionCheck env (.model k) d = pure () := by
    rw [versionCheck, checkVersion, hupgrader]
  refine ⟨{ s with
    prepared := .model k :: s.prepared, trace := s.trace ++ [.prepared (.model k)] }, ?_, hengine,
    hcalls⟩
  unfold prepare prepareWith
  rw [run_bind_ok hrun, run_bind_ok run_get, if_neg hfresh, hcreation, hcheck]
  rfl

end Session
end TableMapping
