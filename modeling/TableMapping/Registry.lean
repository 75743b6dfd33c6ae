import TableMapping.Model.Definition

/-!
# The registry of definitions

A registry keeps the definition of every model that has been asked for.  A definition is
built when its model is first asked for; from then on everybody gets the same one.  A build
that fails leaves the registry as it was.

Models are told apart by a key.  `Models` gives every key the type of its objects.
-/

namespace TableMapping

/-- A family of models: the type of the objects behind each key. -/
abbrev Models (κ : Type) := κ → Type

/-- A definition in a registry. -/
structure Stored (M : Type) where
  /-- The number of the build it comes from. -/
  build : Nat
  definition : TableDefinition M

/-- The definitions that have been stored. -/
structure Registry {κ : Type} (Obj : Models κ) where
  /-- The stored definition of each model. -/
  find? : (k : κ) → Option (Stored (Obj k))
  /-- The models with a stored definition, the latest first. -/
  keys : List κ

namespace Registry

variable {κ : Type} {Obj : Models κ}

/-- The registry without definitions. -/
def empty : Registry Obj := ⟨fun _ => none, []⟩

/-- Whether a model has a stored definition. -/
def contains (r : Registry Obj) (k : κ) : Bool :=
  (r.find? k).isSome

/-- The number of stored definitions. -/
def size (r : Registry Obj) : Nat :=
  r.keys.length

/-- Whether nothing is stored. -/
def isEmpty (r : Registry Obj) : Bool :=
  r.size == 0

/-- Store a definition for a model that has none. -/
def insert [DecidableEq κ] (r : Registry Obj) (k : κ) (s : Stored (Obj k)) : Registry Obj :=
  ⟨fun k' => if h : k = k' then some (h ▸ s) else r.find? k', k :: r.keys⟩

/-- Store a definition unless the model has one, and give the stored one. -/
def insertIfNew [DecidableEq κ] (r : Registry Obj) (k : κ) (s : Stored (Obj k)) :
    Stored (Obj k) × Registry Obj :=
  match r.find? k with
  | some old => (old, r)
  | none => (s, r.insert k s)

@[simp] theorem find?_insert_self [DecidableEq κ] (r : Registry Obj) (k : κ) (s : Stored (Obj k)) :
    (r.insert k s).find? k = some s := by
  simp [insert]

theorem find?_insert_of_ne [DecidableEq κ] (r : Registry Obj) {k k' : κ} (s : Stored (Obj k))
    (h : k ≠ k') : (r.insert k s).find? k' = r.find? k' := by
  simp [insert, h]

/-- What is stored after an insertion was stored before, or is what was inserted. -/
theorem find?_insert_cases [DecidableEq κ] {r : Registry Obj} {k k' : κ} {s : Stored (Obj k)}
    {s' : Stored (Obj k')} (h : (r.insert k s).find? k' = some s') :
    r.find? k' = some s' ∨ (⟨k', s'⟩ : (k : κ) × Stored (Obj k)) = ⟨k, s⟩ := by
  by_cases hkey : k = k'
  · subst hkey
    cases (find?_insert_self r k s).symm.trans h
    exact .inr rfl
  · exact .inl ((find?_insert_of_ne r s hkey).symm.trans h)

/-- The definition of a model: the stored one, or else a new one, which is then stored. -/
def definition [DecidableEq κ] (schema : (k : κ) → ModelSchema (Obj k)) (r : Registry Obj) (k : κ) :
    Mapping (Stored (Obj k) × Registry Obj) :=
  match r.find? k with
  | some s => pure (s, r)
  | none => do
    let build ← Mapping.nextBuild
    let d ← Mapping.ofExcept ((schema k).define build)
    return r.insertIfNew k ⟨build, d⟩

end Registry
end TableMapping
