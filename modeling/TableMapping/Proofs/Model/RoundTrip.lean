import TableMapping.Proofs.Model.FieldForm
import TableMapping.Sql.Write

/-!
# Objects through their rows

An object is written to a row field by field and read back into the blank object of its model.
Reading copies the mapped fields of the object and leaves the others as they are.

* `MappedField.run_setValue`: one field.  What was stored for an object sets the value that the
  object has.
* `ModelSchema.Columns`: which columns belong to which declared fields, and
  `ModelSchema.columns_define`, the columns of a definition.
* `ModelSchema.run_readInto`: all fields, one after the other.
* `ModelSchema.get_copy`: accessors that are independent of one another see one copied field each.
* `ModelSchema.run_readRow_storedValues`: the object that the row of another one's stored values
  holds.
-/

namespace TableMapping

/-- A declared field of a model, with the accessors it is declared with. -/
structure DeclaredField (M : Type) where
  spec : FieldSpec M
  Carried : Type
  form : FieldForm Carried
  get : M → Carried
  set : Carried → M → M
  declared : spec.Declared form get set

/-! ## One field -/

namespace MappedField

variable {M : Type} {f : MappedField M} {a : DeclaredField M} {o : M} {raw : Value}
  {l l₁ l₂ : Ledger}

/-- A column is that of a declared field. -/
structure IsOf (f : MappedField M) (a : DeclaredField M) : Prop where
  fieldType : f.fieldType = a.spec.fieldType
  get : f.get = a.spec.get
  set : f.set = a.spec.set

/-- The conversions of a field undo one another for what the field of an object holds. -/
def Keeps (f : MappedField M) (o : M) : Prop :=
  ∀ x, f.get o = .ok x → f.toColumn.Keeps x

theorem run_storageValue {x : FieldValue} (h : f.get o = .ok x) :
    (f.storageValue o).run l = (f.toStorage x).run l := by
  have hget : (Mapping.ofExcept (f.get o)).run l = (.ok x, l) := by
    rw [h, Mapping.run_ofExcept]
  exact Runs.run_bind_ok hget

theorem get_of_run_storageValue (h : (f.storageValue o).run l = (.ok raw, l₁)) :
    ∃ x, f.get o = .ok x ∧ (f.toStorage x).run l = (.ok raw, l₁) := by
  obtain ⟨x, l', hget, hstore⟩ := Runs.run_bind_eq_ok.mp h
  rw [Mapping.run_ofExcept] at hget
  have hx : f.get o = .ok x := congrArg Prod.fst hget
  exact ⟨x, hx, by rw [← run_storageValue hx]; exact h⟩

theorem calls_suffix_storageValue (h : (f.storageValue o).run l = (.ok raw, l₁)) :
    l.calls <:+ l₁.calls := by
  obtain ⟨x, -, hstore⟩ := get_of_run_storageValue h
  have hsuffix := f.calls_suffix_toStorage x l
  rw [hstore] at hsuffix
  exact hsuffix

/-- What was stored for an object sets, in any object, the value that the object has. -/
theorem run_setValue (hf : f.IsOf a) (hkeeps : f.Keeps o) (hundoes : a.form.Undoes (a.get o))
    (h : (f.storageValue o).run l = (.ok raw, l₁)) (hl : l₁.calls <:+ l₂.calls) (m : M) :
    ∃ l₃, (f.setValue m raw).run l₂ = (.ok (a.set (a.get o) m), l₃) ∧
      l₂.calls <:+ l₃.calls := by
  obtain ⟨x, hget, hstore⟩ := get_of_run_storageValue h
  have hwrite : a.form.write a.spec.name (a.get o) = .ok x := by
    rw [← a.declared.get_eq, ← hf.get, hget]
  have htype : x.HasType f.fieldType := by
    rw [hf.fieldType, a.declared.fieldType_eq]
    exact FieldForm.hasType hwrite
  obtain ⟨l₃, hread, hl₃⟩ := Column.run_fromStorage htype (hkeeps x hget) hstore hl
  refine ⟨l₃, ?_, hl₃⟩
  have hset : f.set x m = .ok (a.set (a.get o) m) := by
    rw [hf.set, a.declared.set_eq hwrite hundoes]
  have hrun : (f.setValue m raw).run l₂ = (Mapping.ofExcept (f.set x m)).run l₃ :=
    Runs.run_bind_ok hread
  rw [hrun, hset, Mapping.run_ofExcept]

end MappedField

/-! ## The columns of a definition -/

namespace ModelSchema

variable {M : Type} {s : ModelSchema M} {o m : M}

theorem isMapped_succ {index i : Nat} {f : FieldSpec M} (h : s.isMapped (index + 1 + i) f = true) :
    s.isMapped (index + (i + 1)) f = true := by
  rwa [← Nat.add_assoc, Nat.add_right_comm]

/-- The columns of the declared fields from position `index` on: one for each mapped field, in
order. -/
inductive Columns (s : ModelSchema M) : Nat → List (DeclaredField M) → List (MappedField M) → Prop
  | nil {index : Nat} : Columns s index [] []
  | mapped {index : Nat} {a : DeclaredField M} {as : List (DeclaredField M)} {f : MappedField M}
      {fields : List (MappedField M)} (h : s.isMapped index a.spec = true) (hf : f.IsOf a)
      (rest : Columns s (index + 1) as fields) : Columns s index (a :: as) (f :: fields)
  | skipped {index : Nat} {a : DeclaredField M} {as : List (DeclaredField M)}
      {fields : List (MappedField M)} (h : s.isMapped index a.spec = false)
      (rest : Columns s (index + 1) as fields) : Columns s index (a :: as) fields

theorem isOf_mapField {build index : Nat} {a : DeclaredField M} {f : MappedField M}
    (h : s.mapField build index a.spec = .ok f) : f.IsOf a := by
  obtain ⟨dataType, -, heq⟩ := Runs.bind_eq_ok.mp h
  cases Except.ok.inj heq
  exact ⟨rfl, rfl, rfl⟩

theorem columns_mapFields {build : Nat} {as : List (DeclaredField M)} {index : Nat}
    {earlier fields : List (MappedField M)}
    (h : s.mapFields build index earlier (as.map (·.spec)) = .ok fields) :
    ∃ rest, fields = earlier ++ rest ∧ s.Columns index as rest := by
  induction as generalizing index earlier with
  | nil =>
    cases Except.ok.inj h
    exact ⟨[], (List.append_nil _).symm, .nil⟩
  | cons a as ih =>
    rw [List.map_cons, mapFields] at h
    split at h
    · rename_i hmapped
      obtain ⟨f, hfield, hrest⟩ := Runs.bind_eq_ok.mp h
      split at hrest
      · exact nomatch hrest
      · obtain ⟨rest, heq, hcolumns⟩ := ih hrest
        refine ⟨f :: rest, ?_, .mapped hmapped (isOf_mapField hfield) hcolumns⟩
        rw [heq, List.append_assoc, List.singleton_append]
    · rename_i hmapped
      obtain ⟨rest, hrest, hcolumns⟩ := ih h
      exact ⟨rest, hrest, .skipped (Bool.eq_false_iff.mpr hmapped) hcolumns⟩

/-- The key flags do not matter. -/
theorem Columns.map_flagKey {as : List (DeclaredField M)} {index : Nat}
    {fields : List (MappedField M)} (h : s.Columns index as fields) (key : List String) :
    s.Columns index as (fields.map (flagKey key)) := by
  induction h with
  | nil => exact .nil
  | mapped h hf _ ih => exact .mapped h ⟨hf.fieldType, hf.get, hf.set⟩ ih
  | skipped h _ ih => exact .skipped h ih

/-- The columns of a definition are those of the declared fields, and its rows are read into the
blank object of the schema. -/
theorem columns_define {build : Nat} {as : List (DeclaredField M)} {d : TableDefinition M}
    (hs : s.declaredFields = as.map (·.spec)) (hd : s.define build = .ok d) :
    s.Columns 0 as d.fields ∧ d.blank = s.blank := by
  rw [define, hs] at hd
  obtain ⟨mapped, hmapped, hd⟩ := Runs.bind_eq_ok.mp hd
  obtain ⟨key, -, hd⟩ := Runs.bind_eq_ok.mp hd
  obtain ⟨indexes, -, hd⟩ := Runs.bind_eq_ok.mp hd
  cases Except.ok.inj hd
  obtain ⟨rest, hrest, hcolumns⟩ := columns_mapFields hmapped
  rw [List.nil_append] at hrest
  rw [hrest]
  exact ⟨hcolumns.map_flagKey key, rfl⟩

/-! ## All fields -/

/-- Copy the mapped fields of an object, from position `index` on, into another. -/
def copy (s : ModelSchema M) (o : M) : Nat → List (DeclaredField M) → M → M
  | _, [], m => m
  | index, a :: as, m =>
    s.copy o (index + 1) as (if s.isMapped index a.spec then a.set (a.get o) m else m)

theorem calls_suffix_storedValues {fields : List (MappedField M)}
    {fvs : List (MappedField M × Value)} {l l₁ : Ledger}
    (h : (TableDefinition.storedValues o fields).run l = (.ok fvs, l₁)) :
    l.calls <:+ l₁.calls := by
  induction fields generalizing l l₁ fvs with
  | nil =>
    cases h
    exact List.suffix_rfl
  | cons f fields ih =>
    obtain ⟨raw, l', hstore, hrest⟩ := Runs.run_bind_eq_ok.mp h
    obtain ⟨rest, l'', hrest, hpure⟩ := Runs.run_bind_eq_ok.mp hrest
    cases hpure
    exact (MappedField.calls_suffix_storageValue hstore).trans (ih hrest)

/-- Reading the stored values of an object copies its mapped fields. -/
theorem run_readInto {as : List (DeclaredField M)} {index : Nat}
    {fields : List (MappedField M)} (h : s.Columns index as fields)
    (hkeeps : ∀ f ∈ fields, f.Keeps o)
    (hundoes : ∀ i a, as[i]? = some a → s.isMapped (index + i) a.spec →
      a.form.Undoes (a.get o))
    {fvs : List (MappedField M × Value)} {l l₁ l₂ : Ledger}
    (hstore : (TableDefinition.storedValues o fields).run l = (.ok fvs, l₁))
    (hl : l₁.calls <:+ l₂.calls) (m : M) :
    ∃ l₃, (TableDefinition.readInto m fields (fvs.map (·.2))).run l₂ =
      (.ok (s.copy o index as m), l₃) := by
  -- the ledger only grows, so every field is read back with at least the calls it was stored with
  induction h generalizing l l₂ fvs m with
  | nil =>
    cases hstore
    exact ⟨l₂, rfl⟩
  | @mapped index a as f fields hmapped hf _ ih =>
    obtain ⟨raw, l', hraw, hrest⟩ := Runs.run_bind_eq_ok.mp hstore
    obtain ⟨rest, l'', hrest, hpure⟩ := Runs.run_bind_eq_ok.mp hrest
    cases hpure
    have hl' : l'.calls <:+ l₂.calls := (calls_suffix_storedValues hrest).trans hl
    obtain ⟨l₃, hset, hl₃⟩ := MappedField.run_setValue hf (hkeeps f List.mem_cons_self)
      (hundoes 0 a rfl hmapped) hraw hl' m
    obtain ⟨l₄, hread⟩ := ih (fun g hg => hkeeps g (List.mem_cons_of_mem f hg))
      (fun i b hi hb => hundoes (i + 1) b hi (isMapped_succ hb))
      hrest (hl.trans hl₃) (a.set (a.get o) m)
    refine ⟨l₄, ?_⟩
    rw [copy, if_pos hmapped, ← hread]
    exact Runs.run_bind_ok hset
  | @skipped index a as fields hskipped _ ih =>
    obtain ⟨l₃, hread⟩ := ih hkeeps
      (fun i b hi hb => hundoes (i + 1) b hi (isMapped_succ hb))
      hstore hl m
    refine ⟨l₃, ?_⟩
    rw [copy, if_neg (Bool.eq_false_iff.mp hskipped), hread]

/-! ## Independent accessors -/

/-- Among the declared fields from position `index` on, the setter of a mapped field writes what
its getter reads, and leaves the other fields as they are. -/
structure Independent (s : ModelSchema M) (index : Nat) (as : List (DeclaredField M)) : Prop where
  get_set : ∀ i a, as[i]? = some a → s.isMapped (index + i) a.spec →
    ∀ x m, a.get (a.set x m) = x
  get_set_ne : ∀ i j a b, as[i]? = some a → as[j]? = some b → i ≠ j →
    s.isMapped (index + i) a.spec → ∀ x m, b.get (a.set x m) = b.get m

theorem Independent.tail {a : DeclaredField M} {as : List (DeclaredField M)} {index : Nat}
    (h : s.Independent index (a :: as)) : s.Independent (index + 1) as where
  get_set i b hi hb := h.get_set (i + 1) b hi (isMapped_succ hb)
  get_set_ne i j b c hi hj hne hb :=
    h.get_set_ne (i + 1) (j + 1) b c hi hj (fun heq => hne (Nat.succ.inj heq))
      (isMapped_succ hb)

/-- What no setter of a mapped field touches is not changed. -/
theorem copy_frame {V : Type} {q : M → V} {as : List (DeclaredField M)} {index : Nat}
    (h : ∀ i a, as[i]? = some a → s.isMapped (index + i) a.spec → ∀ x m, q (a.set x m) = q m)
    (m : M) : q (s.copy o index as m) = q m := by
  induction as generalizing index m with
  | nil => rfl
  | cons a as ih =>
    rw [copy, ih fun i b hi hb => h (i + 1) b hi (isMapped_succ hb)]
    split
    · rename_i hmapped
      exact h 0 a rfl hmapped _ m
    · rfl

/-- Each mapped field is copied, and each other field stays as it was. -/
theorem get_copy {as : List (DeclaredField M)} {index : Nat} (h : s.Independent index as)
    {i : Nat} {a : DeclaredField M} (hi : as[i]? = some a) (m : M) :
    a.get (s.copy o index as m) =
      if s.isMapped (index + i) a.spec then a.get o else a.get m := by
  induction as generalizing index i m with
  | nil => exact nomatch hi
  | cons b as ih =>
    rw [copy]
    cases i with
    | zero =>
      cases hi
      -- the later fields leave this one alone
      rw [copy_frame fun j c hj hc => h.get_set_ne (j + 1) 0 c a hj rfl (Nat.succ_ne_zero j)
        (isMapped_succ hc)]
      rw [Nat.add_zero]
      split
      · rename_i hmapped
        exact h.get_set 0 a rfl hmapped _ m
      · rfl
    | succ i =>
      rw [ih h.tail hi, Nat.add_right_comm, Nat.add_assoc]
      split
      · rfl
      · split
        · rename_i hmapped
          exact h.get_set_ne 0 (i + 1) b a rfl hi (Nat.succ_ne_zero i).symm hmapped _ m
        · rfl

/-! ## The round trip -/

/-- The row of the stored values of an object is read, at any later time, as an object that has
the mapped fields of the first and is blank in all else. -/
theorem run_readRow_storedValues {fs : List (DeclaredField M)} {build : Nat}
    {d : TableDefinition M} (hs : s.declaredFields = fs.map (·.spec))
    (hd : s.define build = .ok d) (hindependent : s.Independent 0 fs)
    (hkeeps : ∀ f ∈ d.fields, f.Keeps o)
    (hundoes : ∀ i a, fs[i]? = some a → s.isMapped i a.spec → a.form.Undoes (a.get o))
    {fvs : List (MappedField M × Value)} {l l₁ l₂ : Ledger}
    (hstore : (TableDefinition.storedValues o d.fields).run l = (.ok fvs, l₁))
    (hl : l₁.calls <:+ l₂.calls) :
    ∃ m l₃, (d.readRow (fvs.map (·.2))).run l₂ = (.ok m, l₃) ∧
      (∀ i a, fs[i]? = some a →
        a.get m = if s.isMapped i a.spec then a.get o else a.get s.blank) ∧
      ∀ (V : Type) (q : M → V),
        (∀ i a, fs[i]? = some a → s.isMapped i a.spec → ∀ x m, q (a.set x m) = q m) →
          q m = q s.blank := by
  obtain ⟨hcolumns, hblank⟩ := columns_define hs hd
  obtain ⟨l₃, hread⟩ := run_readInto hcolumns hkeeps
    (fun i a hi ha => hundoes i a hi (by rwa [Nat.zero_add] at ha)) hstore hl d.blank
  refine ⟨s.copy o 0 fs s.blank, l₃, ?_, fun i a hi => ?_, fun V q hq => ?_⟩
  · rw [← hblank]
    exact hread
  · rw [get_copy hindependent hi, Nat.zero_add]
  · exact copy_frame (fun i a hi ha => hq i a hi (by rwa [Nat.zero_add] at ha)) s.blank

/-! ### A note -/

/-- A note: its text, whether it is pinned, and whether it is a draft. -/
structure Note where
  text : String
  pinned : Bool
  draft : Bool

/-- A flag as one of two members. -/
def pinning : EnumerationType Bool where
  enumeration := ⟨"Pinning", none, [⟨"Loose", none⟩, ⟨"Pinned", none⟩]⟩
  ordinal b := b.toNat
  ofOrdinal? n := if n < 2 then some (n == 1) else none

/-- Stores the two members as truth values. -/
def pinningAdapter : Adapter :=
  .stateless "BOOLEAN"
    (fun
      | .of (.string s) => .ok (.of (.bool (s == "Pinned")))
      | v => .ok v)
    (fun
      | .of (.bool b) => .ok (.text (if b then "Pinned" else "Loose"))
      | v => .ok v)

def noteText : DeclaredField Note :=
  ⟨_, String, .value (.base .string), Note.text, fun x m => { m with text := x },
    (FieldSpec.Declared.value _ "text" _ _).withColumn { length := 8, trim := true }⟩

/-- Drafts have no column. -/
def noteDraft : DeclaredField Note :=
  ⟨_, Bool, .value (.base .bool), Note.draft, fun x m => { m with draft := x },
    .value _ "draft" _ _⟩

/-- The field of the parent, which is the flag itself. -/
def parentPinned : DeclaredField Bool :=
  ⟨_, Bool, .enumeration pinning, id, fun x _ => x,
    (((FieldSpec.Declared.enumeration pinning "pinned" _ _).withAdapter
      pinningAdapter).withColumn {})⟩

def notePinned : DeclaredField Note :=
  ⟨_, Bool, .enumeration pinning, Note.pinned, fun x m => { m with pinned := x },
    parentPinned.declared.lift Note.pinned fun b m => { m with pinned := b }⟩

/-- Notes inherit the column of their parent. -/
def noteSchema : ModelSchema Note :=
  let own := ((named "Note" ⟨"", false, false⟩).withTable { inheritColumns := true }).addField
    noteText.spec
  (own.addField noteDraft.spec).inherit ((named "Pin" false).addField parentPinned.spec)
    Note.pinned fun b m => { m with pinned := b }

def noteColumn (a : DeclaredField Note) (name dataType : String) (length index : Nat) :
    MappedField Note where
  columnName := name
  fieldName := name
  fieldType := a.spec.fieldType
  dataType := dataType
  maxLength := length
  isPrimaryKey := false
  isAutoIncrement := false
  trim := decide (0 < length)
  allowNull := true
  defaultValue := none
  encoding := encodingOf a.spec
  declaredIndex := index
  build := 0
  adapter := a.spec.adapter
  get := a.spec.get
  set := a.spec.set

def textColumn : MappedField Note :=
  noteColumn noteText "text" "VARCHAR" 8 0

def pinnedColumn : MappedField Note :=
  noteColumn notePinned "pinned" "BOOLEAN" 0 2

theorem define_noteSchema :
    ∃ d : TableDefinition Note,
      noteSchema.define 0 = .ok d ∧ d.fields = [textColumn, pinnedColumn] := by
  have hname : Text.sameName "text" "pinned" = false := by
    rw [Text.sameName_eq_decide]
    decide
  have hmapped : noteSchema.mapFields 0 0 [] noteSchema.declaredFields =
      .ok [textColumn, pinnedColumn] := by
    show (if (Text.sameName "text" "pinned" || false) = true then throw _ else _) = _
    rw [hname]
    rfl
  rw [define, hmapped]
  exact ⟨_, rfl, rfl⟩

theorem independent_noteSchema : noteSchema.Independent 0 [noteText, noteDraft, notePinned] where
  get_set i a hi _ x m := by
    rcases i with _ | _ | _ | i <;> cases hi <;> rfl
  get_set_ne i j a b hi hj hne _ x m := by
    rcases i with _ | _ | _ | i <;> cases hi <;> rcases j with _ | _ | _ | j <;> cases hj <;>
      first | rfl | exact absurd rfl hne

theorem undoes_pinningAdapter : pinningAdapter.Undoes (.text "Pinned") := by
  intro h h' v' hserialize _
  cases Except.ok.inj hserialize
  rfl

theorem keeps_textColumn : textColumn.Keeps ⟨"buy milk", true, true⟩ := by
  intro x hx
  cases Except.ok.inj hx
  exact {
    adapter := nofun
    text := fun _ s hs _ _ => by
      cases hs
      decide
    single := fun _ v hv y hy => by
      cases hv
      cases hy
    names := nofun
    name := nofun
    ordinals := nofun
    ids := nofun }

theorem keeps_pinnedColumn : pinnedColumn.Keeps ⟨"buy milk", true, true⟩ := by
  intro x hx
  cases Except.ok.inj hx
  exact {
    adapter := fun a ha => by
      cases ha
      exact undoes_pinningAdapter
    text := nofun
    single := nofun
    names := fun _ m hm => by
      cases hm
      decide
    name := nofun
    ordinals := nofun
    ids := nofun }

/-- A pinned draft is read back pinned, with its text, and no draft. -/
theorem run_readRow_storedValues_note :
    ∃ (d : TableDefinition Note) (fvs : _) (l l' : Ledger), noteSchema.define 0 = .ok d ∧
      (TableDefinition.storedValues ⟨"buy milk", true, true⟩ d.fields).run .start = (.ok fvs, l) ∧
      (d.readRow (fvs.map (·.2))).run l = (.ok ⟨"buy milk", true, false⟩, l') := by
  obtain ⟨d, hd, hfields⟩ := define_noteSchema
  have hkeeps : ∀ f ∈ d.fields, f.Keeps ⟨"buy milk", true, true⟩ := by
    rw [hfields]
    exact List.forall_mem_cons.mpr
      ⟨keeps_textColumn, List.forall_mem_singleton.mpr keeps_pinnedColumn⟩
  have hundoes : ∀ i (a : DeclaredField Note), [noteText, noteDraft, notePinned][i]? = some a →
      noteSchema.isMapped i a.spec → a.form.Undoes (a.get ⟨"buy milk", true, true⟩) := by
    intro i a hi _
    rcases i with _ | _ | _ | i <;> cases hi <;> trivial
  obtain ⟨fvs, l, hstore⟩ : ∃ fvs l,
      (TableDefinition.storedValues ⟨"buy milk", true, true⟩ d.fields).run .start =
        (.ok fvs, l) := by
    rw [hfields]
    exact ⟨_, _, rfl⟩
  obtain ⟨m, l', hread, hm, -⟩ :=
    run_readRow_storedValues rfl hd independent_noteSchema hkeeps hundoes hstore List.suffix_rfl
  have htext : m.text = "buy milk" := hm 0 noteText rfl
  have hdraft : m.draft = false := hm 1 noteDraft rfl
  have hpinned : m.pinned = true := hm 2 notePinned rfl
  refine ⟨d, fvs, l, l', hd, hstore, ?_⟩
  rw [hread, ← htext, ← hdraft, ← hpinned]

end ModelSchema
end TableMapping
