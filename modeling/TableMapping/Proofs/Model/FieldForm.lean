import TableMapping.Model.Schema
import TableMapping.Proofs.Value.ColumnForm

/-!
# What a declared field carries

A field is declared in one of four forms and then adapted: made private, given options, an
encoding or an adapter, or carried over from an embedded parent.  None of this changes what its
accessors do with a value of the application's type.

* `FieldForm.write`: what a field of a form holds for a value, and `FieldForm.hasType`, the field
  type it belongs to.
* `FieldSpec.Declared`: how fields are declared.
* `FieldSpec.Declared.get_eq`, `FieldSpec.Declared.set_eq`: the accessors of a declared field
  read by `FieldForm.write` and undo it.
-/

namespace TableMapping

/-! ## Forms -/

/-- A form in which a field carries values of a type of the application. -/
inductive FieldForm : Type → Type 1 where
  | value {T : Type} [Storable T] (h : TableType T) : FieldForm T
  | enumeration {E : Type} (t : EnumerationType E) : FieldForm E
  | text {T : Type} (form : TextForm T) : FieldForm T
  | document {T : Type} (form : DocumentForm T) : FieldForm T

namespace FieldForm

/-- The type of the fields of a form. -/
def fieldType {T : Type} : FieldForm T → FieldType
  | @value T _ _ => Storable.fieldType T
  | enumeration t => .enumeration t.enumeration
  | text form => .other form.label
  | document _ => .json

/-- What the field of a value holds. -/
def write {T : Type} (name : String) : FieldForm T → T → Except MappingError FieldValue
  | value _, x => .ok (.plain (Storable.toValue x))
  | enumeration t, x => do return .member (some (← Member.ofTyped t x))
  | text form, x => .ok (.plain (.text (form.write x)))
  | document form, x =>
    match form.write? x with
    | some j => .ok (.plain (.of (.json j)))
    | none => .error (.conversion name (.malformed "document"))

/-- The application's own conversions of a form undo one another for a value. -/
def Undoes {T : Type} : FieldForm T → T → Prop
  | value _, _ => True
  | enumeration t, x => t.ofOrdinal? (t.ordinal x) = some x
  | text form, x => form.read? (form.write x) = some x
  | document form, x => ∀ j, form.write? x = some j → form.read? j = some x

variable {T : Type} {x : T} {name : String} {v : FieldValue}

theorem write_enumeration {t : EnumerationType T}
    (h : (enumeration t).write name x = .ok v) :
    ∃ m : Member, m.enumeration = t.enumeration ∧ m.ordinal = t.ordinal x ∧
      v = .member (some m) := by
  have hofTyped : (do return .member (some (← Member.ofTyped t x))) = Except.ok v := h
  unfold Member.ofTyped Member.ofOrdinal? at hofTyped
  split at hofTyped
  · rename_i m hm
    split at hm
    · cases hm
      exact ⟨_, rfl, rfl, (Except.ok.inj hofTyped).symm⟩
    · exact nomatch hm
  · exact nomatch hofTyped

theorem write_document {form : DocumentForm T} (h : (document form).write name x = .ok v) :
    ∃ j, form.write? x = some j ∧ v = .plain (.of (.json j)) := by
  rcases hj : form.write? x with _ | j
  · have hnone : (document form).write name x =
        .error (.conversion name (.malformed "document")) := by
      rw [write, hj]
    exact nomatch hnone.symm.trans h
  · have hsome : (document form).write name x = .ok (.plain (.of (.json j))) := by
      rw [write, hj]
    exact ⟨j, rfl, Except.ok.inj (h.symm.trans hsome)⟩

/-- What a field holds belongs to its field type. -/
theorem hasType {form : FieldForm T} (h : form.write name x = .ok v) :
    v.HasType form.fieldType := by
  cases form with
  | value table =>
    cases Except.ok.inj h
    exact ⟨table.fieldType_ne_enumeration, table.coerce_toValue x⟩
  | enumeration t =>
    obtain ⟨m, hm, -, rfl⟩ := write_enumeration h
    exact congrArg FieldType.enumeration hm.symm
  | text form =>
    cases Except.ok.inj h
    exact ⟨nofun, fun _ => rfl⟩
  | document form =>
    obtain ⟨j, -, rfl⟩ := write_document h
    exact ⟨nofun, fun _ => rfl⟩

end FieldForm

/-! ## Setters of the four forms -/

namespace FieldSpec

variable {M T : Type} {v : FieldValue} {name : String} {x : T} {get : M → T} {set : T → M → M}

theorem set_value [Storable T] (h : TableType T)
    (hwrite : (FieldForm.value h).write name x = .ok v) (m : M) :
    (value T name get set).set v m = .ok (set x m) := by
  cases Except.ok.inj hwrite
  have hread : (FieldValue.plain (Storable.toValue x)).toTyped T name = .ok x := by
    rw [FieldValue.toTyped, h.ofValue?_toValue]
  exact Runs.bind_eq_ok.mpr ⟨x, hread, rfl⟩

theorem set_enumeration (t : EnumerationType T)
    (hwrite : (FieldForm.enumeration t).write name x = .ok v)
    (hundoes : t.ofOrdinal? (t.ordinal x) = some x) (m : M) :
    (enumeration t name get set).set v m = .ok (set x m) := by
  obtain ⟨y, -, hy, rfl⟩ := FieldForm.write_enumeration hwrite
  have hread : y.toTyped t = .ok x := by
    rw [Member.toTyped, hy, hundoes]
  exact Runs.bind_eq_ok.mpr ⟨x, hread, rfl⟩

theorem set_text (form : TextForm T) (hwrite : (FieldForm.text form).write name x = .ok v)
    (hundoes : form.read? (form.write x) = some x) (m : M) :
    (text form name get set).set v m = .ok (set x m) := by
  cases Except.ok.inj hwrite
  refine Runs.bind_eq_ok.mpr ⟨some (form.write x), rfl, ?_⟩
  simp only [hundoes]
  rfl

theorem set_document (form : DocumentForm T)
    (hwrite : (FieldForm.document form).write name x = .ok v)
    (hundoes : ∀ j, form.write? x = some j → form.read? j = some x) (m : M) :
    (document form name get set).set v m = .ok (set x m) := by
  obtain ⟨j, hj, rfl⟩ := FieldForm.write_document hwrite
  refine Runs.bind_eq_ok.mpr ⟨some j, rfl, ?_⟩
  simp only [hundoes j hj]
  rfl

end FieldSpec

/-! ## Declared fields -/

/-- A field is declared in a form, with accessors for the values of the application's type. -/
inductive FieldSpec.Declared :
    {M T : Type} → FieldSpec M → FieldForm T → (M → T) → (T → M → M) → Prop
  | value {M T : Type} [Storable T] (h : TableType T) (name : String) (get : M → T)
      (set : T → M → M) : Declared (FieldSpec.value T name get set) (.value h) get set
  | enumeration {M E : Type} (t : EnumerationType E) (name : String) (get : M → E)
      (set : E → M → M) : Declared (FieldSpec.enumeration t name get set) (.enumeration t) get set
  | text {M T : Type} (form : TextForm T) (name : String) (get : M → T) (set : T → M → M) :
      Declared (FieldSpec.text form name get set) (.text form) get set
  | document {M T : Type} (form : DocumentForm T) (name : String) (get : M → T)
      (set : T → M → M) : Declared (FieldSpec.document form name get set) (.document form) get set
  | asPrivate {M T : Type} {f : FieldSpec M} {form : FieldForm T} {get : M → T}
      {set : T → M → M} (h : Declared f form get set) : Declared f.asPrivate form get set
  | withColumn {M T : Type} {f : FieldSpec M} {form : FieldForm T} {get : M → T}
      {set : T → M → M} (h : Declared f form get set) (options : ColumnOptions) :
      Declared (f.withColumn options) form get set
  | withEncoding {M T : Type} {f : FieldSpec M} {form : FieldForm T} {get : M → T}
      {set : T → M → M} (h : Declared f form get set) (encoding : Encoding) :
      Declared (f.withEncoding encoding) form get set
  | withAdapter {M T : Type} {f : FieldSpec M} {form : FieldForm T} {get : M → T}
      {set : T → M → M} (h : Declared f form get set) (a : Adapter) :
      Declared (f.withAdapter a) form get set
  | lift {M P T : Type} {f : FieldSpec M} {form : FieldForm T} {get : M → T}
      {set : T → M → M} (h : Declared f form get set) (inner : P → M) (put : M → P → P) :
      Declared (f.lift inner put) form (fun p => get (inner p)) fun x p => put (set x (inner p)) p

namespace FieldSpec.Declared

variable {M T : Type} {f : FieldSpec M} {form : FieldForm T} {get : M → T} {set : T → M → M}

theorem fieldType_eq (h : f.Declared form get set) : f.fieldType = form.fieldType := by
  induction h with
  | asPrivate _ ih => exact ih
  | withColumn _ _ ih => exact ih
  | withEncoding _ _ ih => exact ih
  | withAdapter _ _ ih => exact ih
  | lift _ _ _ ih => exact ih
  | _ => rfl

/-- A field is read from an object by writing the value it carries. -/
theorem get_eq (h : f.Declared form get set) (m : M) : f.get m = form.write f.name (get m) := by
  induction h with
  | asPrivate _ ih => exact ih m
  | withColumn _ _ ih => exact ih m
  | withEncoding _ _ ih => exact ih m
  | withAdapter _ _ ih => exact ih m
  | lift _ inner _ ih => exact ih (inner m)
  | _ => rfl

/-- What was read from one object writes the value it carries into another. -/
theorem set_eq (h : f.Declared form get set) {v : FieldValue} {x : T}
    (hwrite : form.write f.name x = .ok v) (hundoes : form.Undoes x) (m : M) :
    f.set v m = .ok (set x m) := by
  induction h with
  | value h name get set => exact FieldSpec.set_value h hwrite m
  | enumeration t name get set => exact FieldSpec.set_enumeration t hwrite hundoes m
  | text form name get set => exact FieldSpec.set_text form hwrite hundoes m
  | document form name get set => exact FieldSpec.set_document form hwrite hundoes m
  | asPrivate _ ih => exact ih hwrite hundoes m
  | withColumn _ _ ih => exact ih hwrite hundoes m
  | withEncoding _ _ ih => exact ih hwrite hundoes m
  | withAdapter _ _ ih => exact ih hwrite hundoes m
  | lift _ inner put ih =>
    exact Runs.bind_eq_ok.mpr ⟨_, ih hwrite hundoes (inner m), rfl⟩

end FieldSpec.Declared
end TableMapping
