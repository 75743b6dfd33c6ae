import TableMapping.Proofs.Value.StoredForm

/-!
# Coercion as a projection

For a field type that is no enumeration, coercion projects the values of all kinds onto those of one
kind: its answers have that kind, the values of that kind are its own answers, and it neither makes
nor loses a NULL.  An enumeration keeps every value, for its members are decoded elsewhere.

* `Value.kind_of_coerce`, `Value.eq_null_iff_of_coerce`: what an answer looks like.
* `Value.coerce_of_kind`: a value of the kind is kept.
* `BaseType.exists_ofValue?`: a value of the kind of a base type is read as one of it.
* `coerce_projects`: all of this together, with what it means for fields of the type table.
-/

namespace TableMapping

/-- A field type that is no enumeration. -/
def FieldType.IsPlain (t : FieldType) : Prop :=
  ∀ e, t ≠ .enumeration e

namespace Value

variable {v w : Value} {s : Scalar} {t : FieldType}

/-! ## What an answer looks like -/

theorem of_coerceInteger {low high : Int} {make : Int → Scalar}
    (h : coerceInteger s t low high make = .ok w) : ∃ n, w = .of (make n) := by
  unfold coerceInteger at h
  split at h
  · exact nomatch h
  · rename_i n hn
    split at h
    · exact ⟨n.toInt, (Except.ok.inj h).symm⟩
    · exact nomatch h

theorem of_map {α : Type} {x : Except Reason α} {make : α → Scalar}
    (h : x.map (fun a => Value.of (make a)) = .ok w) : ∃ a, w = .of (make a) := by
  cases x with
  | error e => exact nomatch h
  | ok a => exact ⟨a, (Except.ok.inj h).symm⟩

/-- A scalar is coerced to a scalar of the field type's kind. -/
theorem of_coerceScalar (ht : t.IsPlain) (h : coerceScalar s t = .ok w) :
    ∃ s', w = .of s' ∧ s'.kind = t.kind := by
  cases t with
  | enumeration e => exact absurd rfl (ht e)
  | tinyInt | smallInt | int | bigInt =>
    rw [coerceScalar] at h
    obtain ⟨n, rfl⟩ := of_coerceInteger h
    exact ⟨_, rfl, rfl⟩
  | _ =>
    obtain ⟨a, rfl⟩ := of_map h
    exact ⟨_, rfl, rfl⟩

/-- The one NULL that is not known as such is of no use to a plain field type. -/
theorem coerceUnknownNull_ne_ok (ht : t.IsPlain) : coerceUnknownNull v t ≠ .ok w := by
  cases t with
  | enumeration e => exact absurd rfl (ht e)
  | _ => exact nofun

theorem kind_of_coerce (ht : t.IsPlain) (h : v.coerce t = .ok w) : w.kind = t.kind := by
  cases v with
  | of s =>
    obtain ⟨s', rfl, hkind⟩ := of_coerceScalar ht h
    exact hkind
  | null k =>
    rw [coerce] at h
    split at h
    · cases h
      rfl
    · exact absurd h (coerceUnknownNull_ne_ok ht)

/-- The answer is the NULL of the field type exactly when the value was a NULL. -/
theorem eq_null_iff_of_coerce (ht : t.IsPlain) (h : v.coerce t = .ok w) :
    w = t.null ↔ v.isNull = true := by
  cases v with
  | of s =>
    obtain ⟨s', rfl, -⟩ := of_coerceScalar ht h
    exact ⟨nofun, nofun⟩
  | null k =>
    rw [coerce] at h
    split at h
    · rename_i hnull
      exact ⟨fun _ => hnull, fun _ => (Except.ok.inj h).symm⟩
    · exact absurd h (coerceUnknownNull_ne_ok ht)

/-! ## What is kept -/

theorem isNull_null_kind (t : FieldType) : (Value.null t.kind).isNull = true := by
  cases t <;> rfl

theorem coerceScalar_of_kind (ht : t.IsPlain) (hkind : s.kind = t.kind)
    (hs : (Value.of s).KeepsSingle) : coerceScalar s t = .ok (.of s) := by
  cases t with
  | enumeration e => exact absurd rfl (ht e)
  | tinyInt =>
    cases s with
    | tinyInt n => exact coerce_tinyInt n
    | _ => exact nomatch hkind
  | smallInt =>
    cases s with
    | smallInt n => exact coerce_smallInt n
    | _ => exact nomatch hkind
  | int =>
    cases s with
    | int n => exact coerce_int n
    | _ => exact nomatch hkind
  | bigInt =>
    cases s with
    | bigInt n => exact coerce_bigInt n
    | _ => exact nomatch hkind
  | float =>
    cases s with
    | float x => exact coerce_float (hs x rfl)
    | _ => exact nomatch hkind
  | _ =>
    -- the other types take a scalar of their own kind as it is, before they look for anything else
    cases s <;> cases hkind
    rfl

theorem coerce_of_kind (ht : t.IsPlain) (hkind : w.kind = t.kind) (hw : w.KeepsSingle) :
    w.coerce t = .ok w := by
  cases w with
  | of s => exact coerceScalar_of_kind ht hkind hw
  | null k =>
    obtain rfl : k = t.kind := hkind
    exact if_pos (isNull_null_kind t)

end Value

/-! ## Fields of the type table -/

namespace BaseType

variable {T : Type} [Storable T]

theorem isPlain_fieldType (h : BaseType T) : (Storable.fieldType T).IsPlain :=
  h.fieldType_ne_enumeration

/-- A scalar of the kind of a base type is read as a value of it. -/
theorem exists_ofValue? (h : BaseType T) {s : Scalar}
    (hkind : s.kind = (Storable.fieldType T).kind) :
    ∃ x : T, Storable.ofValue? (.of s) = some x := by
  cases h <;> cases s <;> cases hkind <;> exact ⟨_, rfl⟩

theorem ofValue?_null (h : BaseType T) :
    (Storable.ofValue? (Storable.fieldType T).null : Option T) = none := by
  cases h <;> rfl

/-- A coerced value is refused by a base type exactly when it was a NULL. -/
theorem ofValue?_eq_none_iff_of_coerce (h : BaseType T) {v w : Value}
    (hw : v.coerce (Storable.fieldType T) = .ok w) :
    (Storable.ofValue? w : Option T) = none ↔ v.isNull = true := by
  rw [← Value.eq_null_iff_of_coerce h.isPlain_fieldType hw]
  constructor
  · intro hnone
    have hkind := Value.kind_of_coerce h.isPlain_fieldType hw
    cases w with
    | of s =>
      obtain ⟨x, hx⟩ := h.exists_ofValue? hkind
      exact nomatch hnone.symm.trans hx
    | null k => rw [FieldType.null, ← hkind, Value.kind_null]
  · rintro rfl
    exact h.ofValue?_null

/-- The optional form of a base type takes every coerced value. -/
theorem exists_ofValue?_of_coerce (h : BaseType T) {v w : Value}
    (hw : v.coerce (Storable.fieldType T) = .ok w) :
    ∃ x : Option T, Storable.ofValue? w = some x := by
  by_cases hnull : w.isNull = true
  · exact ⟨none, if_pos hnull⟩
  · have hkind := Value.kind_of_coerce h.isPlain_fieldType hw
    cases w with
    | of s =>
      obtain ⟨x, hx⟩ := h.exists_ofValue? hkind
      have hsome : (Storable.ofValue? (.of s) : Option (Option T)) =
          (Storable.ofValue? (.of s) : Option T).map some := if_neg hnull
      exact ⟨some x, by rw [hsome, hx]; rfl⟩
    | null k =>
      obtain rfl : k = (Storable.fieldType T).kind := hkind
      exact absurd (Value.isNull_null_kind _) hnull

end BaseType

/-- Coercion to a field type that is no enumeration is a projection onto the values of its kind, NULL
among them: what it answers has the kind, is NULL exactly when the value was, and is kept when it is
coerced again, as every value of the kind is.  Hence the optional form of a base type takes every
coerced value, and the base type refuses one only where the value was a NULL. -/
theorem coerce_projects :
    (∀ t : FieldType, t.IsPlain →
      (∀ v w : Value, v.coerce t = .ok w →
        w.kind = t.kind ∧ (w = t.null ↔ v.isNull = true) ∧
          (w.KeepsSingle → w.coerce t = .ok w)) ∧
      ∀ w : Value, w.kind = t.kind → w.KeepsSingle → w.coerce t = .ok w) ∧
    ∀ (T : Type) [Storable T], BaseType T →
      ∀ v w : Value, v.coerce (Storable.fieldType T) = .ok w →
        (∃ x : Option T, Storable.ofValue? w = some x) ∧
          ((Storable.ofValue? w : Option T) = none ↔ v.isNull = true) := by
  refine ⟨fun t ht => ⟨fun v w h => ?_, fun w => Value.coerce_of_kind ht⟩, ?_⟩
  · have hkind := Value.kind_of_coerce ht h
    exact ⟨hkind, Value.eq_null_iff_of_coerce ht h, Value.coerce_of_kind ht hkind⟩
  · intro T _ hT v w h
    exact ⟨hT.exists_ofValue?_of_coerce h, hT.ofValue?_eq_none_iff_of_coerce h⟩

/-- A numeral is coerced to a number, and that number to itself. -/
theorem coerce_projects_numeral :
    (∃ w, (Value.text " 42 ").coerce .int = .ok w ∧ w.kind = .int ∧ w.coerce .int = .ok w ∧
      ∃ x : Int32, Storable.ofValue? w = some x) ∧
    (Value.null .string).coerce .int = .ok (.null .int) ∧
      (Storable.ofValue? (.null .int) : Option Int32) = none := by
  obtain ⟨hplain, htyped⟩ := coerce_projects
  have hint : (FieldType.int).IsPlain := nofun
  have hread : (Value.text " 42 ").coerce .int = .ok (.of (.int 42)) := by
    have hinteger : (Scalar.string " 42 ").integer? = some 42 := by decide +kernel
    have hlow : (-2147483648 : Int) ≤ (42 : Int64).toInt := by decide
    have hhigh : (42 : Int64).toInt ≤ (2147483647 : Int) := by decide
    have hcoerce : Value.coerceInteger (.string " 42 ") .int (-2147483648) 2147483647
        (fun n => .int (Int32.ofInt n)) = .ok (.of (.int (Int32.ofInt (42 : Int64).toInt))) :=
      Value.coerceInteger_eq hinteger hlow hhigh
    exact hcoerce
  have hnull : (Value.null .string).coerce .int = .ok (.null .int) := rfl
  obtain ⟨hkind, -, hagain⟩ := (hplain .int hint).1 _ _ hread
  obtain ⟨-, hnone⟩ := htyped Int32 .int _ _ hnull
  refine ⟨⟨.of (.int 42), hread, hkind, hagain nofun, ?_⟩, hnull, hnone.mpr rfl⟩
  exact ⟨42, rfl⟩

end TableMapping
