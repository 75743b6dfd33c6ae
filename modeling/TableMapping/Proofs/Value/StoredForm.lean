import TableMapping.FieldValue

/-!
# The stored forms of the type table

The types of the type table are fifteen base types and the optional form of each.  Optional
types are not nested: an absent value and a present one that is absent itself would have one
NULL.

* `TableType.ofValue?_toValue`: what is written is read as what it was.
* `TableType.coerce_toValue`: a written value has the kind that its field type expects, so
  coercion keeps it.  Coercion to single precision goes by way of double precision, and keeps
  the values that this does.
-/

namespace TableMapping

/-- A base type of the type table. -/
inductive BaseType : (T : Type) → [Storable T] → Prop
  | bool : BaseType Bool
  | tinyInt : BaseType Int8
  | smallInt : BaseType Int16
  | int : BaseType Int32
  | bigInt : BaseType Int64
  | float : BaseType Float32
  | double : BaseType Float
  | decimal : BaseType FixedPoint
  | string : BaseType String
  | bytes : BaseType ByteArray
  | date : BaseType Calendar.Date
  | time : BaseType Calendar.Time
  | dateTime : BaseType Calendar.DateTime
  | uuid : BaseType Uuid
  | json : BaseType Json

/-- A type of the type table. -/
inductive TableType : (T : Type) → [Storable T] → Prop
  | base {T : Type} [Storable T] (h : BaseType T) : TableType T
  | optional {T : Type} [Storable T] (h : BaseType T) : TableType (Option T)

/-- Widening to double precision and back keeps the value, if it is one of single precision. -/
def Value.KeepsSingle (v : Value) : Prop :=
  ∀ y, v = .of (.float y) → y.toFloat.toFloat32 = y

namespace Value

/-! ## Integers -/

theorem coerceInteger_eq {s : Scalar} {t : FieldType} {low high : Int} {make : Int → Scalar}
    {k : Int64} (h : s.integer? = some k) (hlow : low ≤ k.toInt) (hhigh : k.toInt ≤ high) :
    coerceInteger s t low high make = .ok (.of (make k.toInt)) := by
  rw [coerceInteger, h]
  exact if_pos ⟨hlow, hhigh⟩

theorem coerce_tinyInt (n : Int8) :
    (Value.of (.tinyInt n)).coerce .tinyInt = .ok (.of (.tinyInt n)) := by
  have hlow := n.le_toInt
  have hhigh := n.toInt_lt
  have h : coerceInteger (.tinyInt n) .tinyInt (-128) 127 (fun n => .tinyInt (Int8.ofInt n)) =
      .ok (.of (.tinyInt (Int8.ofInt n.toInt64.toInt))) :=
    coerceInteger_eq rfl (by rw [Int8.toInt_toInt64]; omega) (by rw [Int8.toInt_toInt64]; omega)
  rw [Int8.toInt_toInt64, Int8.ofInt_toInt] at h
  exact h

theorem coerce_smallInt (n : Int16) :
    (Value.of (.smallInt n)).coerce .smallInt = .ok (.of (.smallInt n)) := by
  have hlow := n.le_toInt
  have hhigh := n.toInt_lt
  have h : coerceInteger (.smallInt n) .smallInt (-32768) 32767
      (fun n => .smallInt (Int16.ofInt n)) =
      .ok (.of (.smallInt (Int16.ofInt n.toInt64.toInt))) :=
    coerceInteger_eq rfl (by rw [Int16.toInt_toInt64]; omega) (by rw [Int16.toInt_toInt64]; omega)
  rw [Int16.toInt_toInt64, Int16.ofInt_toInt] at h
  exact h

theorem coerce_int (n : Int32) : (Value.of (.int n)).coerce .int = .ok (.of (.int n)) := by
  have hlow := n.le_toInt
  have hhigh := n.toInt_lt
  have h : coerceInteger (.int n) .int (-2147483648) 2147483647 (fun n => .int (Int32.ofInt n)) =
      .ok (.of (.int (Int32.ofInt n.toInt64.toInt))) :=
    coerceInteger_eq rfl (by rw [Int32.toInt_toInt64]; omega) (by rw [Int32.toInt_toInt64]; omega)
  rw [Int32.toInt_toInt64, Int32.ofInt_toInt] at h
  exact h

theorem coerce_bigInt (n : Int64) :
    (Value.of (.bigInt n)).coerce .bigInt = .ok (.of (.bigInt n)) := by
  have hlow := n.le_toInt
  have hhigh := n.toInt_lt
  have h : coerceInteger (.bigInt n) .bigInt (-9223372036854775808) 9223372036854775807
      (fun n => .bigInt (Int64.ofInt n)) = .ok (.of (.bigInt (Int64.ofInt n.toInt))) :=
    coerceInteger_eq rfl (by omega) (by omega)
  rw [Int64.ofInt_toInt] at h
  exact h

theorem coerce_float {x : Float32} (h : x.toFloat.toFloat32 = x) :
    (Value.of (.float x)).coerce .float = .ok (.of (.float x)) := by
  show Except.ok (Value.of (.float x.toFloat.toFloat32)) = _
  rw [h]

end Value

/-! ## Base types -/

namespace BaseType

variable {T : Type} [Storable T]

theorem toValue_eq_of (h : BaseType T) (x : T) : ∃ s, Storable.toValue x = .of s := by
  cases h <;> exact ⟨_, rfl⟩

theorem ofValue?_toValue (h : BaseType T) (x : T) :
    Storable.ofValue? (Storable.toValue x) = some x := by
  cases h <;> rfl

theorem coerce_toValue (h : BaseType T) (x : T) (hx : (Storable.toValue x).KeepsSingle) :
    (Storable.toValue x).coerce (Storable.fieldType T) = .ok (Storable.toValue x) := by
  cases h with
  | tinyInt => exact Value.coerce_tinyInt x
  | smallInt => exact Value.coerce_smallInt x
  | int => exact Value.coerce_int x
  | bigInt => exact Value.coerce_bigInt x
  | float => exact Value.coerce_float (hx x rfl)
  | _ => rfl

theorem fieldType_ne_enumeration (h : BaseType T) (e : Enumeration) :
    Storable.fieldType T ≠ .enumeration e := by
  cases h <;> exact nofun

theorem null_fieldType_isNull (h : BaseType T) : (Storable.fieldType T).null.isNull = true := by
  cases h <;> rfl

end BaseType

/-! ## Optional types -/

namespace TableType

variable {T : Type} [Storable T]

theorem ofValue?_toValue (h : TableType T) (x : T) :
    Storable.ofValue? (Storable.toValue x) = some x := by
  cases h with
  | base h => exact h.ofValue?_toValue x
  | optional h =>
    cases x with
    | none => exact if_pos h.null_fieldType_isNull
    | some x =>
      have hnull : (Storable.toValue x).isNull = false := by
        obtain ⟨s, hs⟩ := h.toValue_eq_of x
        rw [hs, Value.isNull_of]
      show (if (Storable.toValue x).isNull then some none
        else (Storable.ofValue? (Storable.toValue x)).map some) = some (some x)
      rw [hnull, if_neg Bool.false_ne_true, h.ofValue?_toValue]
      rfl

/-- A written value is kept by coercion to its field type. -/
theorem coerce_toValue (h : TableType T) (x : T) (hx : (Storable.toValue x).KeepsSingle) :
    (Storable.toValue x).coerce (Storable.fieldType T) = .ok (Storable.toValue x) := by
  cases h with
  | base h => exact h.coerce_toValue x hx
  | optional h =>
    cases x with
    | none => exact if_pos h.null_fieldType_isNull
    | some x => exact h.coerce_toValue x hx

theorem fieldType_ne_enumeration (h : TableType T) (e : Enumeration) :
    Storable.fieldType T ≠ .enumeration e := by
  cases h with
  | base h => exact h.fieldType_ne_enumeration e
  | optional h => exact h.fieldType_ne_enumeration e

end TableType
end TableMapping
