import Mathlib.Data.List.Forall2
import TableMapping.Model.Definition
import TableMapping.Proofs.Runs
import TableMapping.Proofs.Value.Projection

/-!
# The kind of a NULL

Every kind of value has a NULL of its own, and which one stands in a row is the driver's choice.
Where no column has an adapter, reading asks of a NULL only whether it is known as one, and then the
kind no longer matters: a column reads every known NULL as the same field value.  One kind has a NULL
that is not known, the point in time with a zone, and no column reads that one.

* `Value.SameButKind`: two values that differ at most in the kind of a NULL.
* `Column.decode_of_isNull`, `Column.exists_decode_of_isForeignNull`: the two sorts of NULL.
* `TableDefinition.run_readRow_of_plain`: without adapters, reading keeps no state, so the rows can
  be compared value by value.
* `TableDefinition.readRow_sameButKind`: two rows that differ at most in the kinds of their NULLs.
-/

namespace TableMapping

open Runs

/-! ## Values -/

namespace Value

/-- Two values that differ at most in the kind of a NULL. -/
inductive SameButKind : Value → Value → Prop
  | null (k k' : Kind) : SameButKind (.null k) (.null k')
  | scalar (s : Scalar) : SameButKind (.of s) (.of s)

/-- A NULL that does not count as one. -/
def IsForeignNull (v : Value) : Prop :=
  (∃ k, v = .null k) ∧ v.isNull = false

variable {v w : Value}

/-- There is one of them. -/
theorem isForeignNull_iff : v.IsForeignNull ↔ v = .null .dateTimeUtc := by
  constructor
  · rintro ⟨⟨k, rfl⟩, hnull⟩
    cases k with
    | dateTimeUtc => rfl
    | _ => exact nomatch hnull
  · rintro rfl
    exact ⟨⟨_, rfl⟩, rfl⟩

theorem isNull_null_of_not_isForeignNull {k : Kind} (h : ¬ (null k).IsForeignNull) :
    (null k).isNull = true := by
  cases hnull : (null k).isNull with
  | true => rfl
  | false => exact absurd ⟨⟨k, rfl⟩, hnull⟩ h

theorem coerce_of_isNull (h : v.isNull = true) (t : FieldType) : v.coerce t = .ok t.null := by
  cases v with
  | null k => exact if_pos h
  | of s => exact nomatch h

end Value

/-! ## Columns -/

namespace Column

variable {c : Column} {v : Value}

/-- What a known NULL stands for in a column. -/
def absent (c : Column) : FieldValue :=
  match c.fieldType with
  | .enumeration _ => .member none
  | t => .plain t.null

theorem decode_of_isNull (h : v.isNull = true) : c.decode v = .ok c.absent := by
  unfold absent
  split
  · rename_i e ht
    rw [decode_of_enumeration ht, Member.decode, if_pos h]
    rfl
  · rename_i hne
    rw [decode_of_ne_enumeration hne, Value.coerce_of_isNull h]

theorem exists_decode_of_isForeignNull (h : v.IsForeignNull) : ∃ e, c.decode v = .error e := by
  obtain ⟨⟨k, rfl⟩, hnull⟩ := h
  by_cases hplain : c.fieldType.IsPlain
  · have hcoerce : (Value.null k).coerce c.fieldType =
        Value.coerceUnknownNull (.null k) c.fieldType :=
      if_neg (Bool.eq_false_iff.mp hnull)
    rw [decode_of_ne_enumeration hplain, hcoerce]
    cases hread : Value.coerceUnknownNull (.null k) c.fieldType with
    | ok w => exact absurd hread (Value.coerceUnknownNull_ne_ok hplain)
    | error reason => exact ⟨_, rfl⟩
  · obtain ⟨e, ht⟩ := not_forall_not.mp hplain
    have hnone : e.ordinalOfValue? c.effectiveEncoding (.null k) = none := by
      cases c.effectiveEncoding <;> rfl
    rw [decode_of_enumeration ht, Member.decode, hnull, if_neg Bool.false_ne_true, hnone]
    exact ⟨_, rfl⟩

end Column

theorem MappedField.run_setValue_of_plain {M : Type} {f : MappedField M} {l : Ledger}
    (plain : f.adapter = none) (m : M) (v : Value) :
    (f.setValue m v).run l = (f.decode v >>= fun x => f.set x m, l) := by
  rw [setValue, Column.fromStorage_of_plain plain]
  cases f.decode v with
  | error e => exact run_bind_error (Mapping.run_ofExcept _)
  | ok x => exact run_bind_ok (Mapping.run_ofExcept _)

/-! ## Rows -/

namespace TableDefinition

variable {M : Type} {d : TableDefinition M} {fs : List (MappedField M)} {row row' : List Value}
  {l : Ledger}

/-- Read the values of a row into an object by columns that have no adapter. -/
def decodeInto (m : M) : List (MappedField M) → List Value → Except MappingError M
  | f :: fs, v :: vs => do
    let x ← f.decode v
    let m ← f.set x m
    decodeInto m fs vs
  | _, _ => .ok m

theorem run_readInto_of_plain (plain : ∀ f ∈ fs, f.adapter = none) (m : M) (vs : List Value) :
    (readInto m fs vs).run l = (decodeInto m fs vs, l) := by
  induction fs generalizing m vs with
  | nil => rfl
  | cons f fs ih =>
    cases vs with
    | nil => rfl
    | cons v vs =>
      obtain ⟨hf, hfs⟩ := List.forall_mem_cons.mp plain
      have hset := MappedField.run_setValue_of_plain (l := l) hf m v
      rw [readInto, decodeInto]
      cases hx : f.decode v with
      | error e =>
        rw [hx] at hset
        exact run_bind_error hset
      | ok x =>
        cases hm : f.set x m with
        | error e =>
          rw [hx, show (Except.ok x >>= fun x => f.set x m) = .error e from hm] at hset
          rw [run_bind_error hset]
          show _ = (f.set x m >>= fun m => decodeInto m fs vs, l)
          rw [hm]
          rfl
        | ok m' =>
          rw [hx, show (Except.ok x >>= fun x => f.set x m) = .ok m' from hm] at hset
          rw [run_bind_ok hset, ih hfs]
          show _ = (f.set x m >>= fun m => decodeInto m fs vs, l)
          rw [hm]
          rfl

/-- Without adapters, what a row is read as does not depend on what has happened before. -/
theorem run_readRow_of_plain (plain : ∀ f ∈ d.fields, f.adapter = none) (row : List Value) :
    (d.readRow row).run l = (decodeInto d.blank d.fields row, l) :=
  run_readInto_of_plain plain d.blank row

/-- Known NULLs can be exchanged. -/
theorem decodeInto_eq (same : List.Forall₂ Value.SameButKind row row')
    (known : ∀ v ∈ row.take fs.length, ¬ v.IsForeignNull)
    (known' : ∀ v ∈ row'.take fs.length, ¬ v.IsForeignNull) (m : M) :
    decodeInto m fs row = decodeInto m fs row' := by
  induction fs generalizing m row row' with
  | nil => rw [decodeInto.eq_def, decodeInto.eq_def]
  | cons f fs ih =>
    cases same with
    | nil => rfl
    | @cons v v' vs vs' hv hvs =>
      rw [List.length_cons, List.take_succ_cons, List.forall_mem_cons] at known known'
      have hdecode : f.decode v = f.decode v' := by
        cases hv with
        | scalar s => rfl
        | null k k' =>
          rw [Column.decode_of_isNull (Value.isNull_null_of_not_isForeignNull known.1),
            Column.decode_of_isNull (Value.isNull_null_of_not_isForeignNull known'.1)]
      rw [decodeInto, decodeInto, hdecode]
      simp only [ih hvs known.2 known'.2]

/-- A NULL that is not known is not read, wherever it stands among the columns. -/
theorem exists_decodeInto_eq_error (foreign : ∃ v ∈ row.take fs.length, v.IsForeignNull) (m : M) :
    ∃ e, decodeInto m fs row = .error e := by
  induction fs generalizing m row with
  | nil =>
    obtain ⟨v, hv, -⟩ := foreign
    exact absurd hv List.not_mem_nil
  | cons f fs ih =>
    cases row with
    | nil =>
      obtain ⟨v, hv, -⟩ := foreign
      exact absurd hv List.not_mem_nil
    | cons v vs =>
      rw [List.length_cons, List.take_succ_cons] at foreign
      rw [decodeInto]
      cases hx : f.decode v with
      | error e => exact ⟨e, rfl⟩
      | ok x =>
        show ∃ e, (f.set x m).bind (fun m => decodeInto m fs vs) = .error e
        cases f.set x m with
        | error e => exact ⟨e, rfl⟩
        | ok m' =>
          obtain ⟨w, hw, hforeign⟩ := foreign
          rcases List.mem_cons.mp hw with rfl | hw
          · obtain ⟨e, he⟩ := Column.exists_decode_of_isForeignNull (c := f.toColumn) hforeign
            exact nomatch hx.symm.trans he
          · exact ih ⟨w, hw, hforeign⟩ m'

/-- Among the values that the columns take from a row there is a NULL that is not known. -/
def MeetsForeignNull (d : TableDefinition M) (row : List Value) : Prop :=
  ∃ v ∈ row.take d.fields.length, v.IsForeignNull

/-- Two rows are read as the same object, or neither of them is read. -/
def ReadAlike (d : TableDefinition M) (row row' : List Value) : Prop :=
  ∀ l l', ((d.readRow row).run l).1.toOption = ((d.readRow row').run l').1.toOption

/-- **The kind of a NULL.**  Take two rows that differ at most in the kinds of their NULLs, and
columns without adapters.  As long as every NULL is known, both rows are read alike, down to the
reason if they are refused.  A row with a NULL that is not known is refused, whatever else it holds.
So the two rows are read alike exactly when both or none of them hold such a NULL, or else when the
other one is refused as well. -/
theorem readRow_sameButKind (d : TableDefinition M) (plain : ∀ f ∈ d.fields, f.adapter = none)
    (same : List.Forall₂ Value.SameButKind row row') :
    (¬ d.MeetsForeignNull row → ¬ d.MeetsForeignNull row' →
      ∀ l l', ((d.readRow row).run l).1 = ((d.readRow row').run l').1) ∧
    (∀ r, d.MeetsForeignNull r → ∀ l, ∃ e, ((d.readRow r).run l).1 = .error e) ∧
    (d.ReadAlike row row' ↔ (d.MeetsForeignNull row ↔ d.MeetsForeignNull row') ∨
      ∀ l, ((d.readRow row).run l).1.toOption = none ∧
        ((d.readRow row').run l).1.toOption = none) := by
  have hknown : ¬ d.MeetsForeignNull row → ¬ d.MeetsForeignNull row' →
      decodeInto d.blank d.fields row = decodeInto d.blank d.fields row' := fun h h' =>
    decodeInto_eq same (fun v hv hforeign => h ⟨v, hv, hforeign⟩)
      (fun v hv hforeign => h' ⟨v, hv, hforeign⟩) d.blank
  have hforeign : ∀ r, d.MeetsForeignNull r →
      (decodeInto d.blank d.fields r).toOption = none := by
    intro r hr
    obtain ⟨e, he⟩ := exists_decodeInto_eq_error hr d.blank
    rw [he]
    rfl
  simp only [ReadAlike, run_readRow_of_plain plain]
  refine ⟨fun h h' _ _ => hknown h h', fun r hr _ => exists_decodeInto_eq_error hr d.blank, ?_⟩
  by_cases h : d.MeetsForeignNull row
  · have hnone := hforeign row h
    by_cases h' : d.MeetsForeignNull row'
    · exact ⟨fun _ => .inl (iff_of_true h h'), fun _ _ _ => hnone.trans (hforeign row' h').symm⟩
    · have hdiffer : ¬ (d.MeetsForeignNull row ↔ d.MeetsForeignNull row') :=
        fun hiff => h' (hiff.mp h)
      exact ⟨fun halike => .inr fun l => ⟨hnone, (halike l l).symm.trans hnone⟩,
        fun hor _ _ => hnone.trans (hor.resolve_left hdiffer .start).2.symm⟩
  · by_cases h' : d.MeetsForeignNull row'
    · have hnone := hforeign row' h'
      have hdiffer : ¬ (d.MeetsForeignNull row ↔ d.MeetsForeignNull row') :=
        fun hiff => h (hiff.mpr h')
      exact ⟨fun halike => .inr fun l => ⟨(halike l l).trans hnone, hnone⟩,
        fun hor _ _ => (hor.resolve_left hdiffer .start).1.trans hnone.symm⟩
    · exact ⟨fun _ => .inl (iff_of_false h h'), fun _ _ _ => by rw [hknown h h']⟩

/-! ### A reminder -/

/-- A reminder, due on some day of the year or on none. -/
structure Reminder where
  due : Option Int32

def reminderSchema : ModelSchema Reminder :=
  (ModelSchema.named "Reminder" ⟨none⟩).addField
    (FieldSpec.value (Option Int32) "due" Reminder.due fun x _ => ⟨x⟩)

theorem define_reminderSchema :
    ∃ d, reminderSchema.define 0 = .ok d ∧ (∀ f ∈ d.fields, f.adapter = none) ∧
      ((d.readRow [.null .int]).run .start).1 = .ok ⟨none⟩ ∧
      ((d.readRow [.null .dateTimeUtc]).run .start).1 =
        .error (.conversion "due" (.notInteger (.null .dateTimeUtc))) :=
  ⟨_, rfl, List.forall_mem_singleton.mpr rfl, rfl, rfl⟩

/-- The NULL of any known kind is read as no day. -/
theorem readRow_sameButKind_reminder :
    ∃ d, reminderSchema.define 0 = .ok d ∧ (∀ f ∈ d.fields, f.adapter = none) ∧
      List.Forall₂ Value.SameButKind [.null .uuid] [.null .int] ∧
      ((d.readRow [.null .uuid]).run .start).1 = .ok ⟨none⟩ := by
  obtain ⟨d, hd, hplain, hread, -⟩ := define_reminderSchema
  have hsame : List.Forall₂ Value.SameButKind [.null .uuid] [.null .int] :=
    .cons (.null _ _) .nil
  have hknown : ∀ k : Kind, k ≠ .dateTimeUtc → ¬ d.MeetsForeignNull [.null k] := by
    rintro k hk ⟨v, hv, hforeign⟩
    obtain rfl := List.mem_singleton.mp (List.mem_of_mem_take hv)
    cases Value.isForeignNull_iff.mp hforeign
    exact hk rfl
  have halike := (readRow_sameButKind d hplain hsame).1 (hknown _ (by decide))
    (hknown _ (by decide)) .start .start
  exact ⟨d, hd, hplain, hsame, halike.trans hread⟩

/-- The NULL of a point in time with a zone is refused where that of an integer is no day. -/
theorem not_readAlike_reminder :
    ∃ d, reminderSchema.define 0 = .ok d ∧ (∀ f ∈ d.fields, f.adapter = none) ∧
      List.Forall₂ Value.SameButKind [.null .int] [.null .dateTimeUtc] ∧
      ((d.readRow [.null .int]).run .start).1 = .ok ⟨none⟩ ∧
      ((d.readRow [.null .dateTimeUtc]).run .start).1 =
        .error (.conversion "due" (.notInteger (.null .dateTimeUtc))) ∧
      ¬ d.ReadAlike [.null .int] [.null .dateTimeUtc] := by
  obtain ⟨d, hd, hplain, hread, hrefuse⟩ := define_reminderSchema
  refine ⟨d, hd, hplain, .cons (.null _ _) .nil, hread, hrefuse, fun halike => ?_⟩
  have hsame := halike .start .start
  rw [hread, hrefuse] at hsame
  exact nomatch hsame

end TableDefinition
end TableMapping
