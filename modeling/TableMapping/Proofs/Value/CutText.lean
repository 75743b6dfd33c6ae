import TableMapping.Proofs.Value.ColumnForm

/-!
# Texts on the way to their column

A column that trims cuts the texts that are longer than it holds.  Two kinds of field value are texts
there: a plain text, and a member that travels by name.  Both are cut in the same way, whatever the
type of the field, so a text that a query gives to a field of an enumeration is cut as well.  Cutting
keeps the first characters, and a text that was cut is not cut again.  To everything else the limits
of the column make no difference.

* `Column.Cuts`: the columns that cut, which need a length to cut to.
* `Column.wholeText?`: the text that a field value is before it is cut.
* `cutText_cutText`: to cut twice is to cut once.
* `encode_of_wholeText?`, `encode_of_not_text`: what a column makes of texts, and of the rest.
* `Column.toStorage_text`: the two ends of the way to the column, for columns without adapter.
-/

namespace TableMapping

/-! ## Cutting -/

theorem cutText_cutText (trim : Bool) (length : Nat) (s : String) :
    cutText trim length (cutText trim length s) = cutText trim length s := by
  unfold cutText
  split
  · rw [String.toList_ofList, List.take_take, Nat.min_self]
  · rfl

namespace Column

/-- A column cuts texts when it trims and has a length to trim to. -/
def Cuts (c : Column) : Prop :=
  c.trim = true ∧ 0 < c.maxLength

/-- The text that a field value is in a column, before it is cut: a plain text, or the name of a
member where members travel by name. -/
def wholeText? (c : Column) : FieldValue → Option String
  | .plain (.of (.string s)) => some s
  | .member (some m) => if c.effectiveEncoding = .name then some m.name else none
  | _ => none

variable {c : Column} {x : FieldValue} {s : String}

/-- In a column that does not cut, every text fits. -/
theorem fits_of_not_cuts (h : ¬c.Cuts) (s : String) : c.Fits s :=
  fun htrim hlength => absurd ⟨htrim, hlength⟩ h

/-- A text that was cut is as long as the column holds, at most, and has the first characters of the
whole text. -/
theorem Cuts.length_cutText_le (h : c.Cuts) (s : String) :
    (cutText c.trim c.maxLength s).length ≤ c.maxLength ∧
      (cutText c.trim c.maxLength s).toList = s.toList.take c.maxLength := by
  have htake : (cutText c.trim c.maxLength s).toList = s.toList.take c.maxLength := by
    rw [h.1]
    exact toList_cutText h.2 s
  refine ⟨?_, htake⟩
  rw [← String.length_toList, htake]
  exact List.length_take_le _ _

/-! ## What a column makes of a field value -/

theorem encode_of_wholeText? (h : c.wholeText? x = some s) :
    c.encode x = .ok (.text (cutText c.trim c.maxLength s)) := by
  unfold wholeText? at h
  split at h
  · cases h
    rfl
  · rename_i m
    by_cases hname : c.effectiveEncoding = .name
    · rw [if_pos hname] at h
      cases h
      rw [encode, hname, Member.encode]
    · rw [if_neg hname] at h
      cases h
  · cases h

/-- A member that is not a text does not travel by name. -/
theorem encoding_ne_name {m : Member} (h : c.wholeText? (.member (some m)) = none) :
    c.effectiveEncoding ≠ .name := by
  intro hname
  rw [wholeText?, if_pos hname] at h
  cases h

/-- A field value that is not a text becomes what it becomes in a column with any other limits, and a
plain one stays what it is. -/
theorem encode_of_not_text (h : c.wholeText? x = none) :
    (∀ trim length, encode { c with trim := trim, maxLength := length } x = c.encode x) ∧
      ∀ v, x = .plain v → c.encode x = .ok v := by
  rcases x with v | _ | m
  · have hv : ∀ s, v ≠ .text s := by
      rintro s rfl
      cases h
    have hencode : ∀ d : Column, d.encode (.plain v) = .ok v :=
      fun d => encode_plain fun s hs => absurd hs (hv s)
    refine ⟨fun trim length => ?_, fun w hw => ?_⟩
    · rw [hencode, hencode]
    · cases hw
      exact hencode c
  · exact ⟨fun _ _ => rfl, fun v hv => nomatch hv⟩
  · refine ⟨fun trim length => ?_, fun v hv => nomatch hv⟩
    show m.encode c.effectiveEncoding trim length c.columnName = c.encode (.member (some m))
    rw [encode]
    cases hencoding : c.effectiveEncoding with
    | name => exact absurd hencoding (encoding_ne_name h)
    | ordinal => rfl
    | id => rfl

/-- What is not a text does not become one. -/
theorem encode_ne_text (h : c.wholeText? x = none) (text : String) :
    c.encode x ≠ .ok (.text text) := by
  intro htext
  rcases x with v | _ | m
  · rw [(encode_of_not_text h).2 v rfl] at htext
    cases htext
    cases h
  · rw [encode] at htext
    split at htext <;> cases htext
  · rw [encode] at htext
    cases hencoding : c.effectiveEncoding with
    | name => exact absurd hencoding (encoding_ne_name h)
    | ordinal =>
      rw [hencoding, Member.encode] at htext
      cases htext
    | id =>
      rw [hencoding, Member.encode] at htext
      split at htext <;> cases htext

theorem encode_eq_text_iff {text : String} :
    c.encode x = .ok (.text text) ↔
      ∃ s, c.wholeText? x = some s ∧ text = cutText c.trim c.maxLength s := by
  constructor
  · intro h
    cases hwhole : c.wholeText? x with
    | none => exact absurd h (encode_ne_text hwhole text)
    | some s =>
      rw [encode_of_wholeText? hwhole] at h
      cases h
      exact ⟨s, rfl, rfl⟩
  · rintro ⟨s, hwhole, rfl⟩
    exact encode_of_wholeText? hwhole

/-! ## The way to the column -/

/-- **Texts are cut to what their column holds, and nothing else is.**  In a column without adapter a
text comes out exactly where a plain text goes in, or a member that travels by name.  Where the column
cuts, the text that comes out is no longer than the column holds, it has the first characters of the
text that went in, and it comes out again when it goes in itself.  Where the column does not cut, it
is the text that went in.  To field values that are not texts it makes no difference whether the
column trims or how much it holds, and plain ones come out as they are. -/
theorem toStorage_text (hadapter : c.adapter = none) (x : FieldValue) (l : Ledger) :
    (∀ text l', (c.toStorage x).run l = (.ok (.text text), l') →
      ∃ s, c.wholeText? x = some s ∧
        (c.Cuts → text.length ≤ c.maxLength ∧ text.toList = s.toList.take c.maxLength ∧
          ∀ l, (c.toStorage (.plain (.text text))).run l = (.ok (.text text), l)) ∧
        (¬c.Cuts → text = s)) ∧
    (∀ s, c.wholeText? x = some s →
      ∃ text, (c.toStorage x).run l = (.ok (.text text), l)) ∧
    (c.wholeText? x = none →
      (∀ trim length,
        (toStorage { c with trim := trim, maxLength := length } x).run l = (c.toStorage x).run l) ∧
      ∀ v, x = .plain v → (c.toStorage x).run l = (.ok v, l)) := by
  have hrun : ∀ (d : Column), d.adapter = none → ∀ (y : FieldValue) (l : Ledger),
      (d.toStorage y).run l = (d.encode y, l) := by
    intro d hd y l
    rw [toStorage, hd]
    rfl
  refine ⟨fun text l' h => ?_, fun s hs => ?_, fun hnone => ⟨fun trim length => ?_, fun v hv => ?_⟩⟩
  · rw [hrun c hadapter] at h
    obtain ⟨s, hs, rfl⟩ := encode_eq_text_iff.mp (congrArg Prod.fst h)
    refine ⟨s, hs, fun hcuts => ?_, fun hcuts => (fits_of_not_cuts hcuts s).cutText_eq⟩
    obtain ⟨hlength, htake⟩ := hcuts.length_cutText_le s
    refine ⟨hlength, htake, fun l => ?_⟩
    have hagain : c.encode (.plain (.text (cutText c.trim c.maxLength s))) =
        .ok (.text (cutText c.trim c.maxLength (cutText c.trim c.maxLength s))) :=
      encode_of_wholeText? rfl
    rw [hrun c hadapter, hagain, cutText_cutText]
  · exact ⟨_, (hrun c hadapter x l).trans (by rw [encode_of_wholeText? hs])⟩
  · rw [hrun { c with trim := trim, maxLength := length } hadapter, hrun c hadapter,
      (encode_of_not_text hnone).1 trim length]
  · rw [hrun c hadapter, (encode_of_not_text hnone).2 v hv]

/-- A column of trees that holds three characters. -/
def treeColumn : Column where
  columnName := "tree"
  fieldName := "tree"
  fieldType := .enumeration Member.trees
  dataType := "VARCHAR"
  maxLength := 3
  isPrimaryKey := false
  isAutoIncrement := false
  trim := true
  allowNull := true
  defaultValue := none
  encoding := some .name
  declaredIndex := 0
  build := 0
  adapter := none

/-- The birch comes out as `BIR`, and so do the birches that a query asks for. -/
theorem toStorage_text_birch :
    treeColumn.adapter = none ∧
    (treeColumn.toStorage (.member (some ⟨Member.trees, 2, by decide⟩))).run .start =
      (.ok (.text "BIR"), .start) ∧
    (treeColumn.toStorage (.plain (.text "BIRCHES"))).run .start = (.ok (.text "BIR"), .start) ∧
    "BIR".length ≤ 3 ∧
    (treeColumn.toStorage (.plain (.text "BIR"))).run .start = (.ok (.text "BIR"), .start) := by
  have hmember : (treeColumn.toStorage (.member (some ⟨Member.trees, 2, by decide⟩))).run .start =
      (.ok (.text "BIR"), .start) := rfl
  obtain ⟨s, -, hcut, -⟩ := (toStorage_text rfl _ .start).1 _ _ hmember
  obtain ⟨hlength, -, hagain⟩ := hcut ⟨rfl, by decide⟩
  exact ⟨rfl, hmember, rfl, hlength, hagain .start⟩

end Column
end TableMapping
