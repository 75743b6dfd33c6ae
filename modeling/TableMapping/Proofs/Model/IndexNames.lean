import TableMapping.Proofs.Model.Faults
import TableMapping.Proofs.Number.Numeral

/-!
# The names of indexes

An index with a name of its own keeps it, and any other index is named after the table and its
place in the list.  A generated name gives its place back, so two places never have one generated
name, whatever the case of the letters.  What is left is that an index is declared with the name
that is generated for another one.  Such a schema is refused; otherwise no schema whose own names
differ is refused for the name of an index.

* `ModelSchema.sameName_generatedName_iff`: a generated name gives its place back.
* `ModelSchema.namesDiffer_indexNames_iff`: all names differ unless a generated one is taken.
* `ModelSchema.forall_mem_faults_iff`: a repeated name is a fault of the schema.
* `ModelSchema.define_indexNames`: what the definition makes of it.
-/

namespace TableMapping

/-- The name that an index is declared with, when it is not blank. -/
def IndexOptions.ownName? (options : IndexOptions) : Option String :=
  options.name.filter fun n => !Text.isBlankText n

/-- Whether an error is about an index name that two indexes have. -/
def MappingError.isDuplicateIndex : MappingError → Bool
  | .duplicateIndex _ _ => true
  | _ => false

/-- Names that differ in more than the case of their letters. -/
def NamesDiffer (names : List String) : Prop :=
  names.Pairwise fun n m => Text.sameName n m = false

/-- One name stands at one place of such a list. -/
theorem NamesDiffer.eq_of_sameName {names : List String} {i j : Nat} {n m : String}
    (h : NamesDiffer names) (hi : names[i]? = some n) (hj : names[j]? = some m)
    (hsame : Text.sameName n m = true) : i = j := by
  obtain ⟨hi_lt, rfl⟩ := List.getElem?_eq_some_iff.mp hi
  obtain ⟨hj_lt, rfl⟩ := List.getElem?_eq_some_iff.mp hj
  have hpairs := List.pairwise_iff_getElem.mp h
  rcases Nat.lt_trichotomy i j with hij | hij | hji
  · exact nomatch hsame.symm.trans (hpairs i j hi_lt hj_lt hij)
  · exact hij
  · rw [Text.sameName_comm] at hsame
    exact nomatch hsame.symm.trans (hpairs j i hj_lt hi_lt hji)

namespace ModelSchema

variable {M : Type} {s : ModelSchema M} {i j : Nat} {options : IndexOptions} {name : String}

/-- The name for the index at a place of the list that has none of its own. -/
def generatedName (s : ModelSchema M) (i : Nat) : String :=
  s.tableName ++ "_" ++ Numeral.ofNat i

/-- The names that the indexes are declared with. -/
def ownNames (s : ModelSchema M) : List String :=
  s.indexes.filterMap IndexOptions.ownName?

/-- The names that the indexes have in the end. -/
def indexNames (s : ModelSchema M) : List String :=
  s.indexes.mapIdx s.indexName

/-- An index is declared with the name that is generated for another one. -/
def TakesGenerated (s : ModelSchema M) : Prop :=
  ∃ (i : Nat) (options : IndexOptions), s.indexes[i]? = some options ∧ options.ownName? = none ∧
    ∃ name ∈ s.ownNames, Text.sameName name (s.generatedName i) = true

theorem indexName_of_ownName (h : options.ownName? = some name) (i : Nat) :
    s.indexName i options = name := by
  rw [IndexOptions.ownName?] at h
  rw [indexName, h, Option.getD_some]

theorem indexName_of_unnamed (h : options.ownName? = none) (i : Nat) :
    s.indexName i options = s.generatedName i := by
  rw [IndexOptions.ownName?] at h
  rw [indexName, h, Option.getD_none, generatedName]

/-! ## Generated names -/

theorem toList_generatedName (s : ModelSchema M) (i : Nat) :
    (s.generatedName i).toList = (s.tableName ++ "_").toList ++ Numeral.digits i := by
  rw [generatedName, String.toList_append, Numeral.ofNat, String.toList_ofList]

theorem sameName_generatedName_iff :
    Text.sameName (s.generatedName i) (s.generatedName j) = true ↔ i = j := by
  constructor
  · intro h
    rw [Text.sameName_iff, toList_generatedName, toList_generatedName, List.map_append,
      Numeral.map_toLower_digits, List.map_append, Numeral.map_toLower_digits,
      List.append_cancel_left_eq] at h
    have hvalue := congrArg (Numeral.valueFrom 0) h
    rwa [Numeral.valueFrom_digits, Numeral.valueFrom_digits] at hvalue
  · rintro rfl
    exact Text.sameName_self _

/-! ## All names -/

theorem getElem?_indexNames (s : ModelSchema M) (i : Nat) :
    s.indexNames[i]? = s.indexes[i]?.map (s.indexName i) :=
  List.getElem?_mapIdx

theorem mem_ownNames_iff : name ∈ s.ownNames ↔ ∃ o ∈ s.indexes, o.ownName? = some name :=
  List.mem_filterMap

/-- Two indexes have different names: own names by hypothesis, generated ones because they give
their places back, and one of each because none is taken. -/
theorem sameName_indexName (hown : NamesDiffer s.ownNames) (htaken : ¬s.TakesGenerated)
    {a b : IndexOptions} (ha : s.indexes[i]? = some a) (hb : s.indexes[j]? = some b)
    (hij : i < j) : Text.sameName (s.indexName i a) (s.indexName j b) = false := by
  cases hname : a.ownName? with
  | none =>
    rw [indexName_of_unnamed hname]
    cases hother : b.ownName? with
    | none =>
      rw [indexName_of_unnamed hother, Bool.eq_false_iff]
      exact fun h => absurd (sameName_generatedName_iff.mp h) (Nat.ne_of_lt hij)
    | some m =>
      rw [indexName_of_ownName hother, Text.sameName_comm, Bool.eq_false_iff]
      have hm : m ∈ s.ownNames :=
        mem_ownNames_iff.mpr ⟨b, List.mem_of_getElem? hb, hother⟩
      exact fun h => htaken ⟨i, a, ha, hname, m, hm, h⟩
  | some n =>
    rw [indexName_of_ownName hname]
    cases hother : b.ownName? with
    | none =>
      rw [indexName_of_unnamed hother, Bool.eq_false_iff]
      have hn : n ∈ s.ownNames :=
        mem_ownNames_iff.mpr ⟨a, List.mem_of_getElem? ha, hname⟩
      exact fun h => htaken ⟨j, b, hb, hother, n, hn, h⟩
    | some m =>
      rw [indexName_of_ownName hother]
      have hpairs := List.pairwise_iff_getElem.mp (List.pairwise_filterMap.mp hown)
      obtain ⟨hi, rfl⟩ := List.getElem?_eq_some_iff.mp ha
      obtain ⟨hj, rfl⟩ := List.getElem?_eq_some_iff.mp hb
      exact hpairs i j hi hj hij n hname m hother

/-- The names of all indexes differ exactly when no generated name is taken. -/
theorem namesDiffer_indexNames_iff (hown : NamesDiffer s.ownNames) :
    NamesDiffer s.indexNames ↔ ¬s.TakesGenerated := by
  constructor
  · rintro hdiffer ⟨i, a, ha, hname, n, hn, hsame⟩
    obtain ⟨b, hb, hother⟩ := mem_ownNames_iff.mp hn
    obtain ⟨j, hj⟩ := List.mem_iff_getElem?.mp hb
    have hi_name : s.indexNames[i]? = some (s.generatedName i) := by
      rw [getElem?_indexNames, ha, Option.map_some, indexName_of_unnamed hname]
    have hj_name : s.indexNames[j]? = some n := by
      rw [getElem?_indexNames, hj, Option.map_some, indexName_of_ownName hother]
    -- one index is not both named and unnamed
    obtain rfl : j = i := hdiffer.eq_of_sameName hj_name hi_name hsame
    rw [Option.some.inj (ha.symm.trans hj), hother] at hname
    cases hname
  · intro htaken
    rw [NamesDiffer, List.pairwise_iff_getElem]
    intro i j hi hj hij
    obtain ⟨a, ha, ha_name⟩ := Option.map_eq_some_iff.mp
      ((getElem?_indexNames s i).symm.trans (List.getElem?_eq_getElem hi))
    obtain ⟨b, hb, hb_name⟩ := Option.map_eq_some_iff.mp
      ((getElem?_indexNames s j).symm.trans (List.getElem?_eq_getElem hj))
    rw [← ha_name, ← hb_name]
    exact sameName_indexName hown htaken ha hb hij

/-! ## Faults -/

theorem isDuplicateIndex_of_mem_unknownColumns {context : String} {names : List String}
    {e : MappingError} (h : e ∈ s.unknownColumns context names) : e.isDuplicateIndex = false := by
  rw [unknownColumns, List.mem_flatMap] at h
  obtain ⟨n, -, h⟩ := h
  rw [List.mem_singleton.mp (List.mem_ite_nil_left.mp h).2]
  rfl

theorem isDuplicateIndex_of_mem_fieldFaults {specs : List (FieldSpec M)}
    {earlier : List (FieldSpec M)} {e : MappingError}
    (h : e ∈ inTurn s.fieldFaults earlier specs) : e.isDuplicateIndex = false := by
  induction specs generalizing earlier with
  | nil => cases h
  | cons a specs ih =>
    rw [inTurn, fieldFaults, List.mem_append, List.mem_append] at h
    rcases h with (h | h) | h
    · rw [List.mem_singleton.mp (List.mem_ite_nil_right.mp h).2]
      rfl
    · rw [List.mem_singleton.mp (List.mem_ite_nil_right.mp h).2]
      rfl
    · exact ih h

theorem forall_mem_indexFaults_iff {earlier : List (String × IndexOptions)}
    {named : String × IndexOptions} :
    (∀ e ∈ s.indexFaults earlier named, e.isDuplicateIndex = false) ↔
      ∀ a ∈ earlier, Text.sameName a.1 named.1 = false := by
  constructor
  · intro h a ha
    rw [Bool.eq_false_iff]
    intro hsame
    have hany : (earlier.any fun b => Text.sameName b.1 named.1) = true :=
      List.any_eq_true.mpr ⟨a, ha, hsame⟩
    have hmem : MappingError.duplicateIndex s.tableName named.1 ∈ s.indexFaults earlier named := by
      rw [indexFaults, if_pos hany]
      exact List.mem_cons_self
    cases h _ hmem
  · intro h e he
    have hany : ¬(earlier.any fun b => Text.sameName b.1 named.1) = true := by
      rw [Bool.not_eq_true, List.any_eq_false]
      exact fun a ha => Bool.eq_false_iff.mp (h a ha)
    rw [indexFaults, if_neg hany, List.nil_append] at he
    exact isDuplicateIndex_of_mem_unknownColumns he

theorem forall_mem_inTurn_indexFaults_iff {earlier named : List (String × IndexOptions)} :
    (∀ e ∈ inTurn s.indexFaults earlier named, e.isDuplicateIndex = false) ↔
      (∀ a ∈ earlier, ∀ b ∈ named, Text.sameName a.1 b.1 = false) ∧
        NamesDiffer (named.map fun b => b.1) := by
  induction named generalizing earlier with
  | nil => simp [inTurn, NamesDiffer]
  | cons b named ih =>
    rw [inTurn, List.forall_mem_append, forall_mem_indexFaults_iff, ih, NamesDiffer,
      NamesDiffer, List.map_cons, List.pairwise_cons]
    simp only [List.mem_append, List.mem_cons, List.forall_mem_map]
    grind

theorem map_namedIndexes (s : ModelSchema M) :
    (s.namedIndexes.map fun i => i.1) = s.indexNames := by
  refine List.ext_getElem? fun i => ?_
  rw [namedIndexes, List.getElem?_map, List.getElem?_mapIdx, getElem?_indexNames, Option.map_map]
  rfl

/-- A name that two indexes have is a fault of the schema. -/
theorem forall_mem_faults_iff :
    (∀ e ∈ s.faults, e.isDuplicateIndex = false) ↔ NamesDiffer s.indexNames := by
  rw [faults, List.forall_mem_append, List.forall_mem_append, forall_mem_inTurn_indexFaults_iff,
    map_namedIndexes]
  constructor
  · exact fun h => h.2.2
  · exact fun h => ⟨⟨fun _ => isDuplicateIndex_of_mem_fieldFaults,
      fun _ => isDuplicateIndex_of_mem_unknownColumns⟩, List.forall_mem_nil _, h⟩

/-- Where own names differ, the name of an index is refused only when it is generated for one index
and another one is declared with it, and such a schema has no definition. -/
theorem define_indexNames (hown : NamesDiffer s.ownNames) (build : Nat) :
    (∀ e, s.define build = .error e → e.isDuplicateIndex = true → s.TakesGenerated) ∧
      (s.TakesGenerated → ∀ d, s.define build ≠ .ok d) := by
  refine ⟨fun e he hduplicate => ?_, fun htaken d hd => ?_⟩
  · by_contra htaken
    have hdiffer := (namesDiffer_indexNames_iff hown).mpr htaken
    have hmem : e ∈ s.faults := List.mem_of_mem_head? ((s.refuses_define build e).mp he)
    rw [forall_mem_faults_iff.mpr hdiffer e hmem] at hduplicate
    cases hduplicate
  · have hfaults : s.faults = [] := by
      cases hlist : s.faults with
      | nil => rfl
      | cons e later =>
        have herror := (s.refuses_define build e).mpr (by rw [hlist, List.head?_cons])
        rw [hd] at herror
        cases herror
    have hdiffer : NamesDiffer s.indexNames := by
      rw [← forall_mem_faults_iff, hfaults]
      exact List.forall_mem_nil _
    exact (namesDiffer_indexNames_iff hown).mp hdiffer htaken

/-! ### Tags by their labels -/

def tagLabel : FieldSpec String :=
  (FieldSpec.value String "label" id fun x _ => x).withColumn {}

/-- The labels have an index that is declared with a name, and one behind it that is not. -/
def tagSchema (first : String) : ModelSchema String :=
  (((named "Tag" "").addField tagLabel).addIndex
    { name := some first, columns := ["label"] }).addIndex { columns := ["label"] }

theorem ownName?_tagSchema {first : String} (h : Text.isBlankText first = false) :
    IndexOptions.ownName? { name := some first, columns := ["label"] } = some first := by
  rw [IndexOptions.ownName?, Option.filter_some, h]
  rfl

theorem ownNames_tagSchema {first : String} (h : Text.isBlankText first = false) :
    (tagSchema first).ownNames = [first] := by
  show List.filterMap IndexOptions.ownName? [_, _] = [first]
  rw [List.filterMap_cons_some (ownName?_tagSchema h)]
  rfl

theorem namesDiffer_tagSchema {first : String} (h : Text.isBlankText first = false) :
    NamesDiffer (tagSchema first).ownNames := by
  rw [ownNames_tagSchema h]
  exact List.pairwise_singleton _ _

theorem generatedName_tagSchema (first : String) : (tagSchema first).generatedName 1 = "Tag_1" := by
  show "Tag" ++ "_" ++ Numeral.ofNat 1 = "Tag_1"
  decide +kernel

theorem namedIndexes_tagSchema {first : String} (h : Text.isBlankText first = false) :
    (tagSchema first).namedIndexes =
      [(first, { name := some first, columns := ["label"] }),
        ("Tag_1", { columns := ["label"] })] := by
  have hfirst : (tagSchema first).indexName 0 { name := some first, columns := ["label"] } =
      first := indexName_of_ownName (ownName?_tagSchema h) 0
  have hsecond : (tagSchema first).indexName 1 { columns := ["label"] } = "Tag_1" :=
    (indexName_of_unnamed rfl 1).trans (generatedName_tagSchema first)
  calc (tagSchema first).namedIndexes
      = [((tagSchema first).indexName 0 _, _), ((tagSchema first).indexName 1 _, _)] := rfl
    _ = _ := by rw [hfirst, hsecond]

theorem takesGenerated_tagSchema_iff {first : String} (h : Text.isBlankText first = false) :
    (tagSchema first).TakesGenerated ↔ Text.sameName first "Tag_1" = true := by
  rw [← generatedName_tagSchema first]
  constructor
  · rintro ⟨i, o, ho, hname, n, hn, hsame⟩
    rw [ownNames_tagSchema h, List.mem_singleton] at hn
    rw [hn] at hsame
    match i with
    | 0 =>
      cases ho
      rw [ownName?_tagSchema h] at hname
      cases hname
    | 1 => exact hsame
    | i + 2 => cases ho
  · intro hsame
    refine ⟨1, _, rfl, rfl, first, ?_, hsame⟩
    rw [ownNames_tagSchema h]
    exact List.mem_singleton_self first

/-- A first index with the name of the second one leaves no definition, and one with the name that
would be generated for itself is no duplicate. -/
theorem define_indexNames_tag :
    (∀ d, (tagSchema "TAG_1").define 0 ≠ .ok d) ∧
      ∀ e, (tagSchema "Tag_0").define 0 = .error e → e.isDuplicateIndex = false := by
  have htaken : Text.isBlankText "TAG_1" = false := by decide +kernel
  have hfree : Text.isBlankText "Tag_0" = false := by decide +kernel
  refine ⟨(define_indexNames (namesDiffer_tagSchema htaken) 0).2 ?_, fun e he => ?_⟩
  · rw [takesGenerated_tagSchema_iff htaken, Text.sameName_eq_decide]
    decide
  · rw [Bool.eq_false_iff]
    intro hduplicate
    have hsame := (define_indexNames (namesDiffer_tagSchema hfree) 0).1 e he hduplicate
    rw [takesGenerated_tagSchema_iff hfree, Text.sameName_eq_decide] at hsame
    revert hsame
    decide

/-- The two indexes are not declared with one name, and still the definition refuses the second. -/
theorem define_tag_duplicateIndex :
    NamesDiffer (tagSchema "Tag_1").ownNames ∧
      (tagSchema "Tag_1").define 0 = .error (.duplicateIndex "Tag" "Tag_1") := by
  have hblank : Text.isBlankText "Tag_1" = false := by decide +kernel
  refine ⟨namesDiffer_tagSchema hblank, ((tagSchema "Tag_1").refuses_define 0 _).mpr ?_⟩
  have hselected : (tagSchema "Tag_1").selected = [tagLabel] := rfl
  rw [faults, namedIndexes_tagSchema hblank, hselected]
  simp only [inTurn, fieldFaults, indexFaults, unknownColumns, hselected, Text.sameName_eq_decide]
  rfl

end ModelSchema
end TableMapping
