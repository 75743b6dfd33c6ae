import TableMapping.Proofs.Json.Scalar

/-!
# Reading written documents

A document in compact form is read back with whatever stands behind it, as long as a number does
not go on there.  The reader of lists and objects reads their parts with the reader of one level
less, so the proof goes by the levels of the document: the parts are read by hypothesis, and the
loops over items and members need to know nothing else about them.

An object is built again by putting its members one by one into a sorted list.  They are already
sorted, so each goes to the end.

* `Json.Within`: documents with whole numbers and sorted objects, of at most so many levels.
* `Json.readItems?_chars`, `Json.readMembers?_chars`: the loops, given what is read of the parts.
* `Json.readDocument?_chars`: documents in front of anything that ends a number.
* `Json.parse?_print`: a whole text.
-/

namespace TableMapping
namespace Json

variable {item : List Char → Option (Json × List Char)} {j x : Json} {xs : List Json}
  {key : String} {ms : List (String × Json)} {c : Char} {cs rest : List Char} {levels bound : Nat}

/-! ## Sorted members -/

/-- The members of an object have one key each, and the keys ascend. -/
def Ascending (ms : List (String × Json)) : Prop :=
  ms.Pairwise fun m m' => m.1 < m'.1

theorem insert_of_lt (h : ∀ m ∈ ms, m.1 < key) (x : Json) :
    insert key x ms = ms ++ [(key, x)] := by
  induction ms with
  | nil => rfl
  | cons m ms ih =>
    have hm := h m List.mem_cons_self
    have hne : key ≠ m.1 := fun heq => String.lt_irrefl key (by rwa [← heq] at hm)
    rw [insert, if_neg (String.lt_asymm hm), if_neg hne,
      ih fun m' hm' => h m' (List.mem_cons_of_mem m hm'), List.cons_append]

theorem foldl_insert (before : List (String × Json)) (h : Ascending (before ++ ms)) :
    ms.foldl (fun sorted m => insert m.1 m.2 sorted) before = before ++ ms := by
  induction ms generalizing before with
  | nil => rw [List.foldl_nil, List.append_nil]
  | cons m ms ih =>
    have hlt : ∀ m' ∈ before, m'.1 < m.1 :=
      fun m' hm' => (List.pairwise_append.mp h).2.2 m' hm' m List.mem_cons_self
    have hconcat : before ++ m :: ms = before ++ [m] ++ ms := by simp
    rw [hconcat] at h ⊢
    rw [List.foldl_cons, insert_of_lt hlt, ih _ h]

theorem mem_insert {m : String × Json} (h : m ∈ insert key x ms) : m = (key, x) ∨ m ∈ ms := by
  induction ms with
  | nil => exact .inl (List.mem_singleton.mp h)
  | cons m' ms ih =>
    rw [insert] at h
    split_ifs at h
    · exact List.mem_cons.mp h
    · exact (List.mem_cons.mp h).imp_right (List.mem_cons_of_mem m')
    · rcases List.mem_cons.mp h with rfl | h
      · exact .inr List.mem_cons_self
      · exact (ih h).imp_right (List.mem_cons_of_mem m')

theorem Ascending.insert (h : Ascending ms) (key : String) (x : Json) :
    Ascending (insert key x ms) := by
  induction ms with
  | nil => exact List.pairwise_singleton _ _
  | cons m ms ih =>
    obtain ⟨hfirst, hrest⟩ := List.pairwise_cons.mp h
    rw [Json.insert]
    split_ifs with hlt heq
    · refine List.pairwise_cons.mpr ⟨fun m' hm' => ?_, h⟩
      rcases List.mem_cons.mp hm' with rfl | hm'
      · exact hlt
      · exact String.lt_trans hlt (hfirst m' hm')
    · rw [heq]
      exact List.pairwise_cons.mpr ⟨hfirst, hrest⟩
    · have hbehind : m.1 < key := by
        by_contra hle
        exact heq (String.le_antisymm (String.not_lt.mp hle) (String.not_lt.mp hlt))
      refine List.pairwise_cons.mpr ⟨fun m' hm' => ?_, ih hrest⟩
      rcases mem_insert hm' with rfl | hm'
      · exact hbehind
      · exact hfirst m' hm'

/-- Members that ascend are the members of the object that is built from them. -/
theorem ofMembers_of_ascending (h : Ascending ms) : ofMembers ms = .object ms := by
  rw [ofMembers, foldl_insert [] h, List.nil_append]

/-! ## Documents -/

/-- A document of at most so many levels of lists and objects, all of whose numbers are whole and
all of whose objects are sorted. -/
inductive Within : Nat → Json → Prop where
  | null {levels : Nat} : Within levels .null
  | bool {levels : Nat} (b : Bool) : Within levels (.bool b)
  | number {levels : Nat} {n : JsonNumber} (h : n.IsWhole) : Within levels (.number n)
  | text {levels : Nat} (s : String) : Within levels (.text s)
  | list {levels : Nat} {items : List Json} (h : ∀ x ∈ items, Within levels x) :
      Within (levels + 1) (.list items)
  | object {levels : Nat} {members : List (String × Json)} (hsorted : Ascending members)
      (h : ∀ m ∈ members, Within levels m.2) : Within (levels + 1) (.object members)

theorem Within.mono {more : Nat} (h : Within levels j) (hle : levels ≤ more) : Within more j := by
  induction h generalizing more with
  | null => exact .null
  | bool b => exact .bool b
  | number h => exact .number h
  | text s => exact .text s
  | list _ ih =>
    obtain ⟨more, rfl⟩ := Nat.exists_eq_add_one.mpr (Nat.zero_lt_of_lt hle)
    exact .list fun x hx => ih x hx (Nat.le_of_succ_le_succ hle)
  | object hsorted _ ih =>
    obtain ⟨more, rfl⟩ := Nat.exists_eq_add_one.mpr (Nat.zero_lt_of_lt hle)
    exact .object hsorted fun m hm => ih m hm (Nat.le_of_succ_le_succ hle)

theorem within_foldl_insert {before : List (String × Json)} (hsorted : Ascending before)
    (hbefore : ∀ m ∈ before, Within levels m.2) (h : ∀ m ∈ ms, Within levels m.2) :
    Within (levels + 1) (.object (ms.foldl (fun sorted m => insert m.1 m.2 sorted) before)) := by
  induction ms generalizing before with
  | nil => exact .object hsorted hbefore
  | cons m ms ih =>
    refine ih (hsorted.insert m.1 m.2) (fun m' hm' => ?_)
      fun m' hm' => h m' (List.mem_cons_of_mem m hm')
    rcases mem_insert hm' with rfl | hm'
    · exact h m List.mem_cons_self
    · exact hbefore m' hm'

/-- Every object that is built from its members is sorted. -/
theorem Within.ofMembers (h : ∀ m ∈ ms, Within levels m.2) : Within (levels + 1) (ofMembers ms) :=
  within_foldl_insert .nil (List.forall_mem_nil _) h

/-! ## The front of a document -/

theorem skipSpace_cons (h : isSpace c = false) (cs : List Char) :
    skipSpace (c :: cs) = c :: cs := by
  rw [skipSpace, List.dropWhile_cons, h, if_neg Bool.false_ne_true]

theorem isSpace_of_startsNumber (h : StartsNumber c) : isSpace c = false := by
  rcases h with rfl | h
  · rfl
  · have hbounds := Text.toNat_of_isDigit h
    have hne : ∀ d : Char, d.toNat < 48 → c ≠ d := by
      rintro d hd rfl
      omega
    simp [isSpace, hne ' ' (by decide), hne '\t' (by decide), hne '\n' (by decide),
      hne '\r' (by decide)]

theorem ne_of_startsNumber {d : Char} (h : StartsNumber c) (hsign : d ≠ '-')
    (hdigit : d.isDigit = false) : c ≠ d := by
  rintro rfl
  rcases h with h | h
  · exact hsign h
  · exact nomatch hdigit.symm.trans h

/-- A document starts with a character that is neither a blank nor a closing bracket. -/
theorem exists_cons_chars (h : Within levels j) :
    ∃ c cs, j.chars = c :: cs ∧ isSpace c = false ∧ c ≠ ']' := by
  cases h with
  | null => exact ⟨'n', _, rfl, rfl, by decide⟩
  | bool b =>
    cases b with
    | false => exact ⟨'f', _, rfl, rfl, by decide⟩
    | true => exact ⟨'t', _, rfl, rfl, by decide⟩
  | number h =>
    obtain ⟨c, cs, hcs, hstart⟩ := exists_cons_text h
    exact ⟨c, cs, hcs, isSpace_of_startsNumber hstart,
      ne_of_startsNumber hstart (by decide) (by decide)⟩
  | text s => exact ⟨'"', _, rfl, rfl, by decide⟩
  | @list _ items _ =>
    cases items with
    | nil => exact ⟨'[', _, rfl, rfl, by decide⟩
    | cons x xs => exact ⟨'[', _, rfl, rfl, by decide⟩
  | @object _ members _ _ =>
    cases members with
    | nil => exact ⟨'\x7b', _, rfl, rfl, by decide⟩
    | cons m ms => exact ⟨'\x7b', _, rfl, rfl, by decide⟩

theorem textChars_append (s : String) (rest : List Char) :
    textChars s ++ rest = '"' :: (s.toList.flatMap escaped ++ '"' :: rest) := by
  rw [textChars, List.cons_append, List.cons_append, List.append_assoc, List.singleton_append]

theorem skipSpace_textChars (s : String) (rest : List Char) :
    skipSpace (textChars s ++ rest) = textChars s ++ rest :=
  skipSpace_cons rfl _

theorem skipSpace_chars (h : Within levels j) (rest : List Char) :
    skipSpace (j.chars ++ rest) = j.chars ++ rest := by
  obtain ⟨c, cs, hcs, hspace, -⟩ := exists_cons_chars h
  rw [hcs, List.cons_append, skipSpace_cons hspace]

/-! ## Lists and objects -/

/-- A document starts with no blank and is not taken for the end of a list, and a reader reads it
back in front of anything that ends a number. -/
structure ReadBy (item : List Char → Option (Json × List Char)) (x : Json) : Prop where
  start : ∀ rest, skipSpace (x.chars ++ rest) = x.chars ++ rest
  bracket : ∀ rest cs, x.chars ++ rest ≠ ']' :: cs
  read : ∀ rest, EndsNumber rest → item (x.chars ++ rest) = some (x, rest)

theorem Within.readBy (h : Within levels j)
    (hread : ∀ rest, EndsNumber rest → item (j.chars ++ rest) = some (j, rest)) :
    ReadBy item j := by
  obtain ⟨c, cs, hcs, hspace, hbracket⟩ := exists_cons_chars h
  refine ⟨skipSpace_chars h, fun rest ds heq => ?_, hread⟩
  rw [hcs] at heq
  exact hbracket (List.cons.inj heq).1

/-- The marks behind the parts of lists and objects end a number. -/
theorem endsNumber_mark (h : c ∈ [',', ']', '\x7d']) (cs : List Char) : EndsNumber (c :: cs) := by
  intro d hd
  rw [← Option.some.inj hd]
  simp only [List.mem_cons, List.not_mem_nil, or_false] at h
  rcases h with rfl | rfl | rfl <;> decide

theorem endsNumber_tailChars (xs : List Json) (rest : List Char) :
    EndsNumber (tailChars xs ++ rest) := by
  cases xs with
  | nil => exact endsNumber_mark (by decide) rest
  | cons x xs => exact endsNumber_mark (by decide) _

theorem length_lt_tailChars (xs : List Json) : xs.length < (tailChars xs).length := by
  induction xs with
  | nil => decide
  | cons x xs ih =>
    rw [tailChars, List.cons_append, List.length_cons, List.length_cons, List.length_append]
    omega

theorem length_lt_memberChars (ms : List (String × Json)) : ms.length < (memberChars ms).length := by
  induction ms with
  | nil => decide
  | cons m ms ih =>
    rw [memberChars, List.length_append, List.length_cons]
    simp only [List.length_cons, List.cons_append]
    omega

/-- The items of a list are read back up to the closing bracket. -/
theorem readItems?_chars (h : ∀ y ∈ x :: xs, ReadBy item y) (hbound : xs.length < bound)
    (rest : List Char) :
    readItems? item bound (x.chars ++ (tailChars xs ++ rest)) = some (x :: xs, rest) := by
  induction xs generalizing x bound with
  | nil =>
    obtain ⟨bound, rfl⟩ := Nat.exists_eq_add_one.mpr (Nat.zero_lt_of_lt hbound)
    have hx := h x List.mem_cons_self
    rw [readItems?, hx.start, hx.read _ (endsNumber_tailChars [] rest)]
    rfl
  | cons y ys ih =>
    obtain ⟨bound, rfl⟩ := Nat.exists_eq_add_one.mpr (Nat.zero_lt_of_lt hbound)
    have hx := h x List.mem_cons_self
    have hrest := ih (fun z hz => h z (List.mem_cons_of_mem x hz)) (Nat.lt_of_succ_lt_succ hbound)
    have htail : tailChars (y :: ys) ++ rest = ',' :: (y.chars ++ (tailChars ys ++ rest)) := by
      rw [tailChars, List.append_assoc, List.cons_append]
    have hcomma := skipSpace_cons (c := ',') rfl (y.chars ++ (tailChars ys ++ rest))
    rw [readItems?, hx.start, hx.read _ (endsNumber_tailChars (y :: ys) rest), htail]
    simp only [Option.bind_eq_bind, Option.bind_some, hcomma, hrest]
    rfl

/-- A member in front of the closing brace is the last one. -/
theorem readMembers?_last (hx : ReadBy item x) (bound : Nat) (rest : List Char) :
    readMembers? item (bound + 1) (textChars key ++ ':' :: (x.chars ++ '\x7d' :: rest)) =
      some ([(key, x)], rest) := by
  have hcolon := skipSpace_cons (c := ':') rfl (x.chars ++ '\x7d' :: rest)
  have hbrace := skipSpace_cons (c := '\x7d') rfl rest
  have hends : EndsNumber ('\x7d' :: rest) := endsNumber_mark (by decide) rest
  rw [textChars_append, readMembers?, skipSpace_cons rfl]
  simp only [readText?_escaped, Option.bind_eq_bind, Option.bind_some, hcolon, hx.start,
    hx.read _ hends, hbrace]
  rfl

/-- Behind a member and a comma the other members are read. -/
theorem readMembers?_more (hx : ReadBy item x)
    (hmore : readMembers? item bound cs = some (ms, rest)) :
    readMembers? item (bound + 1) (textChars key ++ ':' :: (x.chars ++ ',' :: cs)) =
      some ((key, x) :: ms, rest) := by
  have hcolon := skipSpace_cons (c := ':') rfl (x.chars ++ ',' :: cs)
  have hcomma := skipSpace_cons (c := ',') rfl cs
  have hends : EndsNumber (',' :: cs) := endsNumber_mark (by decide) cs
  rw [textChars_append, readMembers?, skipSpace_cons rfl]
  simp only [readText?_escaped, Option.bind_eq_bind, Option.bind_some, hcolon, hx.start,
    hx.read _ hends, hcomma, hmore]
  rfl

/-- The members of an object are read back up to the closing brace. -/
theorem readMembers?_chars (h : ∀ m ∈ (key, x) :: ms, ReadBy item m.2) (hbound : ms.length < bound)
    (rest : List Char) :
    readMembers? item bound (textChars key ++ ':' :: (x.chars ++ (memberChars ms ++ rest))) =
      some ((key, x) :: ms, rest) := by
  induction ms generalizing key x bound with
  | nil =>
    obtain ⟨bound, rfl⟩ := Nat.exists_eq_add_one.mpr (Nat.zero_lt_of_lt hbound)
    exact readMembers?_last (h (key, x) List.mem_cons_self) bound rest
  | cons m ms ih =>
    obtain ⟨bound, rfl⟩ := Nat.exists_eq_add_one.mpr (Nat.zero_lt_of_lt hbound)
    have hrest := ih (fun m' hm' => h m' (List.mem_cons_of_mem _ hm'))
      (Nat.lt_of_succ_lt_succ hbound)
    have htail : memberChars (m :: ms) ++ rest =
        ',' :: (textChars m.1 ++ ':' :: (m.2.chars ++ (memberChars ms ++ rest))) := by
      rw [memberChars]
      simp only [List.cons_append, List.append_assoc]
    rw [htail]
    exact readMembers?_more (h (key, x) List.mem_cons_self) hrest

/-! ## Whole documents -/

theorem readDocument?_of_head (levels : Nat) (hbracket : c ≠ '[') (hbrace : c ≠ '\x7b')
    (cs : List Char) : readDocument? levels (c :: cs) = readScalar? (c :: cs) := by
  have hlist : ∀ tail, c :: cs = '[' :: tail → False :=
    fun _ heq => hbracket (List.cons.inj heq).1
  have hobject : ∀ tail, c :: cs = '\x7b' :: tail → False :=
    fun _ heq => hbrace (List.cons.inj heq).1
  cases levels with
  | zero =>
    rw [readDocument?]
    exacts [hlist, hobject]
  | succ levels =>
    rw [readDocument?]
    exacts [hlist, hobject]

theorem readScalar?_number {n : JsonNumber} (h : n.IsWhole) (hrest : EndsNumber rest) :
    readScalar? (n.text.toList ++ rest) = some (.number n, rest) := by
  obtain ⟨c, cs, hcs, hstart⟩ := exists_cons_text h
  have hread := readNumber?_text h hrest
  rw [hcs, List.cons_append] at hread ⊢
  have hne : ∀ d : Char, d ≠ '-' → d.isDigit = false → ∀ tail, c :: (cs ++ rest) = d :: tail →
      False :=
    fun d hsign hdigit _ heq => ne_of_startsNumber hstart hsign hdigit (List.cons.inj heq).1
  rw [readScalar?, hread, Option.map_some]
  · exact fun _ => hne 'n' (by decide) (by decide) _
  · exact fun _ => hne 't' (by decide) (by decide) _
  · exact fun _ => hne 'f' (by decide) (by decide) _
  · exact fun _ => hne '"' (by decide) (by decide) _

theorem readScalar?_text (s : String) (rest : List Char) :
    readScalar? (textChars s ++ rest) = some (.text s, rest) := by
  rw [textChars_append, readScalar?, readText?_escaped]
  rfl

theorem readDocument?_list (h : ∀ x ∈ xs, ReadBy (readDocument? levels) x) (rest : List Char) :
    readDocument? (levels + 1) ((Json.list xs).chars ++ rest) = some (.list xs, rest) := by
  cases xs with
  | nil => rfl
  | cons x xs =>
    have hx := h x List.mem_cons_self
    -- the loop may take as many turns as there are characters, and each item has a mark behind it
    have hbound : xs.length < (x.chars ++ (tailChars xs ++ rest)).length := by
      have hlong := length_lt_tailChars xs
      rw [List.length_append, List.length_append]
      omega
    have hitems := readItems?_chars h hbound rest
    rw [chars, List.append_assoc, List.cons_append, readDocument?, hx.start]
    split
    · rename_i heq
      exact absurd heq (hx.bracket _ _)
    · rw [hitems]
      rfl

theorem readDocument?_object (h : ∀ m ∈ ms, ReadBy (readDocument? levels) m.2)
    (hsorted : Ascending ms) (rest : List Char) :
    readDocument? (levels + 1) ((Json.object ms).chars ++ rest) = some (.object ms, rest) := by
  cases ms with
  | nil => rfl
  | cons m ms =>
    have hbound : ms.length <
        (textChars m.1 ++ ':' :: (m.2.chars ++ (memberChars ms ++ rest))).length := by
      have hlong := length_lt_memberChars ms
      simp only [List.length_append, List.length_cons]
      omega
    have hmembers := readMembers?_chars h hbound rest
    have hfront : (Json.object (m :: ms)).chars ++ rest =
        '\x7b' :: (textChars m.1 ++ ':' :: (m.2.chars ++ (memberChars ms ++ rest))) := by
      rw [chars]
      simp only [List.cons_append, List.append_assoc]
    rw [hfront, readDocument?, skipSpace_textChars]
    split
    · rename_i heq
      exact absurd (List.cons.inj heq).1 (by decide)
    · rw [hmembers, ← ofMembers_of_ascending hsorted]
      rfl

/-- A document is read back in front of anything that ends a number. -/
theorem readDocument?_chars (h : Within levels j) {rest : List Char} (hrest : EndsNumber rest) :
    readDocument? levels (j.chars ++ rest) = some (j, rest) := by
  induction h generalizing rest with
  | null => exact readDocument?_of_head _ (by decide) (by decide) _
  | bool b =>
    cases b with
    | false => exact readDocument?_of_head _ (by decide) (by decide) _
    | true => exact readDocument?_of_head _ (by decide) (by decide) _
  | number h =>
    obtain ⟨c, cs, hcs, hstart⟩ := exists_cons_text h
    have hread := readScalar?_number h hrest
    rw [chars]
    rw [hcs, List.cons_append] at hread ⊢
    rw [readDocument?_of_head _ (ne_of_startsNumber hstart (by decide) (by decide))
      (ne_of_startsNumber hstart (by decide) (by decide)), hread]
  | text s =>
    rw [chars, ← readScalar?_text s rest]
    exact readDocument?_of_head _ (by decide) (by decide) _
  | list h ih =>
    exact readDocument?_list (fun x hx => (h x hx).readBy fun _ => ih x hx) rest
  | object hsorted h ih =>
    exact readDocument?_object (fun m hm => (h m hm).readBy fun _ => ih m hm) hsorted rest

/-- A document of at most as many levels as are read is read back from its text. -/
theorem parse?_print (h : Within maxLevels j) : parse? j.print = some j := by
  have hread := readDocument?_chars h endsNumber_nil
  have hstart := skipSpace_chars h []
  rw [List.append_nil] at hread hstart
  rw [parse?, print, String.toList_ofList, hstart, hread]
  rfl

/-- The members of an object are written in the order of their keys. -/
example : (ofMembers [("b", .list []), ("a\"", .text "\x01")]).print =
    "\x7b\"a\\\"\":\"\\u0001\",\"b\":[]\x7d" := by decide

end Json
end TableMapping
