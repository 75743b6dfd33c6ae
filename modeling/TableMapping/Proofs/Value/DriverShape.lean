import TableMapping.Proofs.Calendar.Time
import TableMapping.Proofs.Number.FixedPoint
import TableMapping.Proofs.Uuid
import TableMapping.Proofs.Value.ColumnForm

/-!
# The shapes in which values come back

An engine need not return a value as it was bound.  Numbers come back wider or as numerals, the
types that it does not have as texts, with or without blanks around them, and texts and bytes in
place of one another.  Coercion to the type of the field gives the value back.  Two kinds of values
are not told by their texts: a decimal zero with a minus sign, and a time within a leap second that
is not the end of a minute, which has the text of the next second.

* `DriverShape`: what a value of a field type may look like.
* `DriverShape.coerce_eq`: it is read as the value.
* `Member.decode_ordinal_bigInt`, `Member.decode_id_bigInt`: the numbers that stand for members.
* `driver_shapes_read_back`: all shapes.
-/

namespace TableMapping

open Text

/-! ## The shapes -/

/-- The integers of a field type, and the 64-bit number each of them is. -/
inductive IntegerForm : FieldType → Scalar → Int64 → Prop
  | tinyInt (n : Int8) : IntegerForm .tinyInt (.tinyInt n) n.toInt64
  | smallInt (n : Int16) : IntegerForm .smallInt (.smallInt n) n.toInt64
  | int (n : Int32) : IntegerForm .int (.int n) n.toInt64
  | bigInt (n : Int64) : IntegerForm .bigInt (.bigInt n) n

/-- What an engine may return for a value of a field type. -/
inductive DriverShape : FieldType → Scalar → Value → Prop
  /-- A truth value as zero or one. -/
  | truth (b : Bool) : DriverShape .bool (.bool b) (.of (.bigInt (if b then 1 else 0)))
  /-- An integer with 64 bits. -/
  | wide {t : FieldType} {v : Scalar} {n : Int64} (h : IntegerForm t v n) :
      DriverShape t v (.of (.bigInt n))
  /-- An integer as a numeral. -/
  | numeral {t : FieldType} {v : Scalar} {n : Int64} (h : IntegerForm t v n) {s : String}
      (hs : Surrounds s (Numeral.ofInt n.toInt).toList) : DriverShape t v (.text s)
  /-- A decimal as its plain text, unless it is a zero with a minus sign. -/
  | decimal {d : FixedPoint} (hsign : d.negative = true → d.coefficient ≠ 0) {s : String}
      (hs : Surrounds s d.text.toList) : DriverShape .decimal (.decimal d) (.text s)
  /-- A date as its text. -/
  | date (d : Calendar.Date) {s : String} (hs : Surrounds s d.text.toList) :
      DriverShape .date (.date d) (.text s)
  /-- A date as a text of any point in time of the day. -/
  | dayOf (x : Calendar.DateTime) {cs : List Char} (hcs : x.IsText cs) {s : String}
      (hs : Surrounds s cs) : DriverShape .date (.date x.date) (.text s)
  /-- A time of day as a text, with a fraction or without, leap seconds at the end of a minute
  included. -/
  | time {x : Calendar.Time} (hleap : ¬x.LeapsWithin) {cs : List Char} (hcs : x.IsText cs)
      {s : String} (hs : Surrounds s cs) : DriverShape .time (.time x) (.text s)
  /-- A point in time as a text, with a blank or a `T` in the middle. -/
  | dateTime {x : Calendar.DateTime} (hleap : ¬x.time.LeapsWithin) {cs : List Char}
      (hcs : x.IsText cs) {s : String} (hs : Surrounds s cs) :
      DriverShape .dateTime (.dateTime x) (.text s)
  /-- An identifier in its hyphenated form. -/
  | uuid (u : Uuid) {s : String} (hs : Surrounds s u.text.toList) :
      DriverShape .uuid (.uuid u) (.text s)
  /-- An identifier as its sixteen bytes. -/
  | uuidBytes (u : Uuid) {b : ByteArray} (hb : b.toList = u.bytes) :
      DriverShape .uuid (.uuid u) (.of (.bytes b))
  /-- A text as its bytes. -/
  | string (s : String) : DriverShape .string (.string s) (.of (.bytes s.toUTF8))
  /-- The bytes of a text as the text. -/
  | bytes (s : String) : DriverShape .bytes (.bytes s.toUTF8) (.text s)

/-! ## Integers -/

namespace Value

variable {s s' : Scalar} {n : Int64} {w : Value}

/-- Only the number counts, not what it is written in. -/
theorem coerceInteger_congr {t : FieldType} {low high : Int} {make : Int → Scalar}
    (hs : s.integer? = some n) (hs' : s'.integer? = some n)
    (h : coerceInteger s t low high make = .ok w) : coerceInteger s' t low high make = .ok w := by
  unfold coerceInteger at h ⊢
  rw [hs] at h
  rw [hs']
  simp only at h ⊢
  split at h
  · rename_i hrange
    rw [if_pos hrange]
    exact h
  · exact nomatch h

end Value

theorem int64OfInt?_toInt (n : Int64) : int64OfInt? n.toInt = some n := by
  have hlow := n.le_toInt
  have hhigh := n.toInt_lt
  rw [int64OfInt?, if_pos ⟨by omega, by omega⟩, Int64.ofInt_toInt]

/-- The numeral of a number has its value, blanks aside. -/
theorem Scalar.integer?_numeral {n : Int64} {s : String}
    (hs : Surrounds s (Numeral.ofInt n.toInt).toList) : (Scalar.string s).integer? = some n := by
  show (Text.integer? s).bind int64OfInt? = some n
  rw [Text.integer?, trimBoth_of_surrounds hs (isTrimmed_ofInt _), Numeral.integer?_ofInt,
    Option.bind_some, int64OfInt?_toInt]

/-- Whatever stands for the number of an integer is read as the integer. -/
theorem IntegerForm.coerce_eq {t : FieldType} {v s : Scalar} {n : Int64} (h : IntegerForm t v n)
    (hs : s.integer? = some n) : (Value.of s).coerce t = .ok (.of v) := by
  cases h with
  | tinyInt n =>
    have hown := Value.coerce_tinyInt n
    simp only [Value.coerce, Value.coerceScalar] at hown ⊢
    exact Value.coerceInteger_congr rfl hs hown
  | smallInt n =>
    have hown := Value.coerce_smallInt n
    simp only [Value.coerce, Value.coerceScalar] at hown ⊢
    exact Value.coerceInteger_congr rfl hs hown
  | int n =>
    have hown := Value.coerce_int n
    simp only [Value.coerce, Value.coerceScalar] at hown ⊢
    exact Value.coerceInteger_congr rfl hs hown
  | bigInt n =>
    have hown := Value.coerce_bigInt n
    simp only [Value.coerce, Value.coerceScalar] at hown ⊢
    exact Value.coerceInteger_congr rfl hs hown

/-! ## Texts -/

namespace Value

variable {s : String} {cs : List Char}

/-- The decimal of a text is the one of its plain part, which has lost the sign of a zero. -/
theorem coerce_decimalText (d : FixedPoint) (hs : Surrounds s d.text.toList) :
    (Value.text s).coerce .decimal = .ok (.of (.decimal d.withoutZeroSign)) := by
  have hread : FixedPoint.read? (trimmedChars s) = some d.withoutZeroSign := by
    rw [trimmedChars, trimBoth_of_surrounds hs d.isTrimmed_text, d.read?_text]
  show (orReason _ (FixedPoint.read? (trimmedChars s))).map _ = _
  rw [hread]
  rfl

theorem coerce_dateText {d : Calendar.Date} (hcs : IsTrimmed cs)
    (hread : ((Calendar.Date.read? cs).or
      ((Calendar.DateTime.read? cs).map Calendar.DateTime.date)) = some d)
    (hs : Surrounds s cs) : (Value.text s).coerce .date = .ok (.of (.date d)) := by
  show (orReason _ ((Calendar.Date.read? (trimmedChars s)).or
    ((Calendar.DateTime.read? (trimmedChars s)).map Calendar.DateTime.date))).map _ = _
  rw [trimmedChars, trimBoth_of_surrounds hs hcs, hread]
  rfl

theorem coerce_timeText {x : Calendar.Time} (hcs : x.IsText cs) (hs : Surrounds s cs) :
    (Value.text s).coerce .time = .ok (.of (.time x.shown)) := by
  show (orReason _ (Calendar.Time.read? (trimmedChars s))).map _ = _
  rw [trimmedChars, trimBoth_of_surrounds hs (Calendar.Time.isTrimmed_of_isText hcs),
    Calendar.Time.read?_of_isText hcs]
  rfl

theorem coerce_dateTimeText {x : Calendar.DateTime} (hcs : x.IsText cs) (hs : Surrounds s cs) :
    (Value.text s).coerce .dateTime = .ok (.of (.dateTime x.shown)) := by
  show (orReason _ (Calendar.DateTime.read? (trimmedChars s))).map _ = _
  rw [trimmedChars, trimBoth_of_surrounds hs (Calendar.DateTime.isTrimmed_of_isText hcs),
    Calendar.DateTime.read?_of_isText hcs]
  rfl

theorem coerce_uuidText {u : Uuid} (hs : Surrounds s u.text.toList) :
    (Value.text s).coerce .uuid = .ok (.of (.uuid u)) := by
  show (orReason _ (Uuid.read? (trimmedChars s))).map _ = _
  rw [trimmedChars, trimBoth_of_surrounds hs u.isTrimmed_text, u.read?_text]
  rfl

theorem coerce_uuidBytes {u : Uuid} {b : ByteArray} (hb : b.toList = u.bytes) :
    (Value.of (.bytes b)).coerce .uuid = .ok (.of (.uuid u)) := by
  show (orReason _ (Uuid.ofBytes? b.toList)).map _ = _
  rw [hb, u.ofBytes?_bytes]
  rfl

theorem coerce_textBytes (s : String) :
    (Value.of (.bytes s.toUTF8)).coerce .string = .ok (.text s) := by
  have hutf8 : String.fromUTF8? s.toUTF8 = some s := dif_pos s.isValidUTF8
  show (orReason _ (String.fromUTF8? s.toUTF8)).map _ = _
  rw [hutf8]
  rfl

end Value

/-- Whatever shape a value comes back in, coercion to its type gives it back. -/
theorem DriverShape.coerce_eq {t : FieldType} {v : Scalar} {raw : Value}
    (h : DriverShape t v raw) : raw.coerce t = .ok (.of v) := by
  cases h with
  | truth b => cases b <;> rfl
  | wide h => exact h.coerce_eq rfl
  | numeral h hs => exact h.coerce_eq (Scalar.integer?_numeral hs)
  | @decimal d hsign s hs =>
    have hread := Value.coerce_decimalText d hs
    rwa [FixedPoint.withoutZeroSign_eq hsign] at hread
  | date d hs =>
    rw [Calendar.Date.text, String.toList_ofList] at hs
    exact Value.coerce_dateText d.isTrimmed_chars (by rw [d.read?_chars]; rfl) hs
  | @dayOf x cs hcs s hs =>
    have hread : ((Calendar.Date.read? cs).or
        ((Calendar.DateTime.read? cs).map Calendar.DateTime.date)) = some x.date := by
      rw [Calendar.DateTime.date_read?_of_isText hcs, Calendar.DateTime.read?_of_isText hcs]
      rfl
    exact Value.coerce_dateText (Calendar.DateTime.isTrimmed_of_isText hcs) hread hs
  | @time x hleap cs hcs s hs =>
    have hread := Value.coerce_timeText hcs hs
    rwa [x.shown_eq_self_iff.mpr hleap] at hread
  | @dateTime x hleap cs hcs s hs =>
    have hread := Value.coerce_dateTimeText hcs hs
    rwa [x.shown_eq_self_iff.mpr hleap] at hread
  | uuid u hs => exact Value.coerce_uuidText hs
  | uuidBytes u hb => exact Value.coerce_uuidBytes hb
  | string s => exact Value.coerce_textBytes s
  | bytes s => rfl

/-! ## Members by number -/

namespace Member

variable {m : Member}

theorem decode_ordinal_bigInt {n : Int64} (hn : n.toInt = m.ordinal) :
    decode m.enumeration .ordinal (.of (.bigInt n)) = .ok (some m) := by
  have hlt := m.ordinal_lt
  refine decode_of_ordinalOfValue? rfl ?_
  show m.enumeration.ordinalOfNumber? n = some m.ordinal
  rw [Enumeration.ordinalOfNumber?, if_pos ⟨by omega, by omega⟩, hn, Int.toNat_natCast]

/-- Members without an identifier do not matter. -/
theorem decode_id_bigInt {id : Int32} (distinct : (m.enumeration.members.filterMap (·.id)).Nodup)
    (hid : m.declaration.id = some id) :
    decode m.enumeration .id (.of (.bigInt id.toInt64)) = .ok (some m) := by
  have hm := m.ordinal_lt
  have hid' : m.enumeration.members[m.ordinal].id = some id := hid
  refine decode_of_ordinalOfValue? rfl ?_
  show m.enumeration.ordinalOfId? id.toInt64 = some m.ordinal
  rw [Enumeration.ordinalOfId?, List.findIdx?_eq_some_iff_getElem]
  refine ⟨hm, by rw [hid']; exact beq_self_eq_true _, fun j hj heq => ?_⟩
  rw [beq_iff_eq, Option.map_eq_some_iff] at heq
  obtain ⟨id', hid'', hsame⟩ := heq
  have hinj : id' = id := by
    rw [← Int32.toInt_inj, ← Int32.toInt_toInt64 id', hsame, Int32.toInt_toInt64]
  have hpairs := List.pairwise_filterMap.mp distinct
  exact List.pairwise_iff_getElem.mp hpairs j m.ordinal (Nat.lt_trans hj hm) hm hj id'
    (by rw [hid'']) id (by rw [hid']) hinj

end Member

/-! ## All shapes -/

/-- A value of the type table that comes back in one of its shapes is read as it was.  A decimal zero
loses its sign in its text, and nothing else.  A time within a leap second that is not the end of a
minute is read as the time in the next second that has the same texts; the date of a point in time
is kept.  A member is read from its position or from its identifier with 64 bits. -/
theorem driver_shapes_read_back :
    (∀ t v raw, DriverShape t v raw → raw.coerce t = .ok (.of v)) ∧
    (∀ (d : FixedPoint) (s : String), Surrounds s d.text.toList →
      ∃ d' : FixedPoint, (Value.text s).coerce .decimal = .ok (.of (.decimal d')) ∧
        d'.coefficient = d.coefficient ∧ d'.scale = d.scale ∧
          d'.negative = (d.negative && d.coefficient != 0)) ∧
    (∀ (x : Calendar.Time), x.IsText x.chars) ∧
    (∀ (x : Calendar.DateTime) (mark : Char), mark = ' ' ∨ mark = 'T' →
      x.IsText (x.chars mark)) ∧
    (∀ (x : Calendar.Time) (cs : List Char) (s : String), x.IsText cs → Surrounds s cs →
      (Value.text s).coerce .time = .ok (.of (.time x.shown))) ∧
    (∀ (x : Calendar.DateTime) (cs : List Char) (s : String), x.IsText cs → Surrounds s cs →
      (Value.text s).coerce .dateTime = .ok (.of (.dateTime ⟨x.date, x.time.shown⟩))) ∧
    (∀ x : Calendar.Time, x.LeapsWithin → x.shown.chars = x.chars ∧ x.shown.hour = x.hour ∧
      x.shown.minute = x.minute ∧ x.shown.second = x.second + 1 ∧
        x.shown.nano = x.nano - 1000000000) ∧
    (∀ (m : Member) (n : Int64), n.toInt = m.ordinal →
      Member.decode m.enumeration .ordinal (.of (.bigInt n)) = .ok (some m)) ∧
    ∀ (m : Member) (id : Int32), (m.enumeration.members.filterMap (·.id)).Nodup →
      m.declaration.id = some id →
        Member.decode m.enumeration .id (.of (.bigInt id.toInt64)) = .ok (some m) := by
  refine ⟨fun t v raw => DriverShape.coerce_eq, fun d s hs => ?_, fun x => x.isText_chars,
    fun x mark => x.isText_chars, fun x cs s => Value.coerce_timeText,
    fun x cs s => Value.coerce_dateTimeText, fun x hleap => ?_,
    fun m n => Member.decode_ordinal_bigInt, fun m id => Member.decode_id_bigInt⟩
  · exact ⟨d.withoutZeroSign, Value.coerce_decimalText d hs, rfl, rfl, rfl⟩
  · obtain ⟨hsecond, hnano⟩ := Calendar.Time.shown_of_leapsWithin hleap
    obtain ⟨hhour, hminute⟩ := x.hour_minute_shown
    exact ⟨x.chars_shown, hhour, hminute, hsecond, hnano⟩

/-! ### Leap seconds, and zero -/

/-- Half a leap second at the end of the 15th of March of the year -44. -/
def leapSecond : Calendar.DateTime where
  date := ⟨-44, 3, 15, by decide⟩
  time := ⟨23, 59, 59, 1500000000, by decide⟩

/-- A third of a leap second behind the second 23:56:04. -/
def leapWithin : Calendar.Time := ⟨23, 56, 4, 1333333333, by decide⟩

/-- A zero with a minus sign. -/
def negativeZero : FixedPoint := ⟨true, 0, 2, Nat.le_of_ble_eq_true rfl, by decide⟩

/-- Trees, of which one has an identifier. -/
def trees : Enumeration := ⟨"Tree", none, [⟨"PINE", none⟩, ⟨"OAK", none⟩, ⟨"ELM", some 30⟩]⟩

def elm : Member := ⟨trees, 2, by decide⟩

theorem surrounds_leapSecond :
    Surrounds " -0044-03-15T23:59:60.5 " "-0044-03-15T23:59:60.5".toList := by
  have hblank : ∀ c ∈ [' '], isBlank c = true := List.forall_mem_singleton.mpr (by decide)
  exact ⟨[' '], [' '], hblank, hblank, by decide +kernel⟩

theorem isText_leapSecond : leapSecond.IsText "-0044-03-15T23:59:60.5".toList := by
  have hdigit : ∀ c ∈ ['5'], c.isDigit = true := List.forall_mem_singleton.mpr (by decide)
  have hfraction : Calendar.IsFraction 500000000 ['.', '5'] := .digits (by decide) hdigit
  exact ⟨'T', "23:59:60.5".toList, .inr rfl, ⟨['.', '5'], hfraction, by decide +kernel⟩,
    by decide +kernel⟩

theorem driver_shapes_read_back_leapSecond :
    (Value.text " -0044-03-15T23:59:60.5 ").coerce .dateTime = .ok (.of (.dateTime leapSecond)) ∧
    (Value.text " -0044-03-15T23:59:60.5 ").coerce .date = .ok (.of (.date leapSecond.date)) ∧
    (Value.text "23:56:05.333333333").coerce .time = .ok (.of (.time leapWithin.shown)) ∧
    (∃ d : FixedPoint, (Value.text "-0.00").coerce .decimal = .ok (.of (.decimal d)) ∧
      d.negative = false ∧ d.scale = 2) ∧
    Member.decode trees .ordinal (.of (.bigInt 2)) = .ok (some elm) ∧
    Member.decode trees .id (.of (.bigInt 30)) = .ok (some elm) := by
  obtain ⟨hshapes, hdecimals, htext, -, htimes, -, -, hordinals, hids⟩ := driver_shapes_read_back
  have hzero : Surrounds "-0.00" negativeZero.text.toList := by
    have htext : negativeZero.text = "-0.00" := by decide +kernel
    rw [htext]
    exact surrounds_self _
  have hwithin : Surrounds "23:56:05.333333333" leapWithin.chars := by
    have hchars : leapWithin.chars = "23:56:05.333333333".toList := by decide +kernel
    rw [hchars]
    exact surrounds_self _
  have hend : ¬leapSecond.time.LeapsWithin := by decide
  obtain ⟨d, hd, -, hscale, hsign⟩ := hdecimals negativeZero "-0.00" hzero
  exact ⟨hshapes _ _ _ (.dateTime hend isText_leapSecond surrounds_leapSecond),
    hshapes _ _ _ (.dayOf leapSecond isText_leapSecond surrounds_leapSecond),
    htimes leapWithin _ _ (htext leapWithin) hwithin,
    ⟨d, hd, hsign, hscale⟩, hordinals elm 2 (by decide), hids elm 30 (by decide) rfl⟩

/-- The text of a zero with a minus sign is not read as this zero, and that of a time within a leap
second behind the fourth second of a minute not as this time. -/
theorem coerce_text_ne :
    (negativeZero.text = "-0.00" ∧
      (Value.text "-0.00").coerce .decimal ≠ .ok (.of (.decimal negativeZero))) ∧
    leapWithin.text = "23:56:05.333333333" ∧
      (Value.text "23:56:05.333333333").coerce .time ≠ .ok (.of (.time leapWithin)) := by
  have hzero : negativeZero.text = "-0.00" := by decide +kernel
  have hleap : leapWithin.text = "23:56:05.333333333" := by decide +kernel
  refine ⟨⟨hzero, fun heq => ?_⟩, hleap, fun heq => ?_⟩
  · have hread := Value.coerce_decimalText negativeZero (surrounds_self negativeZero.text)
    rw [hzero] at hread
    have hsame : negativeZero.withoutZeroSign = negativeZero :=
      Scalar.decimal.inj (Value.of.inj (Except.ok.inj (hread.symm.trans heq)))
    exact absurd hsame (by decide)
  · have hsurrounds := surrounds_self leapWithin.text
    rw [Calendar.Time.text, String.toList_ofList] at hsurrounds
    have hread := Value.coerce_timeText leapWithin.isText_chars hsurrounds
    rw [← Calendar.Time.text, hleap] at hread
    have hsame : leapWithin.shown = leapWithin :=
      Scalar.time.inj (Value.of.inj (Except.ok.inj (hread.symm.trans heq)))
    exact leapWithin.shown_eq_self_iff.mp hsame (by decide)

end TableMapping
