import TableMapping.Error
import TableMapping.Text.LetterCase

/-!
# Members of an enumeration

A member is an enumeration together with a position in it.  `Member.encode` writes it in one
of the three encodings and `Member.decode` reads it back.

Reading by name is generous.  The exact name comes first; failing that, the one member whose
name differs only in ASCII case; failing that, the one member whose name starts with the
text, which is how a name that was cut to fit its column is found again.  Each of these asks
for one member of its own, whatever the others find.
-/

namespace TableMapping

/-- A member of an enumeration. -/
structure Member where
  enumeration : Enumeration
  ordinal : Nat
  ordinal_lt : ordinal < enumeration.members.length
  deriving DecidableEq

/-- An application's own type of enumeration members. -/
structure EnumerationType (E : Type) where
  enumeration : Enumeration
  ordinal : E → Nat
  ofOrdinal? : Nat → Option E

namespace Member

/-- The member at a position, when there is one. -/
def ofOrdinal? (e : Enumeration) (ordinal : Nat) : Option Member :=
  if h : ordinal < e.members.length then some ⟨e, ordinal, h⟩ else none

/-- The declaration of a member. -/
def declaration (m : Member) : MemberDeclaration :=
  m.enumeration.members.get ⟨m.ordinal, m.ordinal_lt⟩

/-- The name of a member. -/
def name (m : Member) : String :=
  m.declaration.name

/-- The member that a value of an application's own type stands for. -/
def ofTyped {E : Type} (t : EnumerationType E) (x : E) : Except MappingError Member :=
  match ofOrdinal? t.enumeration (t.ordinal x) with
  | some m => .ok m
  | none => .error (.unknownEnumValue t.enumeration.name (Numeral.ofNat (t.ordinal x)))

/-- The value of an application's own type at the position of a member. -/
def toTyped {E : Type} (t : EnumerationType E) (m : Member) : Except MappingError E :=
  match t.ofOrdinal? m.ordinal with
  | some x => .ok x
  | none => .error (.unknownEnumValue t.enumeration.name (Numeral.ofNat m.ordinal))

end Member

/-- The first `length` characters of a text; a length of zero is no limit, and without `trim`
the text stays whole. -/
def cutText (trim : Bool) (length : Nat) (s : String) : String :=
  if trim && length > 0 then String.ofList (s.toList.take length) else s

namespace Member

/-- Write a member to the column of a field. -/
def encode (m : Member) (encoding : Encoding) (trim : Bool) (length : Nat) (field : String) :
    Except MappingError Value :=
  match encoding with
  | .name => .ok (.text (cutText trim length m.name))
  | .ordinal => .ok (.of (.int (Int32.ofNat m.ordinal)))
  | .id =>
    match m.declaration.id with
    | some id => .ok (.of (.int id))
    | none => .error (.missingEnumId field m.enumeration.name m.name)

end Member

/-- The one element of a list, when there is exactly one. -/
def single? {α : Type} : List α → Option α
  | [x] => some x
  | _ => none

namespace Enumeration

/-- The positions of the members that satisfy a condition. -/
def positions (e : Enumeration) (p : MemberDeclaration → Bool) : List Nat :=
  (List.range e.members.length).filter fun i => (e.members[i]?).any p

/-- The positions of the members with this name when ASCII case is ignored. -/
def sameNamePositions (e : Enumeration) (text : String) : List Nat :=
  e.positions fun m => Text.sameName m.name text

/-- The positions of the members whose name starts with this text, which must not be empty. -/
def startPositions (e : Enumeration) (text : String) : List Nat :=
  e.positions fun m => !text.isEmpty && text.toList.isPrefixOf m.name.toList

/-- The position that a stored name stands for. -/
def ordinalOfText? (e : Enumeration) (text : String) : Option Nat :=
  match e.ordinalOf? text with
  | some i => some i
  | none =>
    match single? (e.sameNamePositions text) with
    | some i => some i
    | none => single? (e.startPositions text)

/-- The position that a stored ordinal stands for. -/
def ordinalOfNumber? (e : Enumeration) (n : Int64) : Option Nat :=
  if 0 ≤ n.toInt ∧ n.toInt < e.members.length then some n.toInt.toNat else none

/-- The position of the first member with a stored identifier. -/
def ordinalOfId? (e : Enumeration) (id : Int64) : Option Nat :=
  e.members.findIdx? fun m => m.id.map Int32.toInt64 == some id

/-- The position that a stored value stands for. -/
def ordinalOfValue? (e : Enumeration) (encoding : Encoding) (v : Value) : Option Nat :=
  match encoding with
  | .name =>
    match v with
    | .of (.string text) => e.ordinalOfText? text
    | _ => none
  | .ordinal => v.integer?.bind e.ordinalOfNumber?
  | .id => v.integer?.bind e.ordinalOfId?

end Enumeration

namespace Member

/-- Read a stored value; NULL is no member. -/
def decode (e : Enumeration) (encoding : Encoding) (v : Value) :
    Except MappingError (Option Member) :=
  if v.isNull then .ok none
  else
    match (e.ordinalOfValue? encoding v).bind (Member.ofOrdinal? e) with
    | some m => .ok (some m)
    | none => .error (.unknownEnumValue e.name v.shown)

end Member
end TableMapping
