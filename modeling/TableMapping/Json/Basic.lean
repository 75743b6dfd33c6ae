import TableMapping.Number.FloatText

/-!
# Documents

A document is null, a truth value, a number, a text, a list of documents or an object.
An object keeps its members sorted by key, and a key that is given twice keeps the last
document given for it; every object that is read is built by `Json.insert` and has this form.

A number is a whole number of 64 bits, without sign or negative, or else a double.
-/

namespace TableMapping

/-- A number in a document. -/
inductive JsonNumber where
  | natural (n : UInt64)
  | negative (n : Int64)
  | real (x : Float)
  deriving DecidableEq

/-- A document. -/
inductive Json where
  | null
  | bool (b : Bool)
  | number (n : JsonNumber)
  | text (s : String)
  | list (items : List Json)
  | object (members : List (String × Json))

namespace Json

/-- Put a member into a sorted list of members; a member with the same key is replaced. -/
def insert (key : String) (value : Json) : List (String × Json) → List (String × Json)
  | [] => [(key, value)]
  | m :: ms =>
    if key < m.1 then (key, value) :: m :: ms
    else if key = m.1 then (key, value) :: ms
    else m :: insert key value ms

/-- The object with these members; of two with one key the last one counts. -/
def ofMembers (members : List (String × Json)) : Json :=
  .object (members.foldl (fun sorted m => insert m.1 m.2 sorted) [])

/-- The document of a member of an object. -/
def member? (key : String) : Json → Option Json
  | .object members => (members.find? fun m => m.1 = key).map (·.2)
  | _ => none

/-- A natural number as a document. -/
def ofNatural (n : UInt64) : Json :=
  .number (.natural n)

/-- A whole number as a document: the sign decides how it is held. -/
def ofInteger (n : Int64) : Json :=
  if n < 0 then .number (.negative n) else ofNatural n.toUInt64

/-- The text that a document is. -/
def text? : Json → Option String
  | .text s => some s
  | _ => none

/-- The truth value that a document is. -/
def bool? : Json → Option Bool
  | .bool b => some b
  | _ => none

/-- The list that a document is. -/
def list? : Json → Option (List Json)
  | .list items => some items
  | _ => none

end Json

/-- The whole number that a number is, when it is written as one. -/
def JsonNumber.int? : JsonNumber → Option Int
  | .natural n => some n.toNat
  | .negative n => some n.toInt
  | .real _ => none

/-- The whole number that a document is. -/
def Json.int? : Json → Option Int
  | .number n => n.int?
  | _ => none

/-- Doubles in documents: an exponent below `1e-5` and from `1e16` on, which always has a sign, and
`.0` at the end of whole numbers. -/
def documentFloatStyle : Number.FloatStyle := ⟨some (-4), some 16, true, true, .even⟩

/-- A number as it is written in a document. -/
def JsonNumber.text : JsonNumber → String
  | .natural n => Numeral.ofNat n.toNat
  | .negative n => Numeral.ofInt n.toInt
  | .real x => Number.doubleText documentFloatStyle x

end TableMapping
