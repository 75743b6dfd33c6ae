import TableMapping.Declaration.Token

/-!
# Readers of tokens

A reader takes tokens off the front of a list, or fails.  Most readers give what they have taken
in writing, without blanks.

What stands at the front is asked with `startsWithMark`, `startsWithName` and their like; `mark`,
`word`, `name` and `within` take it.
-/

namespace TableMapping
namespace Declaration

/-! ## Writing -/

/-- The bracket that closes what a bracket opens. -/
def closing (c : Char) : Char :=
  if c == '(' then ')' else if c == '[' then ']' else '\x7d'

/-- Text between a bracket and the one that closes it. -/
def bracketed (opening : Char) (text : String) : String :=
  String.singleton opening ++ text ++ String.singleton (closing opening)

mutual

/-- A token in writing, without blanks. -/
def Token.written : Token → String
  | .name s => s
  | .lifetime s => s
  | .literal _ spelling => spelling
  | .mark c _ => String.singleton c
  | .group opening inner => bracketed opening (Token.allWritten inner)

/-- Tokens in writing, without blanks. -/
def Token.allWritten : List Token → String
  | [] => ""
  | t :: ts => t.written ++ Token.allWritten ts

end

/-! ## What stands at the front -/

/-- Names that stand for something else than what they name. -/
def keywords : List String :=
  ["_", "abstract", "as", "async", "await", "become", "box", "break", "const", "continue", "crate",
    "do", "dyn", "else", "enum", "extern", "false", "final", "fn", "for", "if", "impl", "in", "let",
    "loop", "macro", "match", "mod", "move", "mut", "override", "priv", "pub", "ref", "return", "Self",
    "self", "static", "struct", "super", "trait", "true", "try", "type", "typeof", "unsafe", "unsized",
    "use", "virtual", "where", "while", "yield"]

namespace Token

/-- Take a mark of one or more characters off the front. -/
def dropMark? : List Char → List Token → Option (List Token)
  | [], ts => some ts
  | [c], .mark d _ :: ts => if c = d then some ts else none
  | c :: cs, .mark d true :: ts => if c = d then dropMark? cs ts else none
  | _, _ => none

/-- Whether a mark stands at the front. -/
def startsWithMark (s : String) (ts : List Token) : Bool :=
  (dropMark? s.toList ts).isSome

/-- Whether this word stands at the front. -/
def startsWithWord (w : String) : List Token → Bool
  | .name s :: _ => s == w
  | _ => false

/-- Whether any word stands at the front. -/
def startsWithAnyWord : List Token → Bool
  | .name _ :: _ => true
  | _ => false

/-- Whether a name stands at the front, and not a keyword. -/
def startsWithName : List Token → Bool
  | .name s :: _ => !keywords.contains s
  | _ => false

/-- Whether a lifetime stands at the front. -/
def startsWithLifetime : List Token → Bool
  | .lifetime _ :: _ => true
  | _ => false

/-- Whether a group stands at the front. -/
def startsWithGroup (opening : Char) : List Token → Bool
  | .group o _ :: _ => o == opening
  | _ => false

end Token

/-! ## Readers -/

/-- A reader of tokens. -/
abbrev Reader := StateT (List Token) Option

namespace Reader

/-- Ask what stands at the front. -/
def sees (p : List Token → Bool) : Reader Bool := do
  return p (← get)

/-- Take a mark. -/
def mark (s : String) : Reader String := fun ts =>
  (Token.dropMark? s.toList ts).map fun rest => (s, rest)

/-- Take a mark, if it stands at the front. -/
def markIf (s : String) : Reader String := fun ts =>
  match Token.dropMark? s.toList ts with
  | some rest => some (s, rest)
  | none => some ("", ts)

/-- Take any word. -/
def anyWord : Reader String
  | .name s :: ts => some (s, ts)
  | _ => none

/-- Take this word. -/
def word (w : String) : Reader String := fun ts =>
  if Token.startsWithWord w ts then anyWord ts else none

/-- Take this word, if it stands at the front. -/
def wordIf (w : String) : Reader String := fun ts =>
  if Token.startsWithWord w ts then anyWord ts else some ("", ts)

/-- Take a name that is no keyword. -/
def name : Reader String := fun ts =>
  if Token.startsWithName ts then anyWord ts else none

/-- Take a lifetime. -/
def lifetime : Reader String
  | .lifetime s :: ts => some (s, ts)
  | _ => none

/-- Take a lifetime, if it stands at the front. -/
def lifetimeIf : Reader String
  | .lifetime s :: ts => some (s, ts)
  | ts => some ("", ts)

/-- Take any one token. -/
def token : Reader String
  | t :: ts => some (t.written, ts)
  | [] => none

/-- Take any group. -/
def anyGroup : Reader String
  | .group opening inner :: ts => some ((Token.group opening inner).written, ts)
  | _ => none

/-- Take a group whose tokens are all read by a reader. -/
def within {α : Type} (opening : Char) (r : Reader α) : Reader α
  | .group o inner :: ts =>
    if o = opening then
      match r inner with
      | some (a, []) => some (a, ts)
      | _ => none
    else none
  | _ => none

/-- Read all tokens. -/
def all? {α : Type} (r : Reader α) (ts : List Token) : Option α :=
  match r ts with
  | some (a, []) => some a
  | _ => none

end Reader
end Declaration
end TableMapping
