import TableMapping.Declaration.Reader

/-!
# Paths and types

A path is made of names with double colons between them, and a name may have arguments: in angle
brackets lifetimes, types and constants, in round brackets the types that a function takes.

All readers have a bound on how often they call each other; `boundOf` is one that suffices for a
list of tokens.  What is read is kept in writing, but for what the reading itself asks about: a
`Path` knows its segments, and a `TypeText` what kind of type it is.  In angle brackets the
lifetimes are written first.

* `readPath` reads a path, `readType` a type and `readExpression` an expression;
* `Path.ofText?` reads the path that a text is.
-/

namespace TableMapping
namespace Declaration

/-- What follows a name in a path. -/
inductive PathArguments where
  | none
  /-- Angle brackets, and a double colon before them if there is one. -/
  | angled (text : String)
  /-- Round brackets, and the type that is given back if there is one. -/
  | round (text : String)
  deriving DecidableEq

/-- A name of a path. -/
structure PathSegment where
  name : String
  arguments : PathArguments
  deriving DecidableEq

/-- A path. -/
structure Path where
  /-- The double colon in front, if there is one. -/
  colons : String
  segments : List PathSegment
  deriving DecidableEq

namespace PathArguments

/-- The arguments in writing. -/
def written : PathArguments → String
  | none => ""
  | angled text => text
  | round text => text

/-- Whether there is no argument. -/
def isEmpty (a : PathArguments) : Bool :=
  ["", "<>", "::<>", "()"].contains a.written

end PathArguments

/-- A segment in writing. -/
def PathSegment.written (s : PathSegment) : String :=
  s.name ++ s.arguments.written

namespace Path

/-- A path in writing, without blanks. -/
def written (p : Path) : String :=
  p.colons ++ String.intercalate "::" (p.segments.map PathSegment.written)

/-- Whether no name has arguments. -/
def isPlain (p : Path) : Bool :=
  p.segments.all fun s => s.arguments == .none

/-- Whether round brackets may follow: the last name has no argument yet. -/
def isOpen (p : Path) : Bool :=
  p.segments.getLast?.any fun s => s.arguments.isEmpty

/-- Whether the path is one name, which takes nothing in round brackets. -/
def isSole (p : Path) : Bool :=
  p.colons.isEmpty &&
    match p.segments with
    | [⟨_, .round _⟩] => false
    | [_] => true
    | _ => false

/-- The path with arguments in round brackets for its last name. -/
def withRound (p : Path) (text : String) : Path :=
  match p.segments.getLast? with
  | some s => { p with segments := p.segments.dropLast ++ [{ s with arguments := .round text }] }
  | none => p

end Path

/-- A type in writing, with what a reader asks about it. -/
inductive TypeText where
  | path (p : Path)
  /-- One bound without a keyword before it. -/
  | bound (text : String)
  /-- A type in round brackets. -/
  | round (text : String)
  | other (text : String)

/-- A type in writing. -/
def TypeText.written : TypeText → String
  | path p => p.written
  | bound text => text
  | round text => text
  | other text => text

/-- An argument in angle brackets. -/
structure PathArgument where
  text : String
  isLifetime : Bool
  /-- Whether a comma follows. -/
  comma : Bool

/-- Arguments in writing: the lifetimes first, with a comma between them and the others. -/
def argumentsWritten (args : List PathArgument) : String :=
  let write := fun args : List PathArgument =>
    String.join (args.map fun a => if a.comma then a.text ++ "," else a.text)
  let lifetimes := args.filter (·.isLifetime)
  let others := args.filter (!·.isLifetime)
  let gap := lifetimes.any (!·.comma) && !others.isEmpty
  write lifetimes ++ (if gap then "," else "") ++ write others

namespace Token

/-- Whether arguments in angle brackets stand at the front. -/
def startsWithArguments (ts : List Token) : Bool :=
  startsWithMark "<" ts && !startsWithMark "<=" ts && !startsWithMark "<<=" ts

/-- Whether a double colon and what follows it stand at the front. -/
def startsWithColonsAnd (p : List Token → Bool) (ts : List Token) : Bool :=
  startsWithMark "::" ts && p (ts.drop 2)

/-- Whether arguments in round brackets stand at the front, with or without a double colon. -/
def startsWithRound (ts : List Token) : Bool :=
  startsWithGroup '(' ts || startsWithColonsAnd (startsWithGroup '(') ts

/-- Whether a name stands at the front that can start a path. -/
def startsWithPathName (ts : List Token) : Bool :=
  startsWithName ts || ["super", "self", "Self", "crate"].any (startsWithWord · ts)

/-- Whether a function type stands at the front. -/
def startsWithFunction (ts : List Token) : Bool :=
  ["fn", "unsafe", "extern"].any (startsWithWord · ts)

/-- Whether another bound may stand at the front. -/
def startsWithBound (ts : List Token) : Bool :=
  startsWithAnyWord ts || startsWithMark "::" ts || startsWithMark "?" ts ||
    startsWithLifetime ts || startsWithGroup '(' ts

/-- Whether a literal stands at the front; a number may have a sign. -/
def startsWithLiteral : List Token → Bool
  | .literal _ _ :: _ => true
  | .name s :: _ => s == "true" || s == "false"
  | .mark '-' _ :: .literal (.integer _ _) _ :: _ => true
  | .mark '-' _ :: .literal .real _ :: _ => true
  | _ => false

/-- Whether a constant stands at the front. -/
def startsWithConstant (ts : List Token) : Bool :=
  startsWithLiteral ts || startsWithGroup '\x7b' ts

/-- Whether a comma or a semicolon stands at the front, or nothing. -/
def startsWithEnd (ts : List Token) : Bool :=
  ts.isEmpty || startsWithMark "," ts || startsWithMark ";" ts

end Token

open Token Reader

/-! ## Parts of expressions that need no other reader -/

/-- Words that start an expression with a shape of its own. -/
def expressionWords : List String :=
  ["break", "continue", "for", "if", "let", "match", "return", "while", "yield"]

/-- Words that stand before a block or before what a function takes. -/
def operandWords : List String :=
  ["async", "box", "const", "loop", "move", "static", "try", "unsafe"]

/-- Marks between two operands, the long ones first. -/
def betweenOperands : List String :=
  ["<<=", ">>=", "..=", "...", "&&", "||", "<<", ">>", "+=", "-=", "*=", "/=", "%=", "^=", "&=", "|=",
    "==", "!=", "<=", ">=", "..", "=", "<", ">", "+", "-", "*", "/", "%", "^", "&", "|"]

/-- Take everything up to a place. -/
def readUpTo (stop : List Token → Bool) : (bound : Nat) → Reader String
  | 0 => failure
  | bound + 1 => do
    if ← sees fun ts => ts.isEmpty || stop ts then return ""
    else return (← token) ++ (← readUpTo stop bound)

/-! ## The grammar -/

mutual

/-- Read a name of a path with its arguments.  In an expression arguments in angle brackets need
a double colon. -/
def readSegment (inExpression : Bool) : (bound : Nat) → Reader PathSegment
  | 0 => failure
  | bound + 1 => do
    if ← sees fun ts => ["super", "self", "crate", "try"].any (startsWithWord · ts) then
      return ⟨← anyWord, .none⟩
    let name ← if ← sees (startsWithWord "Self") then anyWord else name
    if ← sees fun ts => (!inExpression && startsWithArguments ts) ||
        startsWithColonsAnd (startsWithMark "<") ts then
      let colons ← markIf "::"
      return ⟨name, .angled (colons ++ (← readArguments bound))⟩
    else return ⟨name, .none⟩

/-- Read the names of a path behind the first one. -/
def readSegments (inExpression : Bool) : (bound : Nat) → Reader (List PathSegment)
  | 0 => failure
  | bound + 1 => do
    if ← sees (startsWithColonsAnd fun ts => !startsWithGroup '(' ts) then
      let _ ← mark "::"
      let s ← readSegment inExpression bound
      return s :: (← readSegments inExpression bound)
    else return []

/-- Read a path without round brackets. -/
def readPath (inExpression : Bool) : (bound : Nat) → Reader Path
  | 0 => failure
  | bound + 1 => do
    let colons ← markIf "::"
    let s ← readSegment inExpression bound
    return ⟨colons, s :: (← readSegments inExpression bound)⟩

/-- Read arguments in angle brackets. -/
def readArguments : (bound : Nat) → Reader String
  | 0 => failure
  | bound + 1 => do
    let _ ← mark "<"
    let args ← readArgumentList bound
    let _ ← mark ">"
    return "<" ++ argumentsWritten args ++ ">"

/-- Read arguments up to the closing angle bracket. -/
def readArgumentList : (bound : Nat) → Reader (List PathArgument)
  | 0 => failure
  | bound + 1 => do
    if ← sees (startsWithMark ">") then return []
    let (text, isLifetime) ← readArgument bound
    if ← sees (startsWithMark ">") then return [⟨text, isLifetime, false⟩]
    let _ ← mark ","
    return ⟨text, isLifetime, true⟩ :: (← readArgumentList bound)

/-- Read an argument, and whether it is a lifetime. -/
def readArgument : (bound : Nat) → Reader (String × Bool)
  | 0 => failure
  | bound + 1 => do
    if ← sees fun ts => startsWithLifetime ts && !startsWithMark "+" (ts.drop 1) then
      return (← lifetime, true)
    if ← sees startsWithConstant then return (← readConstant bound, false)
    let t ← readType true bound
    let isSole :=
      match t with
      | .path p => p.isSole
      | _ => false
    if isSole && (← sees (startsWithMark "=")) then
      let _ ← mark "="
      if ← sees startsWithConstant then
        return (t.written ++ "=" ++ (← readConstant bound), false)
      else return (t.written ++ "=" ++ (← readType true bound).written, false)
    else if isSole && (← sees (startsWithMark ":")) then
      let _ ← mark ":"
      return (t.written ++ ":" ++ (← readConstraints bound), false)
    else return (t.written, false)

/-- Read a literal or a block. -/
def readConstant : (bound : Nat) → Reader String
  | 0 => failure
  | bound + 1 => do
    if ← sees (startsWithGroup '\x7b') then readBlock bound
    else
      let sign ← markIf "-"
      return sign ++ (← token)

/-- Read bounds up to a comma, an equals sign or the closing angle bracket. -/
def readConstraints : (bound : Nat) → Reader String
  | 0 => failure
  | bound + 1 => do
    if ← sees fun ts => [",", ">", "="].any (startsWithMark · ts) then return ""
    let (text, _) ← readBound bound
    if ← sees (startsWithMark "+") then
      let _ ← mark "+"
      return text ++ "+" ++ (← readConstraints bound)
    else return text

/-- Read a bound, a lifetime or a path, and whether it is a path. -/
def readBound : (bound : Nat) → Reader (String × Bool)
  | 0 => failure
  | bound + 1 => do
    if ← sees startsWithLifetime then return (← lifetime, false)
    else if ← sees (startsWithGroup '(') then
      return (bracketed '(' (← within '(' (readPathBound bound)), true)
    else return (← readPathBound bound, true)

/-- Read a bound that is a path, possibly for lifetimes of its own and with a question mark. -/
def readPathBound : (bound : Nat) → Reader String
  | 0 => failure
  | bound + 1 => do
    let binder ← if ← sees (startsWithWord "for") then readBinder bound else pure ""
    let sign ← markIf "?"
    if !binder.isEmpty && !sign.isEmpty then failure
    let p ← readPath false bound
    if p.isOpen && (← sees startsWithRound) then
      let _ ← markIf "::"
      return binder ++ sign ++ (p.withRound (← readRound bound).1).written
    else return binder ++ sign ++ p.written

/-- Read bounds, and whether one of them is a path. -/
def readBounds (plus : Bool) : (bound : Nat) → Reader (String × Bool)
  | 0 => failure
  | bound + 1 => do
    let (text, isPath) ← readBound bound
    if plus && (← sees (startsWithMark "+")) then
      let _ ← mark "+"
      if ← sees startsWithBound then
        let (more, hasPath) ← readBounds plus bound
        return (text ++ "+" ++ more, isPath || hasPath)
      else return (text ++ "+", isPath)
    else return (text, isPath)

/-- Read bounds, one of which is a path. -/
def readPathBounds (plus : Bool) : (bound : Nat) → Reader String
  | 0 => failure
  | bound + 1 => do
    let (text, hasPath) ← readBounds plus bound
    if hasPath then return text else failure

/-- Read more bounds; unless `closed`, the last plus need not have a bound. -/
def readMoreBounds (closed : Bool) : (bound : Nat) → Reader String
  | 0 => failure
  | bound + 1 => do
    if ← sees (startsWithMark "+") then
      let _ ← mark "+"
      if closed || (← sees startsWithBound) then
        let (text, _) ← readBound bound
        return "+" ++ text ++ (← readMoreBounds closed bound)
      else return "+"
    else return ""

/-- Read the lifetimes that a type is given for. -/
def readBinder : (bound : Nat) → Reader String
  | 0 => failure
  | bound + 1 => do
    let _ ← word "for"
    let _ ← mark "<"
    let text ← readParameters bound
    let _ ← mark ">"
    return "for<" ++ text ++ ">"

/-- Read parameters up to the closing angle bracket. -/
def readParameters : (bound : Nat) → Reader String
  | 0 => failure
  | bound + 1 => do
    if ← sees (startsWithMark ">") then return ""
    let text ← readParameter bound
    if ← sees (startsWithMark ">") then return text
    let _ ← mark ","
    return text ++ "," ++ (← readParameters bound)

/-- Read a parameter: a lifetime, a constant or a type. -/
def readParameter : (bound : Nat) → Reader String
  | 0 => failure
  | bound + 1 => do
    if ← sees startsWithLifetime then
      let text ← lifetime
      if ← sees (startsWithMark ":") then
        let _ ← mark ":"
        return text ++ ":" ++ (← readLifetimes bound)
      else return text
    else if ← sees (startsWithWord "const") then
      let _ ← word "const"
      let n ← name
      let _ ← mark ":"
      let t ← readType true bound
      if ← sees (startsWithMark "=") then
        let _ ← mark "="
        return "const" ++ n ++ ":" ++ t.written ++ "=" ++ (← readConstant bound)
      else return "const" ++ n ++ ":" ++ t.written
    else
      let n ← name
      let bounds ←
        if ← sees (startsWithMark ":") then
          let _ ← mark ":"
          pure (":" ++ (← readConstraints bound))
        else pure ""
      if ← sees (startsWithMark "=") then
        let _ ← mark "="
        return n ++ bounds ++ "=" ++ (← readType true bound).written
      else return n ++ bounds

/-- Read lifetimes up to a comma or the closing angle bracket. -/
def readLifetimes : (bound : Nat) → Reader String
  | 0 => failure
  | bound + 1 => do
    if ← sees fun ts => startsWithMark "," ts || startsWithMark ">" ts then return ""
    let text ← lifetime
    if ← sees (startsWithMark "+") then
      let _ ← mark "+"
      return text ++ "+" ++ (← readLifetimes bound)
    else return text

/-- Read a path with round brackets.  Names go on behind them, unless they give back a type that
is not in round brackets itself. -/
def readRoundPath (p : Path) : (bound : Nat) → Reader Path
  | 0 => failure
  | bound + 1 => do
    if p.isOpen && (← sees startsWithRound) then
      let _ ← markIf "::"
      let (text, goesOn) ← readRound bound
      let p := p.withRound text
      let more ← if goesOn then readSegments false bound else pure []
      readRoundPath { p with segments := p.segments ++ more } bound
    else return p

/-- Read arguments in round brackets and the type that is given back, and whether a path may go
on behind them. -/
def readRound : (bound : Nat) → Reader (String × Bool)
  | 0 => failure
  | bound + 1 => do
    let inputs ← within '(' (readTypeList bound)
    let (output, goesOn) ← readOutput bound
    return (bracketed '(' inputs ++ output, goesOn)

/-- Read the type that is given back, if there is one, and whether a path may go on behind it. -/
def readOutput : (bound : Nat) → Reader (String × Bool)
  | 0 => failure
  | bound + 1 => do
    if ← sees (startsWithMark "->") then
      let _ ← mark "->"
      match ← readType false bound with
      | .round text => return ("->" ++ text, true)
      | t => return ("->" ++ t.written, false)
    else return ("", true)

/-- Read types with commas between them up to the end of a group. -/
def readTypeList : (bound : Nat) → Reader String
  | 0 => failure
  | bound + 1 => do
    if ← sees List.isEmpty then return ""
    let t ← readType true bound
    if ← sees List.isEmpty then return t.written
    let _ ← mark ","
    return t.written ++ "," ++ (← readTypeList bound)

/-- Read a type.  Where `plus` is not set, it is not a sum of bounds without brackets. -/
def readType (plus : Bool) : (bound : Nat) → Reader TypeText
  | 0 => failure
  | bound + 1 => do
    let binder ← if ← sees (startsWithWord "for") then readBinder bound else pure ""
    if !binder.isEmpty && !(← sees fun ts => startsWithPathName ts || startsWithFunction ts) then
      failure
    if ← sees (startsWithGroup '(') then readRoundType plus bound
    else if ← sees startsWithFunction then return .other (binder ++ (← readFunction bound))
    else if ← sees (startsWithMark "<") then
      let (start, p) ← readQualified false bound
      return .other (start ++ (← readRoundPath p bound).written)
    else if ← sees fun ts => startsWithPathName ts || startsWithMark "::" ts then
      let p ← readRoundPath (← readPath false bound) bound
      if p.isPlain && (← sees fun ts => startsWithMark "!" ts && !startsWithMark "!=" ts) then
        let _ ← mark "!"
        return .other (p.written ++ "!" ++ (← anyGroup))
      else if !binder.isEmpty || (plus && (← sees (startsWithMark "+"))) then
        let more ← if plus then readMoreBounds false bound else pure ""
        if more.isEmpty then return .bound (binder ++ p.written)
        else return .other (binder ++ p.written ++ more)
      else return .path p
    else if ← sees (startsWithWord "dyn") then
      let _ ← word "dyn"
      let star ← markIf "*"
      return .other ("dyn" ++ star ++ (← readPathBounds plus bound))
    else if ← sees (startsWithGroup '[') then
      return .other (bracketed '[' (← within '[' (readSequence bound)))
    else if ← sees (startsWithMark "*") then
      let _ ← mark "*"
      let kind ← if ← sees (startsWithWord "const") then anyWord else word "mut"
      return .other ("*" ++ kind ++ (← readType false bound).written)
    else if ← sees (startsWithMark "&") then
      let _ ← mark "&"
      let text ← lifetimeIf
      let kind ← wordIf "mut"
      return .other ("&" ++ text ++ kind ++ (← readType false bound).written)
    else if ← sees (startsWithMark "!") then return .other (← mark "!")
    else if ← sees (startsWithWord "impl") then
      let _ ← word "impl"
      return .other ("impl" ++ (← readPathBounds plus bound))
    else if ← sees (startsWithWord "_") then return .other (← anyWord)
    else if ← sees startsWithLifetime then return .other (← readPathBounds true bound)
    else failure

/-- Read the inside of square brackets: a type, and possibly a number of items. -/
def readSequence : (bound : Nat) → Reader String
  | 0 => failure
  | bound + 1 => do
    let t ← readType true bound
    if ← sees (startsWithMark ";") then
      let _ ← mark ";"
      return t.written ++ ";" ++ (← readExpression bound)
    else return t.written

/-- Read a type in round brackets, a tuple, or a sum of bounds that starts with brackets. -/
def readRoundType (plus : Bool) : (bound : Nat) → Reader TypeText
  | 0 => failure
  | bound + 1 => do
    match ← get with
    | .group _ inner :: _ =>
      if inner.isEmpty then return .other (← anyGroup)
      else if startsWithLifetime inner then
        return .round (bracketed '(' (← within '(' (readType true bound)).written)
      else if startsWithMark "?" inner then
        let text := bracketed '(' (← within '(' (readPathBound bound))
        let more ← readMoreBounds true bound
        if more.isEmpty then return .bound text else return .other (text ++ more)
      else
        let (t, more) ← within '(' (readTuple bound)
        let text := bracketed '(' (t.written ++ more)
        let isBound :=
          match t with
          | .path _ => true
          | .bound _ => true
          | _ => false
        if !more.isEmpty then return .other text
        else if plus && isBound && (← sees (startsWithMark "+")) then
          return .other (text ++ (← readMoreBounds true bound))
        else return .round text
    | _ => failure

/-- Read a type, and possibly a comma and more types. -/
def readTuple : (bound : Nat) → Reader (TypeText × String)
  | 0 => failure
  | bound + 1 => do
    let t ← readType true bound
    if ← sees (startsWithMark ",") then
      let _ ← mark ","
      return (t, "," ++ (← readTypeList bound))
    else return (t, "")

/-- Read a type in angle brackets, possibly seen as another one, and the names behind it. -/
def readQualified (inExpression : Bool) : (bound : Nat) → Reader (String × Path)
  | 0 => failure
  | bound + 1 => do
    let _ ← mark "<"
    let t ← readType true bound
    let seenAs ←
      if ← sees (startsWithWord "as") then
        let _ ← anyWord
        pure ("as" ++ (← readPath false bound).written)
      else pure ""
    let _ ← mark ">"
    let _ ← mark "::"
    let s ← readSegment inExpression bound
    let more ← readSegments inExpression bound
    return ("<" ++ t.written ++ seenAs ++ ">::", ⟨"", s :: more⟩)

/-- Read a function type. -/
def readFunction : (bound : Nat) → Reader String
  | 0 => failure
  | bound + 1 => do
    let safety ← wordIf "unsafe"
    let external ← wordIf "extern"
    let convention ← if external.isEmpty then pure "" else readConvention
    let _ ← word "fn"
    let inputs ← within '(' (readInputs bound)
    let (output, _) ← readOutput bound
    return safety ++ external ++ convention ++ "fn" ++ bracketed '(' inputs ++ output
where
  /-- Read the name of a calling convention, if there is one. -/
  readConvention : Reader String := do
    match ← get with
    | .literal (.text _) _ :: _ => token
    | _ => return ""

/-- Read what a function takes, up to the end of a group. -/
def readInputs : (bound : Nat) → Reader String
  | 0 => failure
  | bound + 1 => do
    if ← sees List.isEmpty then return ""
    let isNamed ← sees fun ts => startsWithAnyWord ts && startsWithMark ":" (ts.drop 1) &&
      !startsWithMark "::" (ts.drop 1)
    let label ← if isNamed then pure ((← anyWord) ++ (← mark ":")) else pure ""
    if ← sees (startsWithMark "...") then
      let _ ← mark "..."
      return label ++ "..." ++ (← markIf ",")
    let t ← readType true bound
    if ← sees List.isEmpty then return label ++ t.written
    let _ ← mark ","
    return label ++ t.written ++ "," ++ (← readInputs bound)

/-- Read a block. -/
def readBlock : (bound : Nat) → Reader String
  | 0 => failure
  | bound + 1 => do
    return bracketed '\x7b' (← within '\x7b' (readExpressions ";" bound))

/-- Read expressions with a mark between them, up to the end of a group. -/
def readExpressions (separator : String) : (bound : Nat) → Reader String
  | 0 => failure
  | bound + 1 => do
    if ← sees List.isEmpty then return ""
    let text ← if ← sees (startsWithMark separator) then pure "" else readExpression bound
    if ← sees List.isEmpty then return text
    let _ ← mark separator
    return text ++ separator ++ (← readExpressions separator bound)

/-- Read the inside of square brackets in an expression: items, or one of them and how often it
stands there. -/
def readItems : (bound : Nat) → Reader String
  | 0 => failure
  | bound + 1 => do
    if ← sees List.isEmpty then return ""
    let text ← readExpression bound
    if ← sees List.isEmpty then return text
    else if ← sees (startsWithMark ";") then
      let _ ← mark ";"
      return text ++ ";" ++ (← readExpression bound)
    else
      let _ ← mark ","
      return text ++ "," ++ (← readExpressions "," bound)

/-- Read an expression up to a comma, a semicolon or the end of a group. -/
def readExpression : (bound : Nat) → Reader String
  | 0 => failure
  | bound + 1 => do
    let text ← readOperand bound
    return text ++ (← readBehindOperand bound)

/-- Read an operand.  One with a shape of its own goes on to the end of the expression. -/
def readOperand : (bound : Nat) → Reader String
  | 0 => failure
  | bound + 1 => do
    match ← get with
    | .literal _ _ :: _ => token
    | .group '(' _ :: _ => return bracketed '(' (← within '(' (readExpressions "," bound))
    | .group '[' _ :: _ => return bracketed '[' (← within '[' (readItems bound))
    | .group _ _ :: _ => readBlock bound
    | .lifetime _ :: _ => readUpTo startsWithEnd bound
    | .name s :: _ =>
      if s == "true" || s == "false" || s == "_" then anyWord
      else if operandWords.contains s then return (← anyWord) ++ (← readOperand bound)
      else if expressionWords.contains s then readUpTo startsWithEnd bound
      else readPathOperand bound
    | .mark '<' _ :: _ => do
      let (start, p) ← readQualified true bound
      return start ++ p.written
    | .mark ':' _ :: _ => readPathOperand bound
    | .mark '|' _ :: _ => do
      let start ← mark "|"
      let inputs ← readUpTo (startsWithMark "|") bound
      let stop ← mark "|"
      return start ++ inputs ++ stop ++ (← readExpression bound)
    | .mark '.' _ :: _ => readUpTo startsWithEnd bound
    | .mark c _ :: _ =>
      if ['-', '!', '*', '&'].contains c then
        let sign ← token
        let kind ← wordIf "mut"
        return sign ++ kind ++ (← readOperand bound)
      else failure
    | [] => failure

/-- Read a path in an expression, and possibly what it makes of a group. -/
def readPathOperand : (bound : Nat) → Reader String
  | 0 => failure
  | bound + 1 => do
    let p ← readPath true bound
    if ← sees fun ts => startsWithMark "!" ts && !startsWithMark "!=" ts then
      let _ ← mark "!"
      return p.written ++ "!" ++ (← anyGroup)
    else if ← sees (startsWithGroup '\x7b') then return p.written ++ (← anyGroup)
    else return p.written

/-- Read what follows an operand. -/
def readBehindOperand : (bound : Nat) → Reader String
  | 0 => failure
  | bound + 1 => do
    if ← sees startsWithEnd then return ""
    else if ← sees (startsWithGroup '(') then
      let text ← within '(' (readExpressions "," bound)
      return bracketed '(' text ++ (← readBehindOperand bound)
    else if ← sees (startsWithGroup '[') then
      let text ← within '[' (readExpression bound)
      return bracketed '[' text ++ (← readBehindOperand bound)
    else if ← sees (startsWithMark "?") then
      let _ ← mark "?"
      return "?" ++ (← readBehindOperand bound)
    else if ← sees (startsWithWord "as") then
      let _ ← anyWord
      let t ← readType false bound
      return "as" ++ t.written ++ (← readBehindOperand bound)
    else if ← sees fun ts => startsWithMark "." ts && !startsWithMark ".." ts then
      let _ ← mark "."
      let member ← token
      let arguments ←
        if ← sees (startsWithColonsAnd (startsWithMark "<")) then
          let colons ← mark "::"
          pure (colons ++ (← readArguments bound))
        else pure ""
      return "." ++ member ++ arguments ++ (← readBehindOperand bound)
    else
      match betweenOperands.find? (startsWithMark · (← get)) with
      | none => failure
      | some m =>
        let _ ← mark m
        if m.startsWith ".." && (← sees startsWithEnd) then return m
        else return m ++ (← readExpression bound)

end

/-! ## Bounds -/

mutual

/-- How many tokens there are in a token. -/
def Token.count : Token → Nat
  | .group _ inner => 1 + Token.countAll inner
  | _ => 1

/-- How many tokens there are in tokens. -/
def Token.countAll : List Token → Nat
  | [] => 0
  | t :: ts => t.count + Token.countAll ts

end

/-- How often the readers of paths and types call each other on tokens, at most. -/
def boundOf (ts : List Token) : Nat :=
  16 * (Token.countAll ts + 1)

/-- A path in writing, without the blanks in its literals either. -/
def Path.compact (p : Path) : String :=
  String.ofList (p.written.toList.filter (· != ' '))

/-- The path that a text is. -/
def Path.ofText? (s : String) : Option Path := do
  let ts ← Token.ofText? s
  (readPath false (boundOf ts)).all? ts

end Declaration
end TableMapping
