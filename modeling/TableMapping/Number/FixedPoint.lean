import TableMapping.Number.Numeral

/-!
# Fixed-point decimals

A fixed-point decimal is a sign, a whole coefficient below `2 ^ 96` and a scale of at most 28
places.  The scale is part of the number: `1.10` and `1.1` are equal amounts and
different decimals.  Zero that is read digit by digit has no sign; only a negative amount that
an exponent makes too small to be held keeps its sign.

Reading keeps every digit that fits.  A digit behind the point that does not fit any
more rounds the number, a half away from zero, and all digits behind it are dropped; a digit
before the point that does not fit is an error.  Underscores between digits are skipped.

An exponent moves the point.  To the right it may take the coefficient past its bound, which is
an error; to the left it may take the scale past 28 places, which rounds as above.
-/

namespace TableMapping

/-- The bound of the coefficients, `2 ^ 96`. -/
def FixedPoint.coefficientBound : Nat :=
  79228162514264337593543950336

/-- A decimal `coefficient / 10 ^ scale` with its sign. -/
structure FixedPoint where
  negative : Bool
  coefficient : Nat
  scale : Nat
  coefficient_lt : coefficient < FixedPoint.coefficientBound
  scale_le : scale ≤ 28
  deriving DecidableEq

namespace FixedPoint

/-- The greatest scale. -/
def maxScale : Nat := 28

/-- The decimal with this sign, coefficient and scale, when they fit. -/
def ofParts? (negative : Bool) (coefficient scale : Nat) : Option FixedPoint :=
  if h : coefficient < coefficientBound ∧ scale ≤ 28 then
    some ⟨negative, coefficient, scale, h.1, h.2⟩
  else none

/-- Zero without places. -/
def zero : FixedPoint := ⟨false, 0, 0, by decide, by decide⟩

theorem ofInt64_lt (n : Int64) : n.toInt.natAbs < coefficientBound := by
  have h := n.toInt_lt
  have h' := n.le_toInt
  unfold coefficientBound
  omega

/-- Every 64-bit number is a decimal. -/
def ofInt64 (n : Int64) : FixedPoint :=
  ⟨n < 0, n.toInt.natAbs, 0, ofInt64_lt n, by decide⟩

/-- The decimal as text, with exactly `scale` places. -/
def text (d : FixedPoint) : String :=
  let ds := Numeral.padded (d.scale + 1) d.coefficient
  let whole := ds.take (ds.length - d.scale)
  let places := ds.drop (ds.length - d.scale)
  let sign := if d.negative then ['-'] else []
  String.ofList (sign ++ whole ++ (if d.scale = 0 then [] else '.' :: places))

/-! ## Digits -/

/-- Whether a digit that is dropped rounds up what is kept. -/
def roundsUp (digit : Nat) : Bool :=
  5 ≤ digit

/-- The value of a digit. -/
def digitValue (c : Char) : Nat :=
  c.toNat - 48

/-- What has been read so far. -/
structure Progress where
  coefficient : Nat
  scale : Nat
  /-- Whether the point has been passed. -/
  afterPoint : Bool
  /-- Whether there was any digit. -/
  anyDigit : Bool

namespace Progress

/-- Nothing read yet. -/
def start : Progress := ⟨0, 0, false, false⟩

/-- The unsigned decimal read so far, when there was a digit. -/
def finish? (p : Progress) : Option (Nat × Nat) :=
  if p.anyDigit then some (p.coefficient, p.scale) else none

/-- Add one to the last place.  When the coefficient does not fit then, the last place is given
up. -/
def increment? (p : Progress) : Option (Nat × Nat) :=
  if p.coefficient + 1 < coefficientBound then some (p.coefficient + 1, p.scale)
  else if p.scale = 0 then none
  else some ((p.coefficient + 5) / 10, p.scale - 1)

/-- End the reading at characters that cannot be kept: digits and underscores, of which the first
digit rounds. -/
def round? (p : Progress) (cs : List Char) : Option (Nat × Nat) :=
  if cs.all fun c => c.isDigit || c == '_' then
    match cs.find? Char.isDigit with
    | some c => if roundsUp (digitValue c) then p.increment? else some (p.coefficient, p.scale)
    | none => some (p.coefficient, p.scale)
  else none

/-- Read the characters of an unsigned decimal. -/
def read? (p : Progress) : List Char → Option (Nat × Nat)
  | [] => p.finish?
  | c :: cs =>
    if p.afterPoint && maxScale ≤ p.scale then p.round? (c :: cs)
    else if c.isDigit then
      let next := p.coefficient * 10 + digitValue c
      if coefficientBound ≤ next then
        if p.afterPoint then p.round? (c :: cs) else none
      else read? ⟨next, if p.afterPoint then p.scale + 1 else 0, p.afterPoint, true⟩ cs
    else if c = '.' && !p.afterPoint then read? { p with afterPoint := true } cs
    else if c = '_' && p.anyDigit then read? p cs
    else none

end Progress

/-- Give a sign to an unsigned decimal; zero takes none. -/
def signed? (negative : Bool) (parts : Nat × Nat) : Option FixedPoint :=
  ofParts? (negative && parts.1 != 0) parts.1 parts.2

/-- Read a decimal without exponent. -/
def positional? : List Char → Option FixedPoint
  | '-' :: cs => (Progress.start.read? cs).bind (signed? true)
  | '+' :: cs => (Progress.start.read? cs).bind (signed? false)
  | cs => (Progress.start.read? cs).bind (signed? false)

/-! ## Exponents -/

/-- Move the point of a decimal to the right.  Places are used up first; what
is left multiplies the coefficient. -/
def shiftRight? (d : FixedPoint) (places : Nat) : Option FixedPoint :=
  if maxScale < places then none
  else if places ≤ d.scale then ofParts? d.negative d.coefficient (d.scale - places)
  else ofParts? d.negative (d.coefficient * Nat.pow 10 (places - d.scale)) 0

/-- A coefficient without its last `places` digits, of which the first one rounds. -/
def withoutPlaces (coefficient : Nat) : (places : Nat) → Nat
  | 0 => coefficient
  | places + 1 =>
    let kept := coefficient / Nat.pow 10 places
    if roundsUp (kept % 10) then kept / 10 + 1 else kept / 10

/-- Move the point of a decimal to the left: it gains as many places, up to the greatest scale,
and what goes past that is rounded off. -/
def shiftLeft? (d : FixedPoint) (places : Nat) : Option FixedPoint :=
  if maxScale < places then none
  else
    let scale := d.scale + places
    ofParts? d.negative (withoutPlaces d.coefficient (scale - maxScale)) (min scale maxScale)

/-- The digits of an exponent, a plus sign allowed. -/
def unsignedExponent? : List Char → Option Nat
  | '+' :: cs => Numeral.value? cs
  | cs => Numeral.value? cs

/-- Read a decimal, with an exponent or without. -/
def read? (cs : List Char) : Option FixedPoint :=
  let isExponent := fun c => c == 'e' || c == 'E'
  let base := cs.takeWhile fun c => !isExponent c
  match cs.dropWhile fun c => !isExponent c with
  | [] => positional? base
  | _ :: '-' :: e => do (← positional? base).shiftLeft? (← unsignedExponent? e)
  | _ :: e => do (← positional? base).shiftRight? (← unsignedExponent? e)

end FixedPoint
end TableMapping
