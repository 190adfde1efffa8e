import LineScript.Binary64.Arithmetic

/-!
Decimal literals and the numbers nearest to them. A literal has an optional sign, digits with at most
one point among or beside them, and an optional exponent; words such as `inf` are no literals.
-/

namespace LineScript

/-- The value `digits * 10 ^ exponent` with a sign. -/
structure Decimal where
  negative : Bool
  digits : Nat
  exponent : Int
deriving DecidableEq

namespace Decimal

/-- The sign a text begins with, and what follows it. -/
def readSign : Text → Bool × Text
  | '-' :: rest => (true, rest)
  | '+' :: rest => (false, rest)
  | t => (false, t)

/-- The integer a text consists of: an optional sign and at least one digit. -/
def readInteger? (t : Text) : Option Int :=
  let (negative, digits) := readSign t
  if digits.isEmpty || !digits.all Char.isDigit then none
  else
    let n : Int := Nat.ofDigitChars 10 digits 0
    some (if negative then -n else n)

/-- The exponent at the end of a literal, which may be absent. -/
def readExponent? : Text → Option Int
  | [] => some 0
  | c :: rest => if c == 'e' || c == 'E' then readInteger? rest else none

/-- The digits behind a point, if there is one, and what follows them. -/
def readFraction : Text → Text × Text
  | '.' :: rest => (rest.takeWhile Char.isDigit, rest.dropWhile Char.isDigit)
  | t => ([], t)

/-- The value of a literal. The digits before the point or those behind it may be missing, not both. -/
def read? (t : Text) : Option Decimal :=
  let (negative, t) := readSign t
  let whole := t.takeWhile Char.isDigit
  let (fraction, t) := readFraction (t.dropWhile Char.isDigit)
  if whole.isEmpty && fraction.isEmpty then none
  else
    (readExponent? t).map fun exponent =>
      ⟨negative, Nat.ofDigitChars 10 (whole ++ fraction) 0, exponent - fraction.length⟩

/-- The least power of ten above the value of a literal that is not zero. -/
def place (d : Decimal) : Int := (Text.ofNat d.digits).length + d.exponent

end Decimal

namespace Binary64

/-- The magnitude nearest to `digits * 10 ^ exponent`. -/
def magnitudeOfDecimal (digits : Nat) (exponent : Int) : Nat :=
  if 0 ≤ exponent then nearestMagnitude (digits * Nat.pow 10 exponent.toNat * unitsPerOne) 1
  else nearestMagnitude (digits * unitsPerOne) (Nat.pow 10 (-exponent).toNat)

/-- The number nearest to a decimal value. Values of at least `10 ^ 310` are infinite and values below
`10 ^ -330` are zero, whatever their digits. -/
def ofDecimal (d : Decimal) : Binary64 :=
  if d.digits = 0 then zero d.negative
  else if 310 < d.place then infinity d.negative
  else if d.place < -330 then zero d.negative
  else ofMagnitude d.negative (magnitudeOfDecimal d.digits d.exponent)

/-- The number that a literal, with any blanks around it, stands for. -/
def read? (t : Text) : Option Binary64 := (Decimal.read? t.trim).map ofDecimal

end Binary64

end LineScript
