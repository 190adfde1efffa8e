import LineScript.Binary64.Decimal

/-!
Numbers as decimal text. The digits are the fewest that read back as the number (`Binary64.shortest`),
found by trying one digit, two digits, and so on: on each decimal grid only the two points around the
value can read back, and of two that do, the nearer is taken. From the middle between them a writer of
decimal text goes where its `Tie` says.
-/

namespace LineScript.Binary64

/-- Where a value in the middle between two points of a grid goes. -/
inductive Tie where
  /-- To the greater. -/
  | up
  /-- To the one with the even last digit. -/
  | even
deriving DecidableEq

/-- Whether a value in the middle goes to the point below, which has these digits. -/
def Tie.goesDown (tie : Tie) (digits : Nat) : Bool :=
  match tie with
  | up => false
  | even => digits % 2 == 0

/-- The power of ten above a finite magnitude that is not zero: its value is less than
`10 ^ place`, and at least a tenth of that. No number is below `10 ^ -400`. -/
def place (magnitude : Nat) : Int :=
  (Text.ofNat (units magnitude * Nat.pow 10 400 / unitsPerOne)).length - 400

/-- Whether the decimal value reads back as the magnitude. -/
def readsBack (magnitude : Nat) (decimal : Nat × Int) : Bool :=
  magnitudeOfDecimal decimal.1 decimal.2 == magnitude

/-- A magnitude's value over `10 ^ exponent`, as a quotient. -/
def scaled (magnitude : Nat) (exponent : Int) : Nat × Nat :=
  if 0 ≤ exponent then (units magnitude, unitsPerOne * Nat.pow 10 exponent.toNat)
  else (units magnitude * Nat.pow 10 (-exponent).toNat, unitsPerOne)

/-- The decimal value of `count` digits that reads back as the magnitude and is nearest to it. -/
def withDigits? (tie : Tie) (magnitude count : Nat) : Option (Nat × Int) :=
  let exponent := place magnitude - count
  let value := scaled magnitude exponent
  let digits := value.1 / value.2
  let rest := value.1 % value.2
  let below := (digits, exponent)
  let above :=
    if digits + 1 = Nat.pow 10 count then (Nat.pow 10 (count - 1), exponent + 1)
    else (digits + 1, exponent)
  let nearerBelow := 2 * rest < value.2 || (2 * rest == value.2 && tie.goesDown digits)
  if readsBack magnitude below && (nearerBelow || !readsBack magnitude above) then some below
  else if readsBack magnitude above then some above
  else none

/-- The decimal value with the fewest digits that reads back as the magnitude. Seventeen digits are
always enough; the exact value stands behind them. -/
def shortest (tie : Tie) (magnitude : Nat) : Nat × Int :=
  ((List.range 17).findSome? fun i => withDigits? tie magnitude (i + 1)).getD
    (units magnitude * Nat.pow 5 1074, -1074)

/-- A decimal value without an exponent, with a point only before digits. -/
def positional (digits : Nat) (exponent : Int) : Text :=
  let ds := Text.ofNat digits
  if 0 ≤ exponent then ds ++ List.replicate exponent.toNat '0'
  else
    let places := (-exponent).toNat
    let padded := List.replicate (places + 1 - ds.length) '0' ++ ds
    let whole := padded.length - places
    padded.take whole ++ '.' :: padded.drop whole

/-- The text of a finite magnitude. A middle goes up. -/
def magnitudeText (magnitude : Nat) : Text :=
  if magnitude = 0 then ['0']
  else
    let decimal := shortest .up magnitude
    positional decimal.1 decimal.2

/-- A minus sign before the text of a negative number. -/
def withSign (negative : Bool) (t : Text) : Text := if negative then '-' :: t else t

/-- The text of a number that keeps the sign of zero. -/
def plainText : Binary64 → Text
  | nan => "NaN".toList
  | signed negative magnitude _ =>
    withSign negative (if magnitude = infinityMagnitude then "inf".toList
      else magnitudeText magnitude)

/-- The text of a number in a script. Neither zero shows a sign. -/
def text : Binary64 → Text
  | nan => "NaN".toList
  | signed negative magnitude _ =>
    if magnitude = 0 then ['0']
    else
      withSign negative (if magnitude = infinityMagnitude then "Infinity".toList
        else magnitudeText magnitude)

end LineScript.Binary64
