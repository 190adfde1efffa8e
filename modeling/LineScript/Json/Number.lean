import LineScript.Json.Basic

/-!
Reading the numbers of JSON. A number without point and exponent that fits 64 bits is a whole number,
except a negative zero. All other numbers are computed in floating point: the digits that fit 64 bits
are read as a whole number, and one multiplication or division by a power of ten puts the point in its
place. A number too great to be finite is refused.
-/

namespace LineScript.Json

/-- The greatest whole number of 64 bits. -/
def greatestWord : Nat := 0xFFFFFFFFFFFFFFFF

/-- The value of a digit. -/
def digitValue (c : Char) : Nat := c.toNat - '0'.toNat

/-- Reads digits onto a whole number for as long as it fits 64 bits; the rest of the digits is
returned. -/
def readWord (word : Nat) : Text → Nat × Text
  | [] => (word, [])
  | c :: rest =>
    if greatestWord < word * 10 + digitValue c then (word, c :: rest)
    else readWord (word * 10 + digitValue c) rest

/-- The powers of ten that are finite. -/
def powerOfTen (n : Nat) : Binary64 := .ofDecimal ⟨false, 1, n⟩

/-- Divides by `10 ^ n`, in steps for which the power of ten is finite. Three steps bring every whole
number of 64 bits to zero. -/
def divideByPower : Nat → Binary64 → Nat → Binary64
  | 0, _, _ => .zero false
  | steps + 1, x, n =>
    if n ≤ 308 then x.div (powerOfTen n) else divideByPower steps (x.div (powerOfTen 308)) (n - 308)

/-- The number `word * 10 ^ exponent`, unless it is too great. -/
def scale? (word : Nat) (exponent : Int) : Option Binary64 :=
  let x := Binary64.ofNat word
  if exponent < 0 then some (divideByPower 4 x (-exponent).toNat)
  else if word = 0 then some x
  else if 308 < exponent then none
  else
    let y := x.mul (powerOfTen exponent.toNat)
    if y.isInfinite then none else some y

/-- Changes the sign. -/
def negate : Binary64 → Binary64
  | .nan => .nan
  | .signed negative magnitude h => .signed (!negative) magnitude h

/-- The exponent at the start of a text, 0 if there is none, and what follows it. Its letter must be
followed by digits. -/
def readExponent? : Text → Option (Int × Text)
  | c :: rest =>
    if c == 'e' || c == 'E' then
      let (negative, rest) := Decimal.readSign rest
      let digits := rest.takeWhile Char.isDigit
      if digits.isEmpty then none
      else
        let n : Int := Nat.ofDigitChars 10 digits 0
        some (if negative then -n else n, rest.dropWhile Char.isDigit)
    else some (0, c :: rest)
  | [] => some (0, [])

/-- The digits behind a point at the start of a text, and what follows them. A point must be followed by
digits. -/
def readFraction? : Text → Option (Text × Text)
  | '.' :: rest =>
    let digits := rest.takeWhile Char.isDigit
    if digits.isEmpty then none else some (digits, rest.dropWhile Char.isDigit)
  | t => some ([], t)

/-- A whole number, if it fits 64 bits. -/
def wholeNumber? (negative : Bool) (n : Nat) : Option Int :=
  if negative then if n ≠ 0 ∧ n ≤ 0x8000000000000000 then some (-n) else none
  else if n ≤ greatestWord then some n else none

/-- The number at the start of a text, and what follows it. -/
def readNumber? (t : Text) : Option (Json × Text) :=
  let (negative, t) := match t with
    | '-' :: rest => (true, rest)
    | t => (false, t)
  let whole := t.takeWhile Char.isDigit
  if whole.isEmpty || (whole.length != 1 && whole.head? == some '0') then none
  else
    match readFraction? (t.dropWhile Char.isDigit) with
    | none => none
    | some (fraction, afterFraction) =>
      match readExponent? afterFraction with
      | none => none
      | some (exponent, rest) =>
        let isPlain := (t.dropWhile Char.isDigit).length == rest.length
        match if isPlain then wholeNumber? negative (Nat.ofDigitChars 10 whole 0) else none with
        | some n => some (int n, rest)
        | none =>
          let (word, dropped) := readWord 0 whole
          let (word, unread) := readWord word fraction
          let place : Int := dropped.length - (fraction.length - unread.length : Nat) + exponent
          (scale? word place).map fun x => (float (if negative then negate x else x), rest)

end LineScript.Json
