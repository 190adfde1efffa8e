import LineScript.Binary64.Basic

/-!
Arithmetic on numbers. Every operation is exact on units and then rounds once, to the nearest number
and from the middle to the neighbour with the even magnitude.
-/

namespace LineScript.Binary64

/-- The whole number nearest to `num / den`, the even one of two. -/
def roundQuotient (num den : Nat) : Nat :=
  let q := num / den
  let r := num % den
  if 2 * r < den then q
  else if den < 2 * r then q + 1
  else if q % 2 = 0 then q else q + 1

/-- The magnitude nearest to `num / den` units. Magnitudes below `2 ^ 53` are numbers of units; beyond,
the spacing doubles with every power of two. -/
def nearestMagnitude (num den : Nat) : Nat :=
  let shift := Nat.log2 (num / den) - 52
  shift * binade + roundQuotient num (den * Nat.pow 2 shift)

/-- The number nearest to `num / den` units; beyond the greatest number it is infinity. -/
def ofUnits (negative : Bool) (num den : Nat) : Binary64 :=
  ofMagnitude negative (nearestMagnitude num den)

/-- The number nearest to an integer. -/
def ofInt (n : Int) : Binary64 := ofUnits (n < 0) (n.natAbs * unitsPerOne) 1

/-- The number nearest to a natural number. -/
def ofNat (n : Nat) : Binary64 := ofUnits false (n * unitsPerOne) 1

/-- A number of units with a sign. -/
def signedUnits (negative : Bool) (magnitude : Nat) : Int :=
  if negative then -(units magnitude : Int) else units magnitude

/-- The sum. A sum that is exactly zero is negative only when both terms are. -/
def add : Binary64 → Binary64 → Binary64
  | signed s a _, signed t b _ =>
    if a = infinityMagnitude then
      if b = infinityMagnitude ∧ s ≠ t then nan else infinity s
    else if b = infinityMagnitude then infinity t
    else
      let sum := signedUnits s a + signedUnits t b
      if sum = 0 then zero (s && t) else ofUnits (sum < 0) sum.natAbs 1
  | _, _ => nan

/-- The product. -/
def mul : Binary64 → Binary64 → Binary64
  | signed s a _, signed t b _ =>
    let negative := s != t
    if a = infinityMagnitude then if b = 0 then nan else infinity negative
    else if b = infinityMagnitude then if a = 0 then nan else infinity negative
    else ofUnits negative (units a * units b) unitsPerOne
  | _, _ => nan

/-- The quotient. -/
def div : Binary64 → Binary64 → Binary64
  | signed s a _, signed t b _ =>
    let negative := s != t
    if a = infinityMagnitude then if b = infinityMagnitude then nan else infinity negative
    else if b = infinityMagnitude then zero negative
    else if b = 0 then if a = 0 then nan else infinity negative
    else ofUnits negative (units a * unitsPerOne) (units b)
  | _, _ => nan

/-- Rounds to an integer: `round negative whole exact` is the absolute value wanted for a number whose
absolute value has the whole part `whole` and, if `exact`, nothing behind the point. The sign is
kept, also on a zero. -/
def toIntegral (round : Bool → Nat → Bool → Nat) : Binary64 → Binary64
  | nan => nan
  | signed negative magnitude h =>
    if magnitude = infinityMagnitude then signed negative magnitude h
    else
      let u := units magnitude
      let whole := round negative (u / unitsPerOne) (u % unitsPerOne == 0)
      ofUnits negative (whole * unitsPerOne) 1

/-- Drops what is behind the point. -/
def trunc : Binary64 → Binary64 := toIntegral fun _ whole _ => whole

/-- The greatest integer that is not greater. -/
def floor : Binary64 → Binary64 :=
  toIntegral fun negative whole exact => if negative && !exact then whole + 1 else whole

/-- The least integer that is not less. -/
def ceil : Binary64 → Binary64 :=
  toIntegral fun negative whole exact => if negative || exact then whole else whole + 1

/-- Whether the number is an integer; infinities are not. -/
def isIntegral : Binary64 → Bool
  | nan => false
  | signed _ magnitude _ => magnitude != infinityMagnitude && units magnitude % unitsPerOne == 0

/-- The number without what is behind the point, as an integer from `least` to `greatest`: a number
outside that range yields the bound it is beyond, and NaN yields 0. -/
def toInt (least greatest : Int) : Binary64 → Int
  | nan => 0
  | signed negative magnitude _ =>
    let whole : Int := (units magnitude / unitsPerOne : Nat)
    let value := if negative then -whole else whole
    if value < least then least else if greatest < value then greatest else value

/-- The number without what is behind the point as a natural number below `2 ^ width`: a negative
number yields 0, one that is too great the greatest, and NaN yields 0. -/
def toNat (width : Nat) (x : Binary64) : Nat := (x.toInt 0 (Nat.pow 2 width - 1 : Nat)).toNat

end LineScript.Binary64
