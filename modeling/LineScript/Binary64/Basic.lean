import LineScript.Text.Basic

/-!
Numbers in the 64-bit binary format. A number that is not NaN is a sign and a magnitude, the number's
place among the non-negative ones, which is its bit pattern without the sign bit; so the order of
numbers is the order of integers (`Binary64.key`).

A finite magnitude is also a whole number of `units` of `2 ^ -1074`, the least positive number. Every
exact statement about values is one about units.
-/

namespace LineScript

/-- A number in the 64-bit binary format. NaN has one representation. -/
inductive Binary64 where
  /-- The result of an operation that has none. -/
  | nan
  /-- A number with its sign and its place among the non-negative numbers. -/
  | signed (negative : Bool) (magnitude : Nat) (le_infinity : magnitude ≤ 0x7FF0000000000000)
deriving DecidableEq

namespace Binary64

/-- The magnitude of the infinities, one past the greatest finite magnitude. -/
def infinityMagnitude : Nat := 0x7FF0000000000000

/-- The number with this sign and the given magnitude, or infinity when the magnitude is beyond it. -/
def ofMagnitude (negative : Bool) (magnitude : Nat) : Binary64 :=
  signed negative (min magnitude infinityMagnitude) (Nat.min_le_right _ _)

/-- Zero with the given sign. -/
def zero (negative : Bool) : Binary64 := signed negative 0 (Nat.zero_le _)

/-- Infinity with the given sign. -/
def infinity (negative : Bool) : Binary64 := signed negative infinityMagnitude (Nat.le_refl _)

/-- What the sign bit weighs in a bit pattern, `2 ^ 63`. -/
abbrev signWeight : Nat := 0x8000000000000000

/-- The number with this bit pattern: the sign bit, eleven bits of exponent, 52 bits of fraction. -/
def ofBits (word : Nat) : Binary64 :=
  let magnitude := word % signWeight
  if h : magnitude ≤ 0x7FF0000000000000 then signed (signWeight ≤ word) magnitude h else nan

/-- The bit pattern of a number that is not NaN. -/
def bits? : Binary64 → Option Nat
  | nan => none
  | signed negative magnitude _ => some (if negative then signWeight + magnitude else magnitude)

def isNaN : Binary64 → Bool
  | nan => true
  | signed .. => false

def isInfinite : Binary64 → Bool
  | nan => false
  | signed _ magnitude _ => magnitude == infinityMagnitude

def isFinite : Binary64 → Bool
  | nan => false
  | signed _ magnitude _ => magnitude < infinityMagnitude

/-! ## Order -/

/-- An integer that is ordered as the number is; both zeros have the key 0. -/
def key? : Binary64 → Option Int
  | nan => none
  | signed negative magnitude _ => some (if negative then -magnitude else magnitude)

/-- The order of two numbers; NaN has no place in it. -/
def compare? (x y : Binary64) : Option Ordering :=
  match x.key?, y.key? with
  | some a, some b => some (Ord.compare a b)
  | _, _ => none

/-- Equality of values: NaN differs from itself, and the zeros are equal. -/
def eq (x y : Binary64) : Bool := compare? x y == some .eq

/-- `x < y`, which is false when either is NaN. -/
def lt (x y : Binary64) : Bool := compare? x y == some .lt

/-- `x ≤ y`, which is false when either is NaN. -/
def le (x y : Binary64) : Bool := lt x y || eq x y

/-- The lesser of two numbers; a NaN yields the other, and of two zeros the second is taken. -/
def min : Binary64 → Binary64 → Binary64
  | nan, y => y
  | x, y => if le y x then y else x

/-- The greater of two numbers; a NaN yields the other, and of two zeros the second is taken. -/
def max : Binary64 → Binary64 → Binary64
  | nan, y => y
  | x, y => if le x y then y else x

/-- The number without its sign. -/
def abs : Binary64 → Binary64
  | nan => nan
  | signed _ magnitude h => signed false magnitude h

/-! ## Units -/

/-- How many magnitudes there are from one power of two up to the next, `2 ^ 52`. -/
abbrev binade : Nat := 0x10000000000000

/-- The multiple of `2 ^ -1074` that a magnitude stands for. Infinity is given `2 ^ 1024`, the first
value too great to be finite. -/
def units (magnitude : Nat) : Nat :=
  if magnitude < 2 * binade then magnitude
  else (binade + magnitude % binade) * Nat.pow 2 (magnitude / binade - 1)

/-- One, in units. -/
def unitsPerOne : Nat := Nat.pow 2 1074

end Binary64

end LineScript
