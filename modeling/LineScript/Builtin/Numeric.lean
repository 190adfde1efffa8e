import LineScript.Builtin.Basic
import LineScript.Host.Basic

/-!
Functions on numbers. Each takes the numbers that its arguments can stand for, so numeric strings and
booleans do as well.
-/

namespace LineScript.Numeric

open Arguments

/-- Applies an operation to the first argument. -/
def unary (op : Binary64 → Binary64) (args : Arguments) : Reply :=
  match (args.arg 0).toNumber? with
  | some x => .num (op x)
  | none => .mismatch "a number" (args.arg 0)

/-- One half. -/
def half : Binary64 := .ofUnits false Binary64.unitsPerOne 2

/-- The nearest integer; the middle between two goes up. -/
def roundHalfUp (x : Binary64) : Binary64 := (x.add half).floor

/-- Folds `pick` over the arguments from `start` on; the first argument that is no number ends it. -/
def extremum (pick : Binary64 → Binary64 → Binary64) (start : Binary64) : Arguments → Reply
  | [] => .num start
  | v :: rest =>
    match v.toNumber? with
    | some x => extremum pick (pick start x) rest
    | none => .mismatch "numbers" v

/-- The least integer of 64 bits. -/
def leastInteger : Int := -0x8000000000000000

/-- The greatest integer of 64 bits. -/
def greatestInteger : Int := 0x7FFFFFFFFFFFFFFF

/-- A random integer between two numbers. The bounds are integers of 64 bits; between bounds that hold
no integer the lower one is the answer. -/
def randomInteger (args : Arguments) (h : Host) : Reply × Host :=
  match (args.arg 0).toNumber? with
  | none => (.mismatch "two numbers" (args.arg 0), h)
  | some low =>
    match (args.arg 1).toNumber? with
    | none => (.mismatch "two numbers" (args.arg 1), h)
    | some high =>
      let least := low.ceil.toInt leastInteger greatestInteger
      let greatest := high.floor.toInt leastInteger greatestInteger
      if greatest < least then (.num low, h)
      else
        let (n, h) := h.between least greatest
        (.num (.ofInt n), h)

/-- A pause of so many seconds, in nanoseconds. There is none for a negative number, for NaN, and for one
of more than 64 bits of seconds. -/
def pauseLength? : Binary64 → Option Nat
  | .nan => none
  | .signed negative magnitude _ =>
    let nanoseconds :=
      Binary64.roundQuotient (Binary64.units magnitude * 1000000000) Binary64.unitsPerOne
    if (negative && magnitude != 0) || 0x10000000000000000 * 1000000000 ≤ nanoseconds then none
    else some nanoseconds

/-- Lets the given number of seconds pass. -/
def sleepFor (args : Arguments) (h : Host) : Reply × Host :=
  match (args.arg 0).toNumber? with
  | none => (.mismatch "a number of seconds" (args.arg 0), h)
  | some seconds =>
    match pauseLength? seconds with
    | none => (.value .null, h)
    | some nanoseconds => (.value .null, h.pause nanoseconds)

/-- The quotient of two numbers. A zero divisor yields the third argument if there is one, and fails
otherwise; so does an operand that is no number. -/
def divide (name : Text) (args : Arguments) : Reply :=
  match (args.arg 0).toNumber? with
  | none => .failure (.wrongArgument name "numbers".toList (args.arg 0).kind)
  | some dividend =>
    match (args.arg 1).toNumber? with
    | none => .failure (.wrongArgument name "numbers".toList (args.arg 1).kind)
    | some divisor =>
      if divisor.eq (.zero false) then
        match args[2]? with
        | some default => .value default
        | none => .failure .divisionByZero
      else .num (dividend.div divisor)

end LineScript.Numeric
