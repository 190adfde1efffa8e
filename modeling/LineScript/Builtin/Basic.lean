import LineScript.Failure
import LineScript.Value.Display

/-!
The built-in functions and what one of them can answer. Most functions do not fail on an argument of
the wrong kind: they answer with a mismatch, which warns and hands the argument back. A function that
changes the container it is given answers with the changed container beside its result, and the caller
stores it where the container came from.
-/

namespace LineScript

/-- The built-in functions. -/
inductive Builtin where
  | print | input
  | abs | max | min | round | floor | ceil | random | randint
  | now | sleep
  | array | push | pop | insert | remove | indexOf | sort | reverse
  | map | set | get | delete | keys | values | has
  | len | type | isNumber | isString | isArray | isObject | isEmpty
  | safeDivide | safeArrayGet | safeMapGet
  | str | int | float | bool
  | assert | throw
  | searchBuiltin
  | spawnPlayer | rollDice | attack | heal | saveGame
  | upper | lower | trim | split | join | replace | contains
deriving DecidableEq

/-- What a built-in function answers. -/
inductive Reply where
  | value (v : Value)
  /-- A result, and the new contents of the container that was the first argument. -/
  | update (v receiver : Value)
  /-- The argument `got` is not what was expected. -/
  | mismatch (expected : String) (got : Value)
  | failure (f : Failure)

namespace Reply

/-- A string. -/
def str (t : Text) : Reply := value (.str t)

/-- A number. -/
def num (x : Binary64) : Reply := value (.num x)

/-- A boolean. -/
def bool (b : Bool) : Reply := value (.bool b)

/-- A container that is its own new contents. -/
def changed (v : Value) : Reply := update v v

end Reply

/-- The arguments of a call. -/
abbrev Arguments := List Value

namespace Arguments

/-- The argument at a position; a missing argument counts as null. -/
def arg (args : Arguments) (i : Nat) : Value := args.getD i .null

/-- The texts of the arguments. -/
def texts (args : Arguments) : List Text := args.map Value.display

end Arguments

end LineScript
