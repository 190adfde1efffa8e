import LineScript.Binary64.Shortest
import LineScript.Entries

/-!
The values that a script computes with: their kinds, the views that conditions and arithmetic take of
them, and equality.
-/

namespace LineScript

/-- The kinds of values. -/
inductive Kind where
  | string
  | number
  | boolean
  | null
  | array
  | object
deriving DecidableEq

/-- The name a script sees for a kind. -/
def Kind.name : Kind → Text
  | string => "string".toList
  | number => "number".toList
  | boolean => "boolean".toList
  | null => "null".toList
  | array => "array".toList
  | object => "object".toList

/-- A value of a script. An object has its entries in the order in which their keys came. -/
inductive Value where
  | str (t : Text)
  | num (x : Binary64)
  | bool (b : Bool)
  | null
  | array (items : List Value)
  | object (entries : List (Text × Value))

namespace Value

instance : Inhabited Value := ⟨null⟩

def kind : Value → Kind
  | str _ => .string
  | num _ => .number
  | bool _ => .boolean
  | null => .null
  | array _ => .array
  | object _ => .object

/-- Null and the string, array and object without contents are empty. -/
def isEmpty : Value → Bool
  | str t => t.isEmpty
  | null => true
  | array items => items.isEmpty
  | object entries => entries.isEmpty
  | num _ => false
  | bool _ => false

/-- What counts as true in a condition: of the numbers all but NaN and the zeros, of the strings all
but the empty one, every array and every object. -/
def isTruthy : Value → Bool
  | bool b => b
  | num x => !x.isNaN && !x.eq (.zero false)
  | str t => !t.isEmpty
  | null => false
  | array _ => true
  | object _ => true

/-- The number that a value can stand for: a boolean counts as 0 or 1, and a string as the literal it
holds. -/
def toNumber? : Value → Option Binary64
  | num x => some x
  | bool b => some (.ofNat b.toNat)
  | str t => Binary64.read? t
  | null => none
  | array _ => none
  | object _ => none

/-! ## Equality -/

mutual

/-- Equality of values: numbers are equal as numbers, arrays by their elements in order, and objects
when they have the same keys with equal values, in whatever order. -/
def eq : Value → Value → Bool
  | str s, str t => s == t
  | num x, num y => x.eq y
  | bool a, bool b => a == b
  | null, null => true
  | array xs, array ys => eqItems xs ys
  | object m, object n => m.length == n.length && eqEntries m n
  | _, _ => false

/-- Elements are equal in pairs. -/
def eqItems : List Value → List Value → Bool
  | [], [] => true
  | x :: xs, y :: ys => eq x y && eqItems xs ys
  | _, _ => false

/-- Every entry has an equal one under the same key among the others. -/
def eqEntries : List (Text × Value) → List (Text × Value) → Bool
  | [], _ => true
  | (key, value) :: rest, others =>
    (match Entries.get? key others with
      | some other => eq value other
      | none => false) && eqEntries rest others

end

instance : BEq Value := ⟨eq⟩

end Value

end LineScript
