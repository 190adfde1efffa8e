import LineScript.Builtin.Basic

/-!
Functions on arrays and objects. Containers are values: a function that changes one answers with the
new container, and only the functions `push`, `pop`, `insert`, `remove`, `set` and `delete` hand it back
to be stored.
-/

namespace LineScript.Container

open Arguments

/-- Answers by the elements of the array that is the first argument. -/
def onArray (answer : List Value → Reply) (args : Arguments) : Reply :=
  match args.arg 0 with
  | .array items => answer items
  | other => .mismatch "an array" other

/-- Answers by the entries of the object that is the first argument. -/
def onObject (answer : Entries Value → Reply) (args : Arguments) : Reply :=
  match args.arg 0 with
  | .object entries => answer entries
  | other => .mismatch "an object" other

/-! ## Arrays -/

/-- The position that a value means in an array of `length` elements: the number without what is behind
its point, from 0 to the length, and 0 for a value that is no number. -/
def position (v : Value) (length : Nat) : Nat :=
  match v.toNumber? with
  | some x => if (Binary64.zero false).lt x then min (x.toNat 64) length else 0
  | none => 0

/-- The elements with one more at a position. -/
def insertAt (i : Nat) (v : Value) (items : List Value) : List Value :=
  items.take i ++ v :: items.drop i

/-- The elements without the first that equals `v`. -/
def removeFirst (v : Value) (items : List Value) : List Value := items.eraseP (· == v)

/-- The position of the first element that equals `v`, or -1. -/
def indexNumber (v : Value) (items : List Value) : Binary64 :=
  match items.findIdx? (· == v) with
  | some i => .ofNat i
  | none => .ofInt (-1)

/-- The elements in order; elements that compare as equal stay in the order they were in. Where numbers
stand with other values, or a NaN with numbers, the comparisons may contradict each other. They then fix
no order, and this is only one of those that a stable sort may come to; another sort may also find the
contradiction and break off. -/
def sorted (items : List Value) : List Value := items.mergeSort fun a b => a.compare b != .gt

/-- Takes the last element off, which is the result; of an empty array that is null. -/
def popLast (items : List Value) : Reply :=
  .update (items.getLastD .null) (.array items.dropLast)

/-! ## Objects -/

/-- Keys and values in turn as entries. A key at the end without a value gets null. -/
def pairUp : Arguments → List (Text × Value)
  | [] => []
  | [key] => [(key.display, .null)]
  | key :: v :: rest => (key.display, v) :: pairUp rest

/-- The value under a key, or `default`. -/
def valueUnder (key : Value) (default : Value) (entries : Entries Value) : Value :=
  (entries.get? key.display).getD default

/-- Whether an object has a key, or an array an element. -/
def hasMember (args : Arguments) : Reply :=
  match args.arg 0 with
  | .object entries => .bool (Entries.contains (args.arg 1).display entries)
  | .array items => .bool (items.any (· == args.arg 1))
  | other => .mismatch "an object" other

/-! ## Accesses that fail on a value of another kind -/

/-- The element of an array at a position, or the third argument if there is none there. A position is a
non-negative integer. -/
def elementAt (name : Text) (args : Arguments) : Reply :=
  match args.arg 0 with
  | .array items =>
    let found := (args.arg 1).toNumber?.bind fun x =>
      if x.lt (.zero false) || !x.isIntegral then none else items[x.toNat 64]?
    .value (found.getD (args.arg 2))
  | other => .failure (.wrongContainer name "an array".toList other.kind)

/-- The value of an object under a key, or the third argument if there is none. -/
def entryUnder (name : Text) (args : Arguments) : Reply :=
  match args.arg 0 with
  | .object entries => .value (valueUnder (args.arg 1) (args.arg 2) entries)
  | other => .failure (.wrongContainer name "an object".toList other.kind)

end LineScript.Container
