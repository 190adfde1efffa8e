import LineScript.Binary64.Shortest
import LineScript.Entries

/-!
JSON values and their compact text. Whole numbers of 64 bits are kept apart from all other numbers,
and an object keeps its fields as they were written, repeated keys included.
-/

namespace LineScript

/-- A JSON value. -/
inductive Json where
  | null
  | bool (b : Bool)
  | int (n : Int)
  | float (x : Binary64)
  | str (t : Text)
  | arr (items : List Json)
  | obj (fields : List (Text × Json))

namespace Json

instance : Inhabited Json := ⟨null⟩

/-- The greatest whole number of 64 bits with a sign. -/
def greatestSigned : Int := 0x7FFFFFFFFFFFFFFF

/-! ## Text -/

/-- One character inside a string. Only quotes, backslashes and controls are escaped. -/
def escapedChar (c : Char) : Text :=
  if c == '"' then ['\\', '"']
  else if c == '\\' then ['\\', '\\']
  else if c == '\n' then ['\\', 'n']
  else if c == '\r' then ['\\', 'r']
  else if c == '\t' then ['\\', 't']
  else if c.toNat == 0x8 then ['\\', 'b']
  else if c.toNat == 0xC then ['\\', 'f']
  else if c.toNat < 0x20 then
    "\\u00".toList ++ (if c.toNat < 0x10 then ['0'] else []) ++ Nat.toDigits 16 c.toNat
  else [c]

/-- A string with its quotes. -/
def quote (t : Text) : Text := '"' :: t.flatMap escapedChar ++ ['"']

/-- A number that is no whole number of 64 bits. It always shows a point or an exponent: digits are
written out as long as the point is at most sixteen places behind the first digit and fewer than five
zeros lead. An exponent always shows its sign. A middle goes to the even digit. -/
def floatText : Binary64 → Text
  | .nan => "null".toList
  | .signed negative magnitude _ =>
    Binary64.withSign negative <|
      if magnitude = 0 then "0.0".toList
      else if magnitude = Binary64.infinityMagnitude then "null".toList
      else
        let (digits, exponent) := Binary64.shortest .even magnitude
        let ds := Text.ofNat digits
        let place : Int := ds.length + exponent
        if 0 ≤ exponent ∧ place ≤ 16 then Binary64.positional digits exponent ++ ".0".toList
        else if -5 < place ∧ place ≤ 16 then Binary64.positional digits exponent
        else
          ds.take 1 ++ (if ds.length = 1 then [] else '.' :: ds.drop 1) ++
            'e' :: (if place ≤ 0 then [] else ['+']) ++ Text.ofInt (place - 1)

mutual

/-- The compact text of a value. -/
def render : Json → Text
  | null => "null".toList
  | bool b => if b then "true".toList else "false".toList
  | int n => Text.ofInt n
  | float x => floatText x
  | str t => quote t
  | arr items => '[' :: Text.joinWith [','] (renderItems items) ++ [']']
  | obj fields => '\x7b' :: Text.joinWith [','] (renderFields fields) ++ ['\x7d']

/-- The texts of the elements of an array. -/
def renderItems : List Json → List Text
  | [] => []
  | item :: rest => render item :: renderItems rest

/-- The texts of the fields of an object. -/
def renderFields : List (Text × Json) → List Text
  | [] => []
  | (key, value) :: rest => (quote key ++ ':' :: render value) :: renderFields rest

end

/-! ## Access -/

/-- The fields of an object with each key once, the last value under it, and the keys in order. -/
def distinctFields (fields : List (Text × Json)) : List (Text × Json) :=
  (Entries.ofPairs fields).mergeSort fun a b => Text.precedes a.1 b.1

/-- The last value under a key of an object. -/
def field? (key : String) : Json → Option Json
  | obj fields => (Entries.ofPairs fields).get? key.toList
  | _ => none

/-- An object with fields under these keys. -/
def record (fields : List (String × Json)) : Json :=
  obj (fields.map fun (key, value) => (key.toList, value))

end Json

end LineScript
