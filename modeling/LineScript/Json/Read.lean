import LineScript.Json.Number

/-!
Reading JSON. The reader is strict: no trailing commas, no controls in strings, no halves of a
surrogate pair, and at most 127 containers inside one another.
-/

namespace LineScript.Json

/-- What follows the blanks that JSON allows between its parts. -/
def skipBlanks (t : Text) : Text :=
  t.dropWhile fun c => c == ' ' || c == '\t' || c == '\n' || c == '\r'

/-- The value of a hexadecimal digit. -/
def hexValue? (c : Char) : Option Nat :=
  if c.isDigit then some (c.toNat - '0'.toNat)
  else if 'a' ≤ c ∧ c ≤ 'f' then some (c.toNat - 'a'.toNat + 10)
  else if 'A' ≤ c ∧ c ≤ 'F' then some (c.toNat - 'A'.toNat + 10)
  else none

/-- The code unit that four hexadecimal digits stand for. -/
def hexUnit? (a b c d : Char) : Option Nat :=
  match hexValue? a, hexValue? b, hexValue? c, hexValue? d with
  | some a, some b, some c, some d => some (((a * 16 + b) * 16 + c) * 16 + d)
  | _, _, _, _ => none

/-- The character that a backslash and a letter stand for. -/
def escape? (c : Char) : Option Char :=
  if c == '"' || c == '\\' || c == '/' then some c
  else if c == 'b' then some (Char.ofNat 0x8)
  else if c == 'f' then some (Char.ofNat 0xC)
  else if c == 'n' then some '\n'
  else if c == 'r' then some '\r'
  else if c == 't' then some '\t'
  else none

/-- The rest of a string behind its opening quote, and what follows it. `high` is the first half of a
surrogate pair whose second half has to come next. -/
def readString? (high : Option Nat) : Text → Option (Text × Text)
  | [] => none
  | '"' :: rest => if high.isSome then none else some ([], rest)
  | '\\' :: 'u' :: a :: b :: c :: d :: rest =>
    match hexUnit? a b c d, high with
    | none, _ => none
    | some unit, some first =>
      if 0xDC00 ≤ unit ∧ unit < 0xE000 then
        let code := 0x10000 + (first - 0xD800) * 0x400 + (unit - 0xDC00)
        (readString? none rest).map fun (t, rest) => (Char.ofNat code :: t, rest)
      else none
    | some unit, none =>
      if 0xD800 ≤ unit ∧ unit < 0xDC00 then readString? (some unit) rest
      else if 0xDC00 ≤ unit ∧ unit < 0xE000 then none
      else (readString? none rest).map fun (t, rest) => (Char.ofNat unit :: t, rest)
  | '\\' :: e :: rest =>
    match escape? e, high with
    | some c, none => (readString? none rest).map fun (t, rest) => (c :: t, rest)
    | _, _ => none
  | c :: rest =>
    if high.isSome || c.toNat < 0x20 then none
    else (readString? none rest).map fun (t, rest) => (c :: t, rest)

mutual

/-- The value at the start of a text, and what follows it. `depth` is the number of containers that may
still be opened. -/
def readValue? : (fuel depth : Nat) → Text → Option (Json × Text)
  | 0, _, _ => none
  | fuel + 1, depth, t =>
    match skipBlanks t with
    | 'n' :: 'u' :: 'l' :: 'l' :: rest => some (null, rest)
    | 't' :: 'r' :: 'u' :: 'e' :: rest => some (bool true, rest)
    | 'f' :: 'a' :: 'l' :: 's' :: 'e' :: rest => some (bool false, rest)
    | '"' :: rest => (readString? none rest).map fun (s, rest) => (str s, rest)
    | '[' :: rest =>
      if depth = 0 then none
      else
        match skipBlanks rest with
        | ']' :: rest => some (arr [], rest)
        | rest => (readItems? fuel (depth - 1) rest).map fun (items, rest) => (arr items, rest)
    | '\x7b' :: rest =>
      if depth = 0 then none
      else
        match skipBlanks rest with
        | '\x7d' :: rest => some (obj [], rest)
        | rest => (readFields? fuel (depth - 1) rest).map fun (fields, rest) => (obj fields, rest)
    | t => readNumber? t

/-- The elements up to the end of an array, of which there is at least one. -/
def readItems? : (fuel depth : Nat) → Text → Option (List Json × Text)
  | 0, _, _ => none
  | fuel + 1, depth, t =>
    match readValue? fuel depth t with
    | none => none
    | some (item, rest) =>
      match skipBlanks rest with
      | ']' :: rest => some ([item], rest)
      | ',' :: rest => (readItems? fuel depth rest).map fun (items, rest) => (item :: items, rest)
      | _ => none

/-- The fields up to the end of an object, of which there is at least one. -/
def readFields? : (fuel depth : Nat) → Text → Option (List (Text × Json) × Text)
  | 0, _, _ => none
  | fuel + 1, depth, t =>
    match skipBlanks t with
    | '"' :: rest =>
      match readString? none rest with
      | none => none
      | some (key, rest) =>
        match skipBlanks rest with
        | ':' :: rest =>
          match readValue? fuel depth rest with
          | none => none
          | some (value, rest) =>
            match skipBlanks rest with
            | '\x7d' :: rest => some ([(key, value)], rest)
            | ',' :: rest =>
              (readFields? fuel depth rest).map fun (fields, rest) => ((key, value) :: fields, rest)
            | _ => none
        | _ => none
    | _ => none

end

/-- The value that a text is. A value takes at least one character of the text, and so does every step
from one element to the next, so the text's length bounds the steps. -/
def read? (t : Text) : Option Json :=
  match readValue? (2 * t.length + 2) 127 t with
  | some (value, rest) => if (skipBlanks rest).isEmpty then some value else none
  | none => none

end LineScript.Json
