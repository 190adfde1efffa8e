import LineScript.Json.Read
import LineScript.Text.Utf8

/-!
Messages from a debug client. Only requests are acted on; a message of any other type is let pass. A
message is an object with its type under `type`, or an array that begins with its type.
-/

namespace LineScript.Debug

/-- A request. -/
structure Request where
  seq : Int
  command : Text
  arguments : Option Json

/-- The arguments of a request, which are an empty object when they are absent or null. -/
def Request.given (r : Request) : Json :=
  match r.arguments with
  | none => .obj []
  | some .null => .obj []
  | some j => j

/-- A message from a client. -/
inductive Incoming where
  | request (r : Request)
  | other

namespace Incoming

/-- The value of a field that must not be there twice; the inner option tells whether it is there. -/
def uniqueField? (key : String) (fields : List (Text × Json)) : Option (Option Json) :=
  match fields.filter fun field => field.1 = key.toList with
  | [] => some none
  | [(_, j)] => some (some j)
  | _ => none

/-- A whole number of 64 bits with a sign. -/
def integer? : Json → Option Int
  | .int n => if n ≤ Json.greatestSigned then some n else none
  | _ => none

/-- A string. -/
def string? : Json → Option Text
  | .str t => some t
  | _ => none

/-- Arguments, which are absent when they are null. -/
def arguments? : Option Json → Option Json
  | some .null => none
  | j => j

/-- A message of the given type with these further fields. -/
def ofFields? (type : Text) (fields : List (Text × Json)) : Option Incoming :=
  if type = "request".toList then
    match uniqueField? "seq" fields, uniqueField? "command" fields,
      uniqueField? "arguments" fields with
    | some (some seq), some (some command), some arguments =>
      match integer? seq, string? command with
      | some seq, some command => some (request ⟨seq, command, arguments? arguments⟩)
      | _, _ => none
    | _, _, _ => none
  else some other

/-- A message of the given type with these further elements. -/
def ofItems? (type : Text) (items : List Json) : Option Incoming :=
  if type = "request".toList then
    match items with
    | seq :: command :: rest =>
      if 1 < rest.length then none
      else
        match integer? seq, string? command with
        | some seq, some command => some (request ⟨seq, command, arguments? rest.head?⟩)
        | _, _ => none
    | _ => none
  else if items.isEmpty then some other
  else none

/-- The message that a JSON value is. -/
def ofJson? : Json → Option Incoming
  | .obj fields =>
    match uniqueField? "type" fields with
    | some (some (.str type)) => ofFields? type fields
    | _ => none
  | .arr (.str type :: items) => ofItems? type items
  | _ => none

/-- The message in the body of a frame. -/
def ofBytes? (body : List UInt8) : Option Incoming :=
  ((Text.ofBytes? body).bind Json.read?).bind ofJson?

end Incoming

end LineScript.Debug
