import LineScript.Builtin.Basic
import LineScript.Text.Case
import LineScript.Text.Occurrence

/-!
Functions on strings. Separators and replacements may be values of any kind; their text is used.
-/

namespace LineScript.Textual

open Arguments

/-- Answers by the string that is the first argument. -/
def onString (answer : Text → Reply) (args : Arguments) : Reply :=
  match args.arg 0 with
  | .str t => answer t
  | other => .mismatch "a string" other

/-- The pieces of a text at a separator, or its words if no separator is given. -/
def splitText (args : Arguments) (t : Text) : Reply :=
  let parts :=
    match args[1]? with
    | some sep => Text.splitOn sep.display t
    | none => Text.words t
  .value (.array (parts.map Value.str))

/-- The texts of the elements with a separator between them; without one they follow each other. -/
def joinTexts (args : Arguments) : Reply :=
  match args.arg 0 with
  | .array items =>
    let sep := (args[1]?.map Value.display).getD []
    .str (Text.joinWith sep (items.map Value.display))
  | other => .mismatch "an array" other

end LineScript.Textual
