import LineScript.Nesting

/-!
The lines that open the regions of a try construct. Such a line has a block keyword in front, after any
closing braces of the region before it; a keyword that is assigned to is a variable instead.
-/

namespace LineScript

open Unicode

/-- The three kinds of region. -/
inductive BlockKind where
  | tryBlock
  | catchBlock
  | finallyBlock
deriving DecidableEq

/-- The kind of the region that an opener begins behind a region of kind `before`; the construct ends
when there is none. -/
def BlockKind.next? (before opener : BlockKind) : Option BlockKind :=
  match before, opener with
  | .tryBlock, .catchBlock => some .catchBlock
  | .tryBlock, .finallyBlock => some .finallyBlock
  | .catchBlock, .finallyBlock => some .finallyBlock
  | _, _ => none

/-- What a line that opens a region says. -/
structure Opener where
  kind : BlockKind
  /-- The number of closing braces in front of the keyword. -/
  closers : Nat
  /-- The text behind the keyword. -/
  rest : Text

namespace Opener

/-- The block keywords. -/
def keywords : List (Text × BlockKind) := [
  ("try".toList, .tryBlock), ("尝试".toList, .tryBlock),
  ("catch".toList, .catchBlock), ("捕获".toList, .catchBlock),
  ("finally".toList, .finallyBlock), ("最终".toList, .finallyBlock)]

/-- Closing braces and blanks, which may stand in front of a keyword. -/
def isLead (c : Char) : Bool := c == '\x7d' || isBlank c

/-- Whether the text behind a keyword leaves it one: no word goes on, and nothing is assigned. -/
def endsKeyword (rest : Text) : Bool :=
  !(rest.head?.any isWordChar) && rest.trimStart.head? != some '='

/-- What follows a keyword in front of a text. -/
def stripKeyword? (word t : Text) : Option Text :=
  (Text.stripPrefix? word t).filter endsKeyword

/-- Reads a line as an opener. -/
def read? (line : Text) : Option Opener :=
  keywords.findSome? fun (word, kind) =>
    (stripKeyword? word (line.dropWhile isLead)).map fun rest =>
      ⟨kind, (line.takeWhile isLead).count '\x7d', rest⟩

/-- The name that the text behind a `catch` binds the error to: `(e) {` and `e {` bind `e`, and `{` binds
none. -/
def binding? (rest : Text) : Option Text :=
  let rest := rest.trimStart
  let rest := ((Text.stripPrefix? ['('] rest).getD rest).trimStart
  let name := rest.takeWhile isWordChar
  if name.isEmpty then none else some name

end Opener

/-- The text between the braces of a region that opens and closes on one line. -/
def inlineBody? (line : Text) : Option Text :=
  match Opener.read? line with
  | none => none
  | some opener =>
    match Text.cutTop? '\x7b' opener.rest with
    | none => none
    | some (_, body) => (Text.cutTop? '\x7d' body).map fun (inside, _) => inside.trim

/-- Blank lines and full-line comments say nothing. -/
def isSkippable (line : Text) : Bool :=
  match line.trim with
  | [] => true
  | c :: _ => c == '#'

/-- The numbers of opening and closing braces outside quotes. -/
def braceCounts (quote : Option Char) : Text → Nat × Nat
  | [] => (0, 0)
  | c :: rest =>
    match quote with
    | some q => braceCounts (if c == q then none else some q) rest
    | none =>
      if c == '"' || c == '\'' then braceCounts (some c) rest
      else
        let (opens, closes) := braceCounts none rest
        if c == '\x7b' then (opens + 1, closes)
        else if c == '\x7d' then (opens, closes + 1)
        else (opens, closes)

/-- How deep in braces a scan of lines is, and whether it has met an opening brace. -/
structure BraceDepth where
  depth : Int
  opened : Bool

namespace BraceDepth

/-- Before any brace. -/
def start : BraceDepth := ⟨0, false⟩

/-- The scan past one line. -/
def past (d : BraceDepth) (line : Text) : BraceDepth :=
  let (opens, closes) := braceCounts none line
  ⟨d.depth + opens - closes, d.opened || 0 < opens⟩

/-- Whether every brace that was opened has been closed. -/
def isClosed (d : BraceDepth) : Bool := d.opened && d.depth ≤ 0

end BraceDepth

end LineScript
