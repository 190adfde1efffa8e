import LineScript.Unicode.CaseTable
import LineScript.Text.Basic

/-!
Upper and lower case of a text, by the full mappings of Unicode and no locale. One mapping depends on
its neighbours: a capital sigma at the end of a word becomes `ς`.
-/

namespace LineScript

namespace Unicode

/-- Whether the run maps the code point. -/
def CaseRun.covers (run : CaseRun) (n : Nat) : Bool :=
  run.first ≤ n && n ≤ run.last && (n - run.first) % run.step == 0

/-- The form of a code point under a table of runs; a code point of no run is its own form. -/
def mapByRuns (table : List CaseRun) (n : Nat) : Nat :=
  match table.find? (·.covers n) with
  | some run => (n + run.shift).toNat
  | none => n

/-- The lower-case form of a character. Only `İ` has one of two characters. -/
def lowerChar (c : Char) : List Char :=
  if c == 'İ' then ['i', Char.ofNat 0x307] else [Char.ofNat (mapByRuns lowerRuns c.toNat)]

/-- The upper-case form of a character. -/
def upperChar (c : Char) : List Char :=
  match upperSequences.find? (·.1 == c.toNat) with
  | some (_, codes) => codes.map Char.ofNat
  | none => [Char.ofNat (mapByRuns upperRuns c.toNat)]

/-- Characters that have case. -/
def isCased (c : Char) : Bool := inRanges casedRanges c.toNat

/-- Characters that a search for the neighbouring letter looks through. -/
def isCaseIgnorable (c : Char) : Bool := inRanges caseIgnorableRanges c.toNat

end Unicode

namespace Text

open Unicode

/-- Whether the first character that is not looked through has case. -/
def startsCased (t : Text) : Bool :=
  match t.dropWhile isCaseIgnorable with
  | c :: _ => isCased c
  | [] => false

/-- The upper-case form of a text. -/
def upper (t : Text) : Text := t.flatMap upperChar

/-- The lower-case form of a text, given the characters before it in reverse. A capital sigma ends a
word when a cased letter stands before it and none behind. -/
def lowerAfter (before : Text) : Text → Text
  | [] => []
  | c :: rest =>
    let form :=
      if c == 'Σ' then
        if startsCased before && !startsCased rest then ['ς'] else ['σ']
      else lowerChar c
    form ++ lowerAfter (c :: before) rest

/-- The lower-case form of a text. -/
def lower (t : Text) : Text := lowerAfter [] t

end Text

end LineScript
