import LineScript.Block.Construct
import LineScript.Statement

/-!
The outline of a source text: which lines are run, in which order, and as what. The outline hangs on
the text alone. Lines that say nothing and structural lines leave it, the bodies of declarations and of
regions without a try are stepped over, and a try construct becomes one step with its regions' lines.
-/

namespace LineScript

/-- A statement and the number of its line, counted from 1. -/
structure Item where
  line : Nat
  statement : Statement
deriving DecidableEq

/-- A try construct as a step of a program. -/
structure Attempt where
  /-- The number of the line with the `try`, counted from 1. -/
  line : Nat
  /-- The number of the first line that opens another try inside, counted from 1. -/
  nestedTry : Option Nat
  body : List Item
  /-- The name that the handler's error is bound to. -/
  binding : Option Text
  handler : Option (List Item)
  cleanup : Option (List Item)
deriving DecidableEq

/-- A step of a program. -/
inductive Step where
  | item (i : Item)
  | attempt (a : Attempt)
deriving DecidableEq

namespace Program

/-- The line at which reading goes on after a statement on the line numbered `i`, counted from 0. -/
def next (i : Nat) (line : Text) (rest : List Text) : Statement → Nat
  | .tryOpener => (Construct.scanFrom i line rest).resumeAt
  | .declaration .. => bodyEndAfter i line rest
  | .orphan _ => bodyEndAfter i line rest
  | _ => i + 1

/-- The statements that are run from the line numbered `i` up to the line `stop`. -/
def itemsUpTo (stop i : Nat) (lines : List Text) : List Item :=
  match lines with
  | [] => []
  | line :: rest =>
    if stop ≤ i then []
    else if isSkippable line then itemsUpTo stop (i + 1) rest
    else
      match Statement.classify line.trim with
      | .structural => itemsUpTo stop (i + 1) rest
      | statement =>
        let skipped := next i line rest statement - (i + 1)
        ⟨i + 1, statement⟩ :: itemsUpTo stop (i + 1 + skipped) (rest.drop skipped)
termination_by lines.length
decreasing_by
  all_goals
    simp only [List.length_drop, List.length_cons]
    omega

/-- The statements of a region's body, where `lines` begin with the line numbered `i`. The body of an
inline region keeps the number of its line. -/
def regionItems (i : Nat) (lines : List Text) (region : Region) : List Item :=
  let behind := lines.drop (region.start - i)
  if region.inline then
    match behind.head?.bind inlineBody? with
    | some body => itemsUpTo region.stop region.start [body]
    | none => []
  else itemsUpTo region.stop region.start behind

/-- The step that a try construct is, where `lines` begin with its opener, numbered `i`. -/
def attemptOf (i : Nat) (lines : List Text) (c : Construct) : Attempt :=
  ⟨i + 1, c.nestedTry.map (· + 1), regionItems i lines c.tryRegion, c.binding,
    c.catchRegion.map (regionItems i lines), c.finallyRegion.map (regionItems i lines)⟩

/-- The steps from the line numbered `i` on. -/
def readFrom (i : Nat) (lines : List Text) : List Step :=
  match lines with
  | [] => []
  | line :: rest =>
    if isSkippable line then readFrom (i + 1) rest
    else
      match Statement.classify line.trim with
      | .structural => readFrom (i + 1) rest
      | statement =>
        let skipped := next i line rest statement - (i + 1)
        let step :=
          match statement with
          | .tryOpener => .attempt (attemptOf i (line :: rest) (Construct.scanFrom i line rest))
          | _ => .item ⟨i + 1, statement⟩
        step :: readFrom (i + 1 + skipped) (rest.drop skipped)
termination_by lines.length
decreasing_by
  all_goals
    simp only [List.length_drop, List.length_cons]
    omega

/-- The steps of a program, given by its lines. -/
def read (lines : List Text) : List Step := readFrom 0 lines

end Program

end LineScript
