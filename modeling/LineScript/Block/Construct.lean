import LineScript.Block.Opener

/-!
Try constructs, found by counting braces line by line. A try region is followed by at most one catch
and one finally region, in this order; the opener of the next region stands on the line that closes the
one before it, or on the next line that says something.

A region ends on the line where its braces are closed, and its body is the lines between. When the
braces are closed on the opener itself, the region is inline and its body is the text between them.
A try inside the construct is noted, since constructs do not nest.
-/

namespace LineScript

/-- The body of a region: the lines from `start` up to `stop`, counted from 0. The body of an inline
region is the braced text on the line `start`. -/
structure Region where
  kind : BlockKind
  start : Nat
  stop : Nat
  inline : Bool
deriving DecidableEq

/-- A try construct. -/
structure Construct where
  tryRegion : Region
  catchRegion : Option Region
  finallyRegion : Option Region
  /-- The name that the catch region binds the error to. -/
  binding : Option Text
  /-- The first line after the construct. -/
  resumeAt : Nat
  /-- The first line that opens a try inside the construct. -/
  nestedTry : Option Nat
deriving DecidableEq

/-- A region whose end has not been found. -/
structure OpenRegion where
  kind : BlockKind
  start : Nat
  braces : BraceDepth

/-- What the scan of a construct is looking for: the end of a region, or the opener that continues the
construct behind a closed region, failing which the construct ends before the line `resume`. -/
inductive Search where
  | close (region : OpenRegion)
  | continuation (before : BlockKind) (resume : Nat)

namespace Construct

/-- The construct of which nothing is known yet, with its `try` on the line `at`. -/
def openedAt (line : Nat) : Construct :=
  ⟨⟨.tryBlock, line + 1, line + 1, false⟩, none, none, none, line + 1, none⟩

/-- The construct with a region in the slot of its kind. -/
def record (c : Construct) (region : Region) : Construct :=
  match region.kind with
  | .tryBlock => { c with tryRegion := region }
  | .catchBlock => { c with catchRegion := some region }
  | .finallyBlock => { c with finallyRegion := some region }

/-- The construct with an open region that ends before the line `stop`. -/
def close (c : Construct) (region : OpenRegion) (stop : Nat) : Construct :=
  c.record ⟨region.kind, region.start, max stop region.start, false⟩

/-- The construct with a line noted if it says `try`. -/
def noteTry (c : Construct) (line : Nat) (opener : Option Opener) : Construct :=
  match opener with
  | some ⟨.tryBlock, _, _⟩ => { c with nestedTry := some (c.nestedTry.getD line) }
  | _ => c

/-- Opens a region on the line numbered `i`, with `rest` behind the keyword. A region that is closed on
that line is inline. -/
def openRegion (c : Construct) (kind : BlockKind) (i : Nat) (line rest : Text) :
    Construct × Search :=
  let c := if kind = .catchBlock then { c with binding := Opener.binding? rest } else c
  let braces := BraceDepth.start.past rest
  if braces.isClosed then
    let c := c.noteTry i ((inlineBody? line).bind Opener.read?)
    (c.record ⟨kind, i, i + 1, true⟩, .continuation kind (i + 1))
  else (c, .close ⟨kind, i + 1, braces⟩)

/-- An opener on this line that closes the open region and goes on with the construct, or ends it. -/
def closingOpener? (region : OpenRegion) (opener : Option Opener) : Option Opener :=
  opener.filter fun o => o.kind ≠ .tryBlock ∧ region.braces.depth - o.closers ≤ 0

/-- Scans the lines from the one numbered `i` on. -/
def scanLines (c : Construct) : Search → Nat → List Text → Construct
  | .close region, i, [] => { c.close region i with resumeAt := i }
  | .continuation _ resume, _, [] => { c with resumeAt := resume }
  | .close region, i, line :: rest =>
    if isSkippable line then scanLines c (.close region) (i + 1) rest
    else
      let opener := Opener.read? line
      let c := c.noteTry i opener
      match closingOpener? region opener with
      | some o =>
        let c := c.close region i
        match region.kind.next? o.kind with
        | none => { c with resumeAt := i }
        | some kind =>
          let (c, search) := c.openRegion kind i line o.rest
          scanLines c search (i + 1) rest
      | none =>
        let braces := region.braces.past line
        if braces.isClosed then
          scanLines (c.close region i) (.continuation region.kind (i + 1)) (i + 1) rest
        else scanLines c (.close { region with braces }) (i + 1) rest
  | .continuation before resume, i, line :: rest =>
    if isSkippable line then scanLines c (.continuation before resume) (i + 1) rest
    else
      match (Opener.read? line).filter (·.closers = 0) with
      | none => { c with resumeAt := resume }
      | some o =>
        match before.next? o.kind with
        | none => { c with resumeAt := resume }
        | some kind =>
          let (c, search) := c.openRegion kind i line o.rest
          scanLines c search (i + 1) rest

/-- The construct whose `try` is on `line`, which is numbered `i` and followed by `rest`. -/
def scanFrom (i : Nat) (line : Text) (rest : List Text) : Construct :=
  let behind := ((Opener.read? line).map (·.rest)).getD []
  let (c, search) := (openedAt i).openRegion .tryBlock i line behind
  scanLines c search (i + 1) rest

/-- The construct whose `try` is on the line numbered `start`. Past the end of the lines it is empty. -/
def scan (lines : List Text) (start : Nat) : Construct :=
  match lines.drop start with
  | [] => { openedAt start with resumeAt := lines.length }
  | line :: rest => scanFrom start line rest

end Construct

/-! ## Bodies that are skipped -/

/-- The line after a body whose braces have been counted up to the line numbered `i`. A body that has
not been opened must open with a brace at the front of the next line that says something; otherwise
there is none. -/
def bodyEndFrom (d : BraceDepth) (i : Nat) : List Text → Nat
  | [] => i
  | line :: rest =>
    if isSkippable line then bodyEndFrom d (i + 1) rest
    else if !d.opened && line.trimStart.head? != some '\x7b' then i
    else if (d.past line).isClosed then i + 1
    else bodyEndFrom (d.past line) (i + 1) rest

/-- The line after the braced body that belongs to `header`, the line numbered `i`. Closing braces in
front of the header belong to the block around it. -/
def bodyEndAfter (i : Nat) (header : Text) (rest : List Text) : Nat :=
  let d := BraceDepth.start.past (header.dropWhile Opener.isLead)
  if d.isClosed then i + 1 else bodyEndFrom d (i + 1) rest

/-- The line after the braced body that belongs to the line numbered `start`. -/
def bodyEnd (lines : List Text) (start : Nat) : Nat :=
  match lines.drop start with
  | [] => lines.length
  | header :: rest => bodyEndAfter start header rest

end LineScript
