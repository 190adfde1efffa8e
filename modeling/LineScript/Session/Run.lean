import LineScript.Program
import LineScript.Session.Basic

/-!
Running programs. A failure inside a try construct goes to the construct's handler; everywhere else it
is reported and the program goes on with its next step. A run ends in a report: how many statements
were run, and the failures that were reported.
-/

namespace LineScript

/-- The variables that hold the message of the error while a handler runs. -/
def errorVariables : List Text := ["error".toList, "错误".toList]

/-- What a run has come to. -/
structure Report where
  /-- The number of statements that were run. -/
  executed : Nat
  /-- The reported failures in order. -/
  failures : List LineFailure

/-- A session in the middle of a run. -/
structure Run where
  session : Session
  report : Report

namespace Session

/-- Imports a module and says so, or warns that there is none of this name. -/
def importModule (s : Session) (name : Text) : Session :=
  match s.modules.get? name with
  | none => s.write ("[warn] module not found: ".toList ++ name)
  | some m =>
    let imported := if s.imported.contains m.name then s.imported else s.imported ++ [m.name]
    { s with registry := s.registry.merge m, imported }.write
      ("[import] ".toList ++ m.name ++ " (".toList ++ Text.ofNat m.entries.length ++
        " functions)".toList)

/-- Assigns the value of an expression to a variable. -/
def runAssignment (s : Session) (name expression : Text) : Option Failure × Session :=
  match s.eval expression with
  | (.error failure, s) => (some failure, s)
  | (.ok v, s) =>
    (none, (s.write ("[var] ".toList ++ name ++ " = ".toList ++ v.display)).assign name v)

/-- The trace line of a call. -/
def callTrace (name : Text) (args : Arguments) (result : Value) : Text :=
  "[call] ".toList ++ name ++ ['('] ++ Text.joinWith Value.separator args.texts ++
    ") = ".toList ++ result.display

/-- Makes a call as a statement. The arguments are evaluated before the name is looked up. -/
def runCall (s : Session) (name args : Text) : Option Failure × Session :=
  let operands := Operand.readAll args
  match s.evalOperands operands with
  | (.error failure, s) => (some failure, s)
  | (.ok args, s) =>
    match s.registry.lookup? name with
    | none => (none, s.write ("[warn] undefined function: ".toList ++ name))
    | some e =>
      match s.invoke e name (operands.head?.map Operand.source) args with
      | (.error failure, s) => (some failure, s)
      | (.ok v, s) =>
        (none, if e.echo = .traced then s.write (callTrace name args v) else s)

/-- Evaluates an expression as a statement, and shows its value unless it is empty. -/
def runExpression (s : Session) (t : Text) : Option Failure × Session :=
  match s.eval t with
  | (.error failure, s) => (some failure, s)
  | (.ok v, s) => (none, if v.isEmpty then s else s.write ("[eval] ".toList ++ v.display))

/-- The keyword that the warning about a region without a try shows. -/
def orphanWord : BlockKind → Text
  | .tryBlock => "try".toList
  | .catchBlock => "catch".toList
  | .finallyBlock => "finally".toList

/-- Runs one statement. A try that is not a step of its own is one inside another. -/
def runItem (s : Session) (i : Item) : Option Failure × Session :=
  match i.statement with
  | .structural => (none, s)
  | .importModule name => (none, s.importModule name)
  | .declaration keyword signature =>
    (none, s.write ("[decl] ".toList ++ keyword ++ [' '] ++ signature))
  | .orphan kind =>
    (none, s.write ("[warn] line ".toList ++ Text.ofNat i.line ++ ": ".toList ++ orphanWord kind ++
      " without try".toList))
  | .assignment name expression => s.runAssignment name expression
  | .call name args => s.runCall name args
  | .expression t => s.runExpression t
  | .tryOpener => (some (.nestedTry i.line), s)

/-- Binds the message of a failure for a handler. -/
def bindError (s : Session) (failure : Failure) (binding : Option Text) : Session :=
  (errorVariables ++ binding.toList).foldl (fun s name => s.assign name (.str failure.message)) s

end Session

/-- Whether a statement counts as run. Structural lines do not, nor do lines whose bodies are stepped
over. -/
def Statement.counts : Statement → Bool
  | .structural => false
  | .declaration .. => false
  | .orphan _ => false
  | _ => true

namespace Run

/-- Counts a statement as run. -/
def count (r : Run) : Run :=
  { r with report := { r.report with executed := r.report.executed + 1 } }

/-- Shows a failure and takes it into the report. -/
def reportFailure (r : Run) (e : LineFailure) : Run :=
  { session := r.session.write ("[error] ".toList ++ e.message)
    report := { r.report with failures := r.report.failures ++ [e] } }

/-- Runs one statement. -/
def runItem (r : Run) (i : Item) : Option LineFailure × Run :=
  let r := if i.statement.counts then r.count else r
  let (failure, session) := r.session.runItem i
  (failure.map (⟨i.line, ·⟩), { r with session })

/-- Runs the statements of a region up to the first failure. -/
def runItems (r : Run) : List Item → Option LineFailure × Run
  | [] => (none, r)
  | i :: rest =>
    match r.runItem i with
    | (some e, r) => (some e, r)
    | (none, r) => r.runItems rest

/-- Runs the handler of a construct, if there is one, after a failure of its body. -/
def runHandler (r : Run) (a : Attempt) (e : LineFailure) : Option LineFailure × Run :=
  match a.handler with
  | none => (some e, r)
  | some items =>
    { r with session := r.session.bindError e.failure a.binding }.runItems items

/-- Runs the body of a construct and, if it fails, the handler. -/
def runBody (r : Run) (a : Attempt) : Option LineFailure × Run :=
  match r.runItems a.body with
  | (none, r) => (none, r)
  | (some e, r) => r.runHandler a e

/-- Runs a construct. Its cleanup runs last, whatever was before; its own failure replaces the one that
is still to be reported. A construct with another inside is not run at all. -/
def runAttempt (r : Run) (a : Attempt) : Option LineFailure × Run :=
  let r := r.count
  match a.nestedTry with
  | some line => (some ⟨line, .nestedTry line⟩, r)
  | none =>
    let (pending, r) := r.runBody a
    match a.cleanup with
    | none => (pending, r)
    | some items =>
      match r.runItems items with
      | (some e, r) => (some e, r)
      | (none, r) => (pending, r)

/-- Runs a step and reports the failure it ends in. -/
def runStep (r : Run) (step : Step) : Run :=
  let (failure, r) :=
    match step with
    | .item i => r.runItem i
    | .attempt a => r.runAttempt a
  match failure with
  | some e => r.reportFailure e
  | none => r

/-- Runs steps in turn. -/
def runSteps (r : Run) (steps : List Step) : Run := steps.foldl runStep r

end Run

namespace Session

/-- Runs a source text. -/
def execute (s : Session) (source : Text) : Report × Session :=
  let r := Run.runSteps ⟨s, ⟨0, []⟩⟩ (Program.read (Text.lines source))
  (r.report, r.session)

end Session

end LineScript
