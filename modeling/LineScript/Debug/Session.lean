import LineScript.Debug.Message
import LineScript.Debug.Request
import LineScript.Expression.Basic
import LineScript.Host.Basic

/-!
Debug sessions. A session answers every request with one response, behind which go the events that are
queued by then. The program is never run: stepping pushes frames with made-up lines onto a call stack
and pops them, and expressions are evaluated over the variables of a runtime of which the session itself
has set one.
-/

namespace LineScript.Debug

/-- Where a session is. -/
inductive Phase where
  | uninitialized
  | initialized
  | launched
  | running
  | stepping
  | terminated
deriving DecidableEq

/-- The program that is being debugged. -/
structure Runtime where
  program : Text
  vars : Variables
  /-- The call stack, newest frame first. -/
  stack : List StackFrame
  running : Bool

namespace Runtime

/-- A runtime at the start of its program. -/
def start (program : Text) : Runtime :=
  ⟨program, [("__name__".toList, .str "__main__".toList)], [], false⟩

/-- The runtime with one more frame. -/
def push (r : Runtime) (name : Text) (line : Int) : Runtime :=
  { r with stack := ⟨name, r.program, line⟩ :: r.stack }

/-- The runtime without its newest frame, if it has one. -/
def pop (r : Runtime) : Runtime := { r with stack := r.stack.tail }

end Runtime

/-- The requests that a session knows. -/
inductive Command where
  | initializeSession | launch | setBreakpoints | configurationDone | threads | stackTrace | scopes
  | listVariables | resume | next | stepIn | stepOut | evaluate | completions | restart | terminate
  | disconnect
deriving DecidableEq

/-- The names of the commands. -/
def Command.names : List (Text × Command) := [
  ("initialize".toList, .initializeSession), ("launch".toList, .launch),
  ("setBreakpoints".toList, .setBreakpoints), ("configurationDone".toList, .configurationDone),
  ("threads".toList, .threads), ("stackTrace".toList, .stackTrace), ("scopes".toList, .scopes),
  ("variables".toList, .listVariables), ("continue".toList, .resume), ("next".toList, .next),
  ("stepIn".toList, .stepIn), ("stepOut".toList, .stepOut), ("evaluate".toList, .evaluate),
  ("completions".toList, .completions), ("restart".toList, .restart),
  ("terminate".toList, .terminate), ("disconnect".toList, .disconnect)]

/-- The command of a name. -/
def Command.ofName? (name : Text) : Option Command := Entries.get? name Command.names

/-- A session with a client. -/
structure DebugSession where
  phase : Phase
  runtime : Option Runtime
  /-- The breakpoints of each source path. -/
  breakpoints : Entries (List Breakpoint)
  /-- The number of the next message to the client. -/
  nextSeq : Int
  /-- Where the lines of new frames are drawn from. -/
  chance : Chance
  /-- The events that are to go to the client, oldest first. -/
  pending : List EventKind
  finished : Bool

/-- What a request comes to before anything is sent: the body of its response, and the session. -/
structure Handled where
  body : Body
  session : DebugSession

namespace DebugSession

/-- A session at its start. -/
def start (chance : Chance) : DebugSession := ⟨.uninitialized, none, [], 1, chance, [], false⟩

/-- Puts an event behind those that are to go to the client. -/
def queue (s : DebugSession) (kind : EventKind) : DebugSession :=
  { s with pending := s.pending ++ [kind] }

/-- An answer. -/
def answer (s : DebugSession) (body : Body) : Handled := ⟨body, s⟩

/-- A failure, which leaves the session as it is. -/
def fail (s : DebugSession) (f : RequestFailure) : Handled := s.answer (.failure f)

/-- Answers by the arguments of a request. -/
def withArguments {α : Type} (s : DebugSession) (r : Request) (read : Json → Except ArgumentError α)
    (handle : α → Handled) : Handled :=
  match read r.given with
  | .ok a => handle a
  | .error e => s.fail (.invalidArguments r.command e)

/-- Starts a program from the beginning. -/
def load (s : DebugSession) (program : Text) : DebugSession :=
  { s with runtime := some (.start program), phase := .launched }

/-- Launches a program. -/
def launch (s : DebugSession) (a : LaunchArguments) : Handled :=
  match a.program with
  | none => s.fail .programNotSpecified
  | some [] => s.fail .programNotSpecified
  | some program => ((s.load program).queue .initialized).answer .empty

/-- Replaces the breakpoints of a source. Each is verified at its line. -/
def setBreakpoints (s : DebugSession) (r : Request) (a : BreakpointArguments) : Handled :=
  match a.source.path with
  | none => s.fail (.invalidArguments r.command .pathRequired)
  | some path =>
    let lines := a.breakpoints.map (·.line)
    { s with breakpoints := s.breakpoints.insert path a.breakpoints }.answer (.breakpoints lines)

/-- Lists the variables of a scope. -/
def listVariables (s : DebugSession) (a : VariablesArguments) : Handled :=
  let vars : Variables := (s.runtime.map (·.vars)).getD []
  s.answer (.variableList
    (if a.reference = localScope then vars.locals
      else if a.reference = globalScope then vars.globals
      else []))

/-- Answers by the runtime, which must be there. -/
def withRuntime (s : DebugSession) (handle : Runtime → Handled) : Handled :=
  match s.runtime with
  | some r => handle r
  | none => s.fail .runtimeNotInitialized

/-- Changes the runtime and goes to a phase; without a runtime nothing changes. -/
def advance (s : DebugSession) (phase : Phase) (change : Runtime → Runtime) : DebugSession :=
  match s.runtime with
  | some r => { s with runtime := some (change r), phase }
  | none => s

/-- Pushes a frame on a line from 1 to 100. -/
def step (s : DebugSession) (name : String) : DebugSession :=
  match s.runtime with
  | some _ =>
    let (line, chance) := s.chance.between 1 100
    { s with chance }.advance .stepping (·.push name.toList line)
  | none => s

/-- Stops the program. -/
def stop (s : DebugSession) : DebugSession :=
  { s with runtime := s.runtime.map fun r => { r with running := false }, phase := .terminated }

/-- Handles a request of a known command. -/
def dispatch (s : DebugSession) (r : Request) : Command → Handled
  | .initializeSession => { s with phase := .initialized }.answer .capabilities
  | .launch => s.withArguments r LaunchArguments.read s.launch
  | .setBreakpoints => s.withArguments r BreakpointArguments.read (s.setBreakpoints r)
  | .configurationDone => s.answer .empty
  | .threads => s.answer .threads
  | .stackTrace => s.withRuntime fun runtime => s.answer (.stackTrace runtime.stack)
  | .scopes => s.answer .scopes
  | .listVariables => s.withArguments r VariablesArguments.read s.listVariables
  | .resume => (s.advance .running ({ · with running := true })).answer .empty
  | .next => (s.step "step_over").answer .empty
  | .stepIn => (s.step "step_into").answer .empty
  | .stepOut => (s.advance .stepping Runtime.pop).answer .empty
  | .evaluate =>
    s.withArguments r EvaluateArguments.read fun a =>
      s.withRuntime fun runtime =>
        s.answer (.evaluation (LineScript.evaluate a.expression runtime.vars))
  | .completions =>
    s.withArguments r CompletionArguments.read fun a =>
      s.answer (.completions (Completion.complete a.text a.column
        ((s.runtime.map (·.vars)).getD [])))
  | .restart => s.withRuntime fun runtime => (s.load runtime.program).answer .empty
  | .terminate => (s.stop.queue .terminated).answer .empty
  | .disconnect => { s.stop with finished := true }.answer .empty

/-- The events as messages, numbered on from `seq`. -/
def eventMessages (seq : Int) : List EventKind → List Message
  | [] => []
  | kind :: rest => .event seq kind :: eventMessages (seq + 1) rest

/-- What a request comes to, whether its command is known or not. -/
def handled (s : DebugSession) (r : Request) : Handled :=
  match Command.ofName? r.command with
  | some command => s.dispatch r command
  | none => s.fail (.unrecognized r.command)

/-- Takes the number of the next message. -/
def takeSeq (s : DebugSession) : Int × DebugSession :=
  (s.nextSeq, { s with nextSeq := s.nextSeq + 1 })

/-- Takes the queued events out, as messages. -/
def drain (s : DebugSession) : List Message × DebugSession :=
  (eventMessages s.nextSeq s.pending,
    { s with nextSeq := s.nextSeq + s.pending.length, pending := [] })

/-- Handles a request: the messages to the client, and the session after it. -/
def handle (s : DebugSession) (r : Request) : List Message × DebugSession :=
  let h := s.handled r
  let (seq, s) := h.session.takeSeq
  let (events, s) := s.drain
  (.response seq r.seq r.command h.body :: events, s)

/-- The breakpoints of a source path. -/
def breakpointsAt (s : DebugSession) (path : Text) : List Breakpoint :=
  (s.breakpoints.get? path).getD []

end DebugSession

end LineScript.Debug
