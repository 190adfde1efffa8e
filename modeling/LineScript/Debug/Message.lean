import LineScript.Debug.Arguments
import LineScript.Debug.Completion

/-!
Messages to a debug client: the response to a request, and events. A response carries a body, also when
it tells of a failure; the bodies' JSON is the one that debug clients expect.
-/

namespace LineScript.Debug

/-- Why a request failed. -/
inductive RequestFailure where
  | unrecognized (command : Text)
  | programNotSpecified
  | runtimeNotInitialized
  | invalidArguments (command : Text) (reason : ArgumentError)

namespace RequestFailure

/-- The number of a kind of failure. -/
def code : RequestFailure → Int
  | unrecognized _ => 1014
  | programNotSpecified => 3000
  | runtimeNotInitialized => 3001
  | invalidArguments .. => 3002

/-- What a client is told of a failure. -/
def message : RequestFailure → Text
  | unrecognized command => "Unrecognized command: ".toList ++ command
  | programNotSpecified => "Program not specified".toList
  | runtimeNotInitialized => "Runtime not initialized".toList
  | invalidArguments command reason =>
    "Invalid arguments for ".toList ++ command ++ ": ".toList ++ reason.message

end RequestFailure

/-- A frame of the call stack. -/
structure StackFrame where
  name : Text
  file : Text
  /-- The line, counted from 1. -/
  line : Int
deriving DecidableEq

/-- The body of a response. -/
inductive Body where
  | empty
  | capabilities
  | breakpoints (lines : List Int)
  | threads
  /-- Frames, newest first. -/
  | stackTrace (frames : List StackFrame)
  | scopes
  | variableList (vars : Variables)
  | evaluation (v : Value)
  | completions (items : List Completion)
  | failure (f : RequestFailure)

/-- The events. -/
inductive EventKind where
  | initialized
  | terminated
deriving DecidableEq

/-- The name of an event. -/
def EventKind.name : EventKind → Text
  | initialized => "initialized".toList
  | terminated => "terminated".toList

/-- A message to a client. -/
inductive Message where
  | response (seq requestSeq : Int) (command : Text) (body : Body)
  | event (seq : Int) (kind : EventKind)

/-! ## JSON -/

/-- A string of the protocol. -/
def word (s : String) : Json := .str s.toList

/-- The capabilities of the adapter, each with whether it has it. -/
def capabilities : List (String × Bool) := [
  ("supportsConfigurationDoneRequest", true),
  ("supportsEvaluateForHovers", true),
  ("supportsSetVariable", true),
  ("supportsRestartRequest", true),
  ("supportsStepBack", false),
  ("supportsDataBreakpoints", false),
  ("supportsCompletionsRequest", true),
  ("supportsCancelRequest", true),
  ("supportsBreakpointLocationsRequest", true),
  ("supportsStepInTargetsRequest", false),
  ("supportsExceptionFilterOptions", false),
  ("supportsExceptionInfoRequest", false),
  ("supportsValueFormattingOptions", false),
  ("supportsExceptionOptions", false),
  ("supportsFunctionBreakpoints", false),
  ("supportsDelayedStackTraceLoading", false),
  ("supportsLoadedSourcesRequest", false),
  ("supportsLogPoints", false),
  ("supportsTerminateThreadsRequest", false),
  ("supportsSetExpression", false),
  ("supportsTerminateRequest", true),
  ("supportsModulesRequest", false),
  ("supportsConditionalBreakpoints", true),
  ("supportsHitConditionalBreakpoints", false),
  ("supportsReadMemoryRequest", false),
  ("supportsWriteMemoryRequest", false),
  ("supportsDisassembleRequest", false),
  ("supportsSteppingGranularity", false),
  ("supportsInstructionBreakpoints", false),
  ("supportsExceptionBreakpointFilters", false),
  ("supportsSingleThreadExecutionRequests", false)]

/-- The reference under which the variables that are not globals are listed. -/
def localScope : Int := 1

/-- The reference under which the globals are listed. -/
def globalScope : Int := 2

/-- A scope as JSON. -/
def scopeJson (name : String) (reference : Int) : Json :=
  .record [("name", word name), ("variablesReference", .int reference), ("expensive", .bool false)]

/-- A frame as JSON, with its place in the stack. -/
def frameJson (id : Nat) (f : StackFrame) : Json :=
  .record [
    ("id", .int id),
    ("name", .str f.name),
    ("source", .record [("name", .str f.file), ("path", .str f.file)]),
    ("line", .int f.line),
    ("column", .int 0)]

/-- A variable as JSON. -/
def variableJson (name : Text) (v : Value) : Json :=
  .record [
    ("name", .str name),
    ("value", .str v.display),
    ("type", .str v.kind.name),
    ("variablesReference", .int 0)]

/-- The name of a kind of completion. -/
def CompletionKind.json : CompletionKind → Json
  | keyword => word "keyword"
  | function => word "function"
  | boundName => word "variable"

/-- A body as JSON. -/
def Body.json : Body → Json
  | empty => .record []
  | capabilities => .record (Debug.capabilities.map fun (name, has) => (name, .bool has))
  | breakpoints lines =>
    .record [("breakpoints", .arr (lines.map fun line =>
      .record [("verified", .bool true), ("line", .int line)]))]
  | threads =>
    .record [("threads", .arr [.record [("id", .int 1), ("name", word "GameLang Thread")]])]
  | stackTrace frames =>
    .record [
      ("stackFrames", .arr (frames.zipIdx.map fun (f, id) => frameJson id f)),
      ("totalFrames", .int frames.length)]
  | scopes =>
    .record [("scopes", .arr [scopeJson "Local" localScope, scopeJson "Global" globalScope])]
  | variableList vars =>
    .record [("variables", .arr (vars.map fun (name, v) => variableJson name v))]
  | evaluation v =>
    .record [
      ("result", .str v.display),
      ("type", .str v.kind.name),
      ("variablesReference", .int 0)]
  | completions items =>
    .record [("targets", .arr (items.map fun item =>
      .record [("label", .str item.label), ("type", item.kind.json)]))]
  | failure f =>
    .record [("error", .record [("id", .int f.code), ("format", .str f.message)])]

/-- The message of a body that tells of a failure. -/
def Body.failureMessage? : Body → Option Text
  | failure f => some f.message
  | _ => none

/-- A message as JSON. -/
def Message.json : Message → Json
  | response seq requestSeq command body =>
    .record ([
      ("type", word "response"),
      ("seq", .int seq),
      ("request_seq", .int requestSeq),
      ("success", .bool body.failureMessage?.isNone),
      ("command", .str command)] ++
      (body.failureMessage?.map fun t => ("message", Json.str t)).toList ++
      [("body", body.json)])
  | event seq kind =>
    .record [("type", word "event"), ("seq", .int seq), ("event", .str kind.name)]

end LineScript.Debug
