import LineScript.CommandLine.Command
import LineScript.Debug.Serve

/-!
A whole invocation of the program on an input that is known beforehand: what it writes, what it reports
as an error, and the code it exits with. Prompts are answered by the lines of the input.
-/

namespace LineScript.CommandLine

/-- The lines of bytes, without the line feeds that end them. A last line feed starts no further line. -/
def byteLines : List UInt8 → List (List UInt8)
  | [] => []
  | b :: rest =>
    if b = 10 then [] :: byteLines rest
    else
      match byteLines rest with
      | [] => [[b]]
      | line :: lines => (b :: line) :: lines

/-- The answer that a line gives to a prompt, without any line ends. A line that is not UTF-8 cancels the
prompt. -/
def answerOf (line : List UInt8) : Option Text :=
  (Text.ofBytes? line).map (Text.dropEndWhile fun c => c == '\r' || c == '\n')

/-- The answers that an input gives to prompts. -/
def answers (input : List UInt8) : List (Option Text) := (byteLines input).map answerOf

/-- What an invocation of the program comes to. -/
structure Invocation where
  code : Nat
  output : List UInt8
  errors : List Text

namespace Invocation

/-- The error output. -/
def errorText (i : Invocation) : Text := i.errors.flatMap (· ++ ['\n'])

/-- What is said of an error that ended the serving of a debug client. -/
def stoppedLine (e : Debug.FrameError) : Text :=
  "error: debug adapter stopped: ".toList ++ e.message

/-- Serving a debug client. -/
def ofServed (s : Debug.DebugSession.Served) : Invocation :=
  match s.error with
  | none => ⟨0, s.output, []⟩
  | some e => ⟨1, s.output, [stoppedLine e]⟩

/-- A task on the console. -/
def ofTask (r : TaskResult) : Invocation := ⟨r.code, Text.toBytes r.console.transcript, r.errors⟩

/-- Invokes the program. -/
def run (files : Files) (input : List UInt8) (chance : Chance) (clock : Nat → Elapsed → Text)
    (args : List Text) : Invocation :=
  match Command.read args with
  | .serve => ofServed ((Debug.DebugSession.start chance).serve input)
  | .console task =>
    ofTask (task.perform files ⟨.withAnswers (answers input), chance, clock, 0⟩)

end Invocation

end LineScript.CommandLine
