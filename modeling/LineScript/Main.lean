import LineScript.CommandLine.Conversation
import LineScript.CommandLine.Invocation
import Std.Time.Zoned

/-!
The program on a terminal. Here are only reading and writing, waiting, the time and the seed of chance;
what is to be read, written and waited for is said by `Task.turn` and `DebugSession.serveFrames`.
-/

namespace LineScript.Terminal

open CommandLine Std.Time

/-- What is found under a path on the disk. -/
def findOnDisk (path : Text) : IO Found := do
  try
    let bytes ← IO.FS.readBinFile (String.ofList path)
    return .file bytes.toList
  catch
    | .permissionDenied _ code details =>
      return .unreadable (details ++ " (os error " ++ toString code ++ ")").toList
    | .noFileOrDirectory .. | .inappropriateType .. | .invalidArgument .. => return .nothing
    | e => return .unreadable e.toString.toList

/-- The files that a task can need, which is one at most. -/
def filesFor : Task → IO Files
  | .run _ path => do
    let found ← findOnDisk path
    return fun p => if p = path then found else .nothing
  | _ => return fun _ => .nothing

/-- A number with a least count of digits. -/
def padded (width : Nat) (n : Int) : Text :=
  let digits := Text.ofNat n.toNat
  List.replicate (width - digits.length) '0' ++ digits

/-- A time in words. -/
def timeText (t : PlainDateTime) : Text :=
  padded 4 t.year.toInt ++ ['-'] ++ padded 2 t.month.val ++ ['-'] ++ padded 2 t.day.val ++ [' '] ++
    padded 2 t.hour.val ++ [':'] ++ padded 2 t.minute.val ++ [':'] ++ padded 2 t.second.val

/-- A clock. `starts` holds, for each count of answered prompts, the time at which all would have started
if only pauses took time. -/
def clockOf (starts : Array PlainDateTime) (gone : Elapsed) : Text :=
  match starts[gone.prompts]?.or starts.back? with
  | some t => timeText (t.addNanoseconds (.ofNat gone.paused))
  | none => []

/-- Waits. -/
def wait (nanoseconds : Nat) : IO Unit := do
  let day := 24 * 60 * 60 * 1000
  let milliseconds := nanoseconds / 1000000
  for _ in [0:milliseconds / day] do IO.sleep day.toUInt32
  IO.sleep (milliseconds % day).toUInt32

/-- Lets an event happen on the terminal. -/
def present (e : ConsoleEvent) : IO Unit := do
  let out ← IO.getStdout
  match e with
  | .pause n => wait n
  | e => out.putStr (String.ofList (Console.shownText e))
  out.flush

/-- Reports errors. -/
def report (lines : List Text) : IO Unit := lines.forM fun t => IO.eprintln (String.ofList t)

/-- Reads the bytes up to a line feed, which is dropped; `none` at the end of the input. -/
partial def readLine (input : IO.FS.Stream) (line : List UInt8) : IO (Option (List UInt8)) := do
  let bytes ← input.read 1
  match bytes.toList with
  | [] => return if line.isEmpty then none else some line.reverse
  | b :: _ => if b = 10 then return some line.reverse else readLine input (b :: line)

/-- Does a task on the terminal, from the turn after the given answers. -/
partial def converse (task : Task) (files : Files) (chance : Chance) (starts : Array PlainDateTime)
    (answers : List (Option Text)) (shown : Nat) : IO UInt32 := do
  let turn := task.turn files chance (fun _ => clockOf starts) answers
  (turn.log.drop shown).forM present
  if turn.waiting then
    let line ← readLine (← IO.getStdin) []
    let now ← PlainDateTime.now
    let start := now.subNanoseconds (.ofNat (pausedIn turn.log))
    converse task files chance (starts.push start) (answers ++ [line.bind answerOf]) turn.log.length
  else
    report turn.result.errors
    return turn.result.code.toUInt32

/-- Handles what a frame reader has come to, and goes on if serving does. -/
def deliver (session : Debug.DebugSession) (frame : Debug.FrameResult)
    (goOn : Debug.DebugSession → IO UInt32) : IO UInt32 := do
  let served := session.serveFrames [frame]
  let i := Invocation.ofServed served
  let out ← IO.getStdout
  out.write i.output.toByteArray
  out.flush
  report i.errors
  if served.error.isSome || served.session.finished then return i.code.toUInt32
  goOn served.session

/-- Serves a debug client on the terminal. -/
partial def serve (reader : Debug.FrameReader) (session : Debug.DebugSession) : IO UInt32 := do
  let bytes ← (← IO.getStdin).read 1
  match bytes.toList with
  | [] =>
    match reader.finish with
    | none => return 0
    | some frame => deliver session frame fun _ => return 0
  | b :: _ =>
    match reader.step b with
    | (reader, none) => serve reader session
    | (reader, some frame) => deliver session frame (serve reader)

/-- Runs the program. -/
def run (args : List Text) : IO UInt32 := do
  let seed ← IO.rand 0 0xFFFFFFFFFFFFFFFF
  match Command.read args with
  | .serve => serve .start (.start (.ofSeed seed))
  | .console task =>
    converse task (← filesFor task) (.ofSeed seed) #[← PlainDateTime.now] [] 0

end LineScript.Terminal

/-- The program: its arguments are a command and what belongs to it. -/
def main (args : List String) : IO UInt32 := LineScript.Terminal.run (args.map String.toList)
