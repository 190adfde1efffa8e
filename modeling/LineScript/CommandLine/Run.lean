import LineScript.CommandLine.Options
import LineScript.Host.Files
import LineScript.Session.Run
import LineScript.Text.Utf8

/-!
Running a program file. The file must be there, have the right extension and be UTF-8, and is refused
for the first of these that fails. A run starts on an empty console at the front, in a fresh session, and
is framed by a banner and a summary.
-/

namespace LineScript.CommandLine

/-- The extension of program files. -/
def programExtension : Text := "ln".toList

/-- Whether a path has the extension of program files, in capitals or not. -/
def isProgramPath (path : Text) : Bool :=
  match Text.extension? path with
  | some e => Text.eqIgnoringCase e programExtension
  | none => false

/-- Why a file is not run. -/
inductive LoadFailure where
  | missing (path : Text)
  | wrongExtension (path : Text)
  | unreadable (path reason : Text)
deriving DecidableEq

/-- What is said of a file that is not run. -/
def LoadFailure.message : LoadFailure → Text
  | missing path => "file not found: ".toList ++ path
  | wrongExtension path => "not a GameLang file (expected .ln): ".toList ++ path
  | unreadable path reason => "cannot read ".toList ++ path ++ ": ".toList ++ reason

/-- What is wrong with a file that is not UTF-8. -/
def notTextReason : Text := "stream did not contain valid UTF-8".toList

/-- Reads the program in a file. -/
def load (files : Files) (o : RunOptions) (path : Text) : Except LoadFailure Text :=
  match files path with
  | .nothing => .error (.missing path)
  | found =>
    if !o.allowAnyExtension && !isProgramPath path then .error (.wrongExtension path)
    else
      match found with
      | .nothing => .error (.missing path)
      | .unreadable reason => .error (.unreadable path reason)
      | .file bytes =>
        match Text.ofBytes? bytes with
        | some source => .ok source
        | none => .error (.unreadable path notTextReason)

/-- The banner before a run. -/
def banner (path source : Text) : List Text := [
  "=== GameLang ===".toList,
  "file: ".toList ++ (Text.fileName? path).getD path,
  "path: ".toList ++ path,
  "lines: ".toList ++ Text.ofNat (Text.lines source).length]

/-- The summary after a run. -/
def summary (r : Report) : Text :=
  "=== finished: ".toList ++ Text.ofNat r.executed ++ " statements, ".toList ++
    Text.ofNat r.failures.length ++ " errors ===".toList

/-- Runs a program that has been read. -/
def runSource (o : RunOptions) (path source : Text) (h : Host) : Report × Host :=
  let h := { h with console := h.console.clear.bringToFront }
  let h := if o.showBanner then h.writeAll (banner path source) else h
  let (report, s) := (Session.start Catalogue.modules h).execute source
  (report, if o.showBanner then s.host.write (summary report) else s.host)

/-- Runs a program file. -/
def runFile (files : Files) (o : RunOptions) (path : Text) (h : Host) :
    Except LoadFailure Report × Host :=
  match load files o path with
  | .error e => (.error e, h)
  | .ok source =>
    let (report, h) := runSource o path source h
    (.ok report, h)

end LineScript.CommandLine
