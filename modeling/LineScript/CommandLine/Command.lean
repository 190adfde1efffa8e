import LineScript.CommandLine.Run

/-!
Commands. The first argument names the command; a path of a program file stands for running it. All
commands but serving a debug client are tasks on a console.
-/

namespace LineScript.CommandLine

/-- A task on the console. -/
inductive Task where
  | usage
  | unknown (name : Text)
  | version
  | run (options : RunOptions) (path : Text)
  | runNothing
  | search (term : Text)
  | searchNothing
deriving DecidableEq

/-- What the program is asked to do. -/
inductive Command where
  /-- Serve a debug client. -/
  | serve
  | console (task : Task)
deriving DecidableEq

namespace Command

/-- A run with its arguments. -/
def readRun (args : List Text) : Command :=
  let a := RunArguments.read args
  match a.path with
  | some path => .console (.run a.options path)
  | none => .console .runNothing

/-- A search; its arguments make up one term. -/
def readSearch : List Text → Command
  | [] => .console .searchNothing
  | args => .console (.search (Text.joinWith [' '] args))

/-- Reads the arguments of the program. -/
def read : List Text → Command
  | [] => .console .usage
  | name :: args =>
    if name = "run".toList then readRun args
    else if name = "dap".toList then .serve
    else if name = "search".toList then readSearch args
    else if ["help".toList, "--help".toList, "-h".toList].contains name then .console .usage
    else if ["version".toList, "--version".toList, "-V".toList].contains name then .console .version
    else if isProgramPath name then .console (.run (RunArguments.read args).options name)
    else .console (.unknown name)

end Command

/-- How to use the program. -/
def usage : List Text := [
  "GameLang interpreter and debug adapter",
  "",
  "Usage: gamelang <command> [options]",
  "",
  "Commands:",
  "  run <file.ln>        Run a GameLang script",
  "  <file.ln>            Shorthand for `run <file.ln>`",
  "  dap                  Serve the Debug Adapter Protocol on stdin/stdout",
  "  search <term>        Search builtins by name, alias or keyword",
  "  help                 Show this help message",
  "  version              Show version information",
  "",
  "Run options:",
  "  --no-banner, -q     Do not print the file banner and summary",
  "  --any-ext           Accept files without the .ln extension",
  "",
  "Set RUST_LOG (e.g. RUST_LOG=gamelang_eval=debug) for diagnostics on stderr."].map String.toList

/-- What the program says of its version. -/
def versionLine : Text := "GameLang 0.1.0-alpha.1".toList

/-- What has come of a task: the exit code, the console, and the lines for the error output. -/
structure TaskResult where
  code : Nat
  console : Console
  errors : List Text

namespace Task

/-- Does a task. -/
def perform (files : Files) (h : Host) : Task → TaskResult
  | usage => ⟨0, (h.writeAll CommandLine.usage).console, []⟩
  | unknown name =>
    ⟨1, (h.writeAll CommandLine.usage).console, ["Unknown command: ".toList ++ name, []]⟩
  | version => ⟨0, (h.write versionLine).console, []⟩
  | run options path =>
    match runFile files options path h with
    | (.ok _, h) => ⟨0, h.console, []⟩
    | (.error e, h) => ⟨1, h.console, ["error: ".toList ++ e.message]⟩
  | runNothing =>
    ⟨1, h.console, ["error: missing file path".toList,
      "Usage: gamelang run <file.ln> [--no-banner] [--any-ext]".toList]⟩
  | search term =>
    let r := Catalogue.fullRegistry
    ⟨if (r.search term).isEmpty then 1 else 0, (h.writeAll (r.report term)).console, []⟩
  | searchNothing =>
    ⟨1, h.console, ["Usage: gamelang search <term>".toList,
      "Example: gamelang search random".toList]⟩

end Task

end LineScript.CommandLine
