import LineScript.Text.Basic

/-!
The arguments of a run: options, and the path of the program. Options may stand anywhere; the first
argument that does not look like an option is the path, and everything else is ignored.
-/

namespace LineScript.CommandLine

/-- How a program is run. -/
structure RunOptions where
  /-- Print what is run before it, and what came of it after. -/
  showBanner : Bool
  /-- Run files of every extension. -/
  allowAnyExtension : Bool
deriving DecidableEq

/-- A banner, and only files with the extension of programs. -/
def RunOptions.standard : RunOptions := ⟨true, false⟩

/-- The arguments of a run. -/
structure RunArguments where
  options : RunOptions
  path : Option Text
deriving DecidableEq

namespace RunArguments

/-- Takes one more argument into account. -/
def take (a : RunArguments) (arg : Text) : RunArguments :=
  if arg = "--no-banner".toList || arg = "-q".toList then
    { a with options := { a.options with showBanner := false } }
  else if arg = "--any-ext".toList then
    { a with options := { a.options with allowAnyExtension := true } }
  else if arg.head? = some '-' then a
  else { a with path := a.path.or (some arg) }

/-- Reads the arguments of a run. -/
def read (args : List Text) : RunArguments := args.foldl take ⟨.standard, none⟩

end RunArguments

end LineScript.CommandLine
