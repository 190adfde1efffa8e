import LineScript.Builtin.Catalogue
import LineScript.Variables

/-!
Completions of the word before a cursor: the language's keywords, the names of the core functions, and
the variables, as far as they begin with that word.
-/

namespace LineScript.Debug

open Unicode

/-- What a completion completes to. -/
inductive CompletionKind where
  | keyword
  | function
  | boundName
deriving DecidableEq

/-- A completion. -/
structure Completion where
  label : Text
  kind : CompletionKind
deriving DecidableEq

namespace Completion

/-- The keywords that are offered, in this order. -/
def keywords : List Text := [
  "fn".toList, "class".toList, "if".toList, "elif".toList, "else".toList, "while".toList,
  "for".toList, "return".toList, "var".toList, "import".toList, "use".toList]

/-- The text before a cursor. Columns count characters from 1; a column that is absent, beyond the end or
less than 1 means the end. -/
def beforeCursor (t : Text) (column : Option Int) : Text :=
  match column with
  | some c => if 1 ≤ c then t.take (c - 1).toNat else t
  | none => t

/-- The longest word at the end of a text. -/
def lastWord (t : Text) : Text := (t.reverse.takeWhile isWordChar).reverse

/-- Everything that can be offered, in order. -/
def candidates (vars : Variables) : List Completion :=
  keywords.map (⟨·, .keyword⟩) ++ Catalogue.coreRegistry.names.map (⟨·, .function⟩) ++
    vars.keys.map (⟨·, .boundName⟩)

/-- The completions of the word before a cursor. -/
def complete (t : Text) (column : Option Int) (vars : Variables) : List Completion :=
  let word := lastWord (beforeCursor t column)
  (candidates vars).filter fun c => word.isPrefixOf c.label

end Completion

end LineScript.Debug
