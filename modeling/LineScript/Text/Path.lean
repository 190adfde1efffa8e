import LineScript.Text.Basic

/-!
Paths as texts. The components of a path lie between slashes; an empty component and a single dot say
nothing. The file name is the last component, and its extension is what stands behind the last dot, if
something stands before that dot.
-/

namespace LineScript.Text

/-- The component that stands for the directory itself. -/
def sameDirectory : Text := ['.']

/-- The component that stands for the directory above. -/
def parentDirectory : Text := ['.', '.']

/-- The components of a path that say something. -/
def pathComponents (path : Text) : List Text :=
  (pieces (· == '/') path).filter fun c => !c.isEmpty && c != sameDirectory

/-- The last component of a path, unless it stands for the directory above. -/
def fileName? (path : Text) : Option Text :=
  (pathComponents path).getLast?.filter (· != parentDirectory)

/-- What stands behind the last dot of the file name. A name that only starts with a dot has no
extension; one that ends with a dot has an empty one. -/
def extension? (path : Text) : Option Text :=
  match (fileName? path).bind fun name => cutAt? (· == '.') name.reverse with
  | some (extension, stem) => if stem.isEmpty then none else some extension.reverse
  | none => none

/-- Whether two texts are equal but for the case of ASCII letters. -/
def eqIgnoringCase (s t : Text) : Bool := s.map Char.toLower == t.map Char.toLower

example : extension? "dir/game.LN".toList = some "LN".toList := rfl
example : extension? ".ln".toList = none := rfl
example : fileName? "dir/./".toList = some "dir".toList := rfl

end LineScript.Text
