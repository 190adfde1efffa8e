import LineScript.Text.Path

/-!
Files. What a program needs to know of a file is a function of its path (`Files`); a directory held as
a value (`Directory`) is one way to give this function.
-/

namespace LineScript

/-- What is found under a path. A directory counts as nothing. -/
inductive Found where
  | nothing
  | unreadable (reason : Text)
  | file (bytes : List UInt8)
deriving DecidableEq

/-- The files that can be read, by their paths. -/
abbrev Files := Text → Found

/-- What lies at a place inside a directory. -/
inductive DirectoryEntry where
  | subdirectory
  | file (bytes : List UInt8)
deriving DecidableEq

/-- A directory with all below it: the places, as lists of names, with what lies there. The directories
on the way to a place are implied. Of two entries for a place the first counts. -/
abbrev Directory := List (List Text × DirectoryEntry)

namespace Directory

/-- Puts an entry at the place that a path names. -/
def put (d : Directory) (path : Text) (e : DirectoryEntry) : Directory :=
  (Text.pathComponents path, e) :: d

/-- The entry at a place. -/
def entry? (d : Directory) (place : List Text) : Option DirectoryEntry :=
  (d.find? (·.1 == place)).map (·.2)

/-- Whether a place is a directory. -/
def isDirectory (d : Directory) (place : List Text) : Bool :=
  place.isEmpty || d.entry? place == some .subdirectory ||
    d.any fun (p, _) => place.isPrefixOf p && place != p

/-- The place that the components of a path lead to from a place. Every component, also one that says
nothing, can only be looked up in a directory. Nothing outside the directory is reached. -/
def follow? (d : Directory) (place : List Text) : List Text → Option (List Text)
  | [] => some place
  | c :: rest =>
    if !d.isDirectory place then none
    else if c.isEmpty || c == Text.sameDirectory then d.follow? place rest
    else if c == Text.parentDirectory then
      if place.isEmpty then none else d.follow? place.dropLast rest
    else d.follow? (place ++ [c]) rest

/-- What is found under a path that starts at the directory. -/
def find (d : Directory) (path : Text) : Found :=
  if path.head? = some '/' then .nothing
  else
    match (d.follow? [] (Text.pieces (· == '/') path)).bind d.entry? with
    | some (.file bytes) => .file bytes
    | _ => .nothing

end Directory

end LineScript
