import LineScript.Builtin.Basic
import LineScript.Text.Case
import LineScript.Text.Occurrence

/-!
The functions that a session can call. A function is registered as an entry with a name and aliases,
all of which mean it from then on; what they meant before they mean no longer. An entry is live while
some name still means it; only live entries are counted and searched. Entries that are equal are told
apart by when they were registered.
-/

namespace LineScript

/-- Whether a call as a statement leaves a trace line. -/
inductive Echo where
  | traced
  /-- The function's own output is its trace. -/
  | silent
deriving DecidableEq

/-- What is documented of a function. -/
structure Doc where
  summary : Text
  usage : Text
  sample : Text
  /-- Further words to find the function by. -/
  keywords : List Text
deriving DecidableEq

/-- A function with its names. -/
structure Entry where
  name : Text
  aliases : List Text
  function : Builtin
  echo : Echo
  doc : Option Doc
deriving DecidableEq

namespace Entry

/-- The name and the aliases. -/
def names (e : Entry) : List Text := e.name :: e.aliases

/-- Whether a name or alias, the summary or a keyword contains `needle`, which is in lower case. -/
def mentions (e : Entry) (needle : Text) : Bool :=
  let has := fun t => Text.occursIn needle (Text.lower t)
  e.names.any has ||
    match e.doc with
    | some doc => has doc.summary || doc.keywords.any has
    | none => false

end Entry

/-- An entry that has been registered. -/
structure Registered where
  /-- How many entries had been registered before. -/
  number : Nat
  entry : Entry
deriving DecidableEq

/-- The functions that can be called. -/
structure Registry where
  /-- What each name means. -/
  meanings : Entries Registered
  /-- All entries that have been registered, oldest first. -/
  registered : List Registered

namespace Registry

/-- No function at all. -/
def empty : Registry := ⟨[], []⟩

/-- Registers an entry: all of its names mean it. -/
def register (r : Registry) (e : Entry) : Registry :=
  let new : Registered := ⟨r.registered.length, e⟩
  ⟨r.meanings.insertAll e.names new, r.registered ++ [new]⟩

/-- Registers entries in turn. -/
def registerAll (r : Registry) (es : List Entry) : Registry := es.foldl register r

/-- The registered entry that a name means. -/
def meaning? (r : Registry) (name : Text) : Option Registered := r.meanings.get? name

/-- The entry that a name means. -/
def lookup? (r : Registry) (name : Text) : Option Entry := (r.meaning? name).map (·.entry)

/-- Whether a name means an entry. -/
def contains (r : Registry) (name : Text) : Bool := (r.lookup? name).isSome

/-- All names that mean something, in the order of their code points. -/
def names (r : Registry) : List Text := r.meanings.keys.mergeSort Text.precedes

/-- Whether one of the names of a registered entry still means it. -/
def isLive (r : Registry) (x : Registered) : Bool :=
  x.entry.names.any fun name => (r.meaning? name).any (·.number == x.number)

/-- The live entries, oldest first. -/
def live (r : Registry) : List Registered := r.registered.filter r.isLive

/-- The number of live entries. -/
def size (r : Registry) : Nat := r.live.length

/-- The live entries that mention a term in whatever case. A blank term is mentioned by none. -/
def found (r : Registry) (term : Text) : List Registered :=
  let needle := Text.lower term.trim
  if needle.isEmpty then [] else r.live.filter (·.entry.mentions needle)

/-- The entries that are found by a term. -/
def search (r : Registry) (term : Text) : List Entry := (r.found term).map (·.entry)

/-- The lines that report one entry. -/
def reportEntry (e : Entry) : List Text :=
  ("  ".toList ++ Text.joinWith " / ".toList e.names) ::
    match e.doc with
    | some doc => [
        "    ".toList ++ doc.summary,
        "    syntax:  ".toList ++ doc.usage,
        "    example: ".toList ++ doc.sample]
    | none => []

/-- The lines that report a search. -/
def report (r : Registry) (term : Text) : List Text :=
  match r.search term with
  | [] => ["no builtin matches \"".toList ++ term ++ ['"']]
  | found =>
    ("search results for \"".toList ++ term ++ "\":".toList) :: found.flatMap reportEntry ++
      [Text.ofNat found.length ++ " match(es)".toList]

end Registry

/-! ## Modules -/

/-- Entries that are registered together. -/
structure Module where
  name : Text
  entries : List Entry

/-- Modules under the names they can be imported by. A name means the module that got it last. -/
abbrev ModuleTable := Entries Module

/-- Registers the entries of a module in turn. -/
def Registry.merge (r : Registry) (m : Module) : Registry := r.registerAll m.entries

/-- The table with a module under its own name and under further ones. -/
def ModuleTable.add (table : ModuleTable) (m : Module) (aliases : List Text) : ModuleTable :=
  table.insertAll (m.name :: aliases) m

end LineScript
