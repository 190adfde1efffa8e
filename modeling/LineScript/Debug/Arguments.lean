import LineScript.Json.Basic
import LineScript.Text.Quoted

/-!
The arguments of debug requests, read from JSON. Arguments are an object, whose fields are visited in
the order of their names and may include unknown ones, or an array of the fields in the order in which
they are declared. The first thing that does not fit is the reason why they are refused
(`ArgumentError.message`).
-/

namespace LineScript.Debug

/-- Why the arguments of a request are refused. -/
inductive ArgumentError where
  | missingField (name : String)
  | wrongType (got : Json) (expected : String)
  /-- A whole number beyond 64 bits with a sign. -/
  | outOfRange (n : Int)
  /-- An array with more elements than there are fields. -/
  | tooLong (length : Nat)
  /-- An array that ends before a required field of a record of `count` fields. -/
  | tooShort (length : Nat) (record : String) (count : Nat)
  | pathRequired

/-- How a JSON value is named in a refusal. -/
def describe : Json → Text
  | .null => "null".toList
  | .bool b => "boolean `".toList ++ (Json.bool b).render ++ ['`']
  | .int n => "integer `".toList ++ Text.ofInt n ++ ['`']
  | .float x => "floating point `".toList ++ Json.floatText x ++ ['`']
  | .str t => "string ".toList ++ Text.quoted t
  | .arr _ => "sequence".toList
  | .obj _ => "map".toList

/-- The reason as the client is told it. -/
def ArgumentError.message : ArgumentError → Text
  | missingField name => "missing field `".toList ++ name.toList ++ ['`']
  | wrongType got expected =>
    "invalid type: ".toList ++ describe got ++ ", expected ".toList ++ expected.toList
  | outOfRange n => "invalid value: integer `".toList ++ Text.ofInt n ++ "`, expected i64".toList
  | tooLong length =>
    "invalid length ".toList ++ Text.ofNat length ++
      ", expected fewer elements in array".toList
  | tooShort length record count =>
    "invalid length ".toList ++ Text.ofNat length ++ ", expected struct ".toList ++ record.toList ++
      " with ".toList ++ Text.ofNat count ++
      (if count = 1 then " element".toList else " elements".toList)
  | pathRequired => "source.path is required".toList

/-! ## Values of fields -/

/-- Reads a string. -/
def readText : Json → Except ArgumentError Text
  | .str t => .ok t
  | other => .error (.wrongType other "a string")

/-- Reads a whole number of 64 bits with a sign. -/
def readInteger : Json → Except ArgumentError Int
  | .int n => if n ≤ Json.greatestSigned then .ok n else .error (.outOfRange n)
  | other => .error (.wrongType other "i64")

/-- Reads a value that may be null. -/
def readOptional {α : Type} (read : Json → Except ArgumentError α) :
    Json → Except ArgumentError (Option α)
  | .null => .ok none
  | other => (read other).map some

/-- Reads the elements of an array in turn. -/
def readList {α : Type} (read : Json → Except ArgumentError α) :
    Json → Except ArgumentError (List α)
  | .arr items => items.mapM read
  | other => .error (.wrongType other "a sequence")

/-! ## Records -/

/-- A field of a record. -/
structure Field (α : Type) where
  name : String
  required : Bool
  /-- Reads the field into a record. -/
  put : α → Json → Except ArgumentError α

/-- Reads fields, visited in the given order, into a record. Unknown ones are passed over. -/
def putFields {α : Type} (fields : List (Field α)) (a : α) :
    List (Text × Json) → Except ArgumentError α
  | [] => .ok a
  | (key, j) :: rest =>
    match fields.find? (·.name.toList = key) with
    | none => putFields fields a rest
    | some f =>
      match f.put a j with
      | .error e => .error e
      | .ok a => putFields fields a rest

/-- Reads the elements of an array into the fields in turn. -/
def putItems {α : Type} (fields : List (Field α)) (a : α) : List Json → Except ArgumentError α
  | [] => .ok a
  | j :: rest =>
    match fields with
    | [] => .ok a
    | f :: fields =>
      match f.put a j with
      | .error e => .error e
      | .ok a => putItems fields a rest

/-- Reads a record. `blank` has the defaults of the fields that are not required. -/
def readRecord {α : Type} (record : String) (fields : List (Field α)) (blank : α) :
    Json → Except ArgumentError α
  | .obj given =>
    match putFields fields blank (Json.distinctFields given) with
    | .error e => .error e
    | .ok a =>
      match fields.find? fun f => f.required && !(Entries.contains f.name.toList given) with
      | some f => .error (.missingField f.name)
      | none => .ok a
  | .arr items =>
    match putItems fields blank items with
    | .error e => .error e
    | .ok a =>
      if (fields.drop items.length).any (·.required) then
        .error (.tooShort items.length record fields.length)
      else if fields.length < items.length then .error (.tooLong items.length)
      else .ok a
  | other => .error (.wrongType other ("struct " ++ record))

/-! ## The records -/

/-- Arguments of `launch`. -/
structure LaunchArguments where
  program : Option Text

def LaunchArguments.read : Json → Except ArgumentError LaunchArguments :=
  readRecord "LaunchArguments" [
    ⟨"program", false, fun _ j => (readOptional readText j).map .mk⟩] ⟨none⟩

/-- A source file. -/
structure Source where
  name : Option Text
  path : Option Text

def Source.read : Json → Except ArgumentError Source :=
  readRecord "Source" [
    ⟨"name", false, fun s j => (readOptional readText j).map fun name => { s with name }⟩,
    ⟨"path", false, fun s j => (readOptional readText j).map fun path => { s with path }⟩]
    ⟨none, none⟩

/-- A breakpoint as a client sets it. -/
structure Breakpoint where
  line : Int
  condition : Option Text
deriving DecidableEq

def Breakpoint.read : Json → Except ArgumentError Breakpoint :=
  readRecord "SourceBreakpoint" [
    ⟨"line", true, fun b j => (readInteger j).map fun line => { b with line }⟩,
    ⟨"condition", false,
      fun b j => (readOptional readText j).map fun condition => { b with condition }⟩]
    ⟨0, none⟩

/-- Arguments of `setBreakpoints`. -/
structure BreakpointArguments where
  source : Source
  breakpoints : List Breakpoint

def BreakpointArguments.read : Json → Except ArgumentError BreakpointArguments :=
  readRecord "SetBreakpointsArguments" [
    ⟨"source", true, fun a j => (Source.read j).map fun source => { a with source }⟩,
    ⟨"breakpoints", false,
      fun a j => (readList Breakpoint.read j).map fun breakpoints => { a with breakpoints }⟩]
    ⟨⟨none, none⟩, []⟩

/-- Arguments of `variables`. -/
structure VariablesArguments where
  reference : Int

def VariablesArguments.read : Json → Except ArgumentError VariablesArguments :=
  readRecord "VariablesArguments" [
    ⟨"variablesReference", true, fun _ j => (readInteger j).map .mk⟩] ⟨0⟩

/-- Arguments of `evaluate`. -/
structure EvaluateArguments where
  expression : Text

def EvaluateArguments.read : Json → Except ArgumentError EvaluateArguments :=
  readRecord "EvaluateArguments" [
    ⟨"expression", true, fun _ j => (readText j).map .mk⟩] ⟨[]⟩

/-- Arguments of `completions`. -/
structure CompletionArguments where
  text : Text
  /-- The place of the cursor in the text, counted from 1. -/
  column : Option Int

def CompletionArguments.read : Json → Except ArgumentError CompletionArguments :=
  readRecord "CompletionsArguments" [
    ⟨"text", true, fun a j => (readText j).map fun text => { a with text }⟩,
    ⟨"column", false, fun a j => (readOptional readInteger j).map fun column => { a with column }⟩]
    ⟨[], none⟩

end LineScript.Debug
