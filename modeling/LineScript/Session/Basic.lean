import LineScript.Builtin.Call
import LineScript.Builtin.Catalogue
import LineScript.Expression.Basic
import LineScript.Session.Operand

/-!
A session: the variables, the functions that can be called, the modules that have been imported, and
the host. Evaluating an operand calls the functions it names; a function that changes a container
stores it in the variable that the first argument is, if it is one.
-/

namespace LineScript

/-- Everything that running a program changes, and the modules it can import. -/
structure Session where
  vars : Variables
  registry : Registry
  /-- The names of the imported modules, in the order of their first imports. -/
  imported : List Text
  modules : ModuleTable
  host : Host

namespace Session

/-- A session at its start: no variables, the core functions, nothing imported. -/
def start (modules : ModuleTable) (host : Host) : Session :=
  ⟨[], Catalogue.coreRegistry, [], modules, host⟩

/-- Writes a line to the console. -/
def write (s : Session) (t : Text) : Session := { s with host := s.host.write t }

/-- Binds a variable. -/
def assign (s : Session) (name : Text) (v : Value) : Session :=
  { s with vars := s.vars.insert name v }

/-- Stores a changed container in the variable that it came from. A receiver that is no bound variable
keeps its value. -/
def writeBack (s : Session) (receiver : Option Text) (update : Option Value) : Session :=
  match receiver, update with
  | some name, some v =>
    if isIdentifier name && s.vars.contains name then s.assign name v else s
  | _, _ => s

/-- Calls a function by the given name. `receiver` is the text of the first argument. -/
def invoke (s : Session) (e : Entry) (name : Text) (receiver : Option Text) (args : Arguments) :
    Except Failure Value × Session :=
  let o := e.function.call ⟨name, s.registry, args⟩ s.host
  (o.result, { s with host := o.host }.writeBack receiver o.update)

mutual

/-- The value of an operand. A call of a known function is made; all else is an expression. -/
def evalOperand (s : Session) : Operand → Except Failure Value × Session
  | .text t => (.ok (evaluate t s.vars), s)
  | .call t name operands =>
    match s.registry.lookup? name with
    | none => (.ok (evaluate t s.vars), s)
    | some e =>
      match s.evalOperands operands with
      | (.error failure, s) => (.error failure, s)
      | (.ok args, s) => s.invoke e name (operands.head?.map Operand.source) args

/-- The values of operands, evaluated in turn up to the first failure. -/
def evalOperands (s : Session) : List Operand → Except Failure (List Value) × Session
  | [] => (.ok [], s)
  | operand :: rest =>
    match s.evalOperand operand with
    | (.error failure, s) => (.error failure, s)
    | (.ok v, s) =>
      match s.evalOperands rest with
      | (.error failure, s) => (.error failure, s)
      | (.ok vs, s) => (.ok (v :: vs), s)

end

/-- The value of a text. -/
def eval (s : Session) (t : Text) : Except Failure Value × Session :=
  s.evalOperand (Operand.read t)

end Session

end LineScript
