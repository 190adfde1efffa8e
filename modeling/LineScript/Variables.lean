import LineScript.Value.Basic

/-!
The variables of a session: one scope, in which assigning overwrites and the order is that of the first
assignments. Names with the global prefix are the session's own; a debugger lists them apart.
-/

namespace LineScript

/-- Names bound to values. -/
abbrev Variables := Entries Value

namespace Variables

/-- What the names of globals begin with. -/
def globalPrefix : Text := "__".toList

/-- Whether a name is one of a global. -/
def isGlobal (name : Text) : Bool := globalPrefix.isPrefixOf name

/-- The variables that are globals. -/
def globals (vars : Variables) : Variables := vars.filter fun binding => isGlobal binding.1

/-- The variables that are not globals. -/
def locals (vars : Variables) : Variables := vars.filter fun binding => !isGlobal binding.1

end Variables

end LineScript
