import LineScript.Call

/-!
Operands: texts whose calls have been found. The arguments of a call are operands themselves, so an
operand is a tree of calls. Whether a call is made is left open; a call of an unknown name stands for
its text.
-/

namespace LineScript

/-- A text, or a call with its text, its name and its arguments. -/
inductive Operand where
  | text (t : Text)
  | call (t name : Text) (args : List Operand)

namespace Operand

/-- The text of an operand. -/
def source : Operand → Text
  | text t => t
  | call t _ _ => t

/-- The operand that a text is. -/
def read (t : Text) : Operand :=
  match h : splitCall? t with
  | none => text t
  | some (name, args) =>
    call t name ((Text.splitArguments args).attach.map fun ⟨arg, hm⟩ =>
      have : arg.length < t.length :=
        Nat.lt_of_le_of_lt (Text.length_le_of_mem_splitArguments hm) (length_of_splitCall? h)
      read arg)
termination_by t.length

/-- The operands in the text of a call's arguments. -/
def readAll (args : Text) : List Operand := (Text.splitArguments args).map read

theorem read_eq (t : Text) : read t =
    match splitCall? t with
    | none => text t
    | some (name, args) => call t name (readAll args) := by
  rw [read]
  split
  · next h => simp [h]
  · next name args h =>
    have := List.attach_map_subtype_val (Text.splitArguments args)
    simp only [h, readAll, call.injEq, true_and]
    conv => rhs; rw [← this, List.map_map]
    rfl

end Operand

end LineScript
