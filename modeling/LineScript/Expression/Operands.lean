import LineScript.Binary64.Decimal
import LineScript.Nesting

/-!
The operands of a concatenation: the pieces between top-level plus signs, where a plus sign that
belongs to a number is no separator. Putting plus signs between the operands gives back the text
(`joinWith_operands`), so with two operands or more each is shorter than the text.
-/

namespace LineScript.Expression

open Text

/-- Whether a text could be the start of a number that a plus sign continues: nothing at all, or a
number and the letter of an exponent. -/
def awaitsSign (t : Text) : Bool :=
  let t := trimStart t
  match t.reverse with
  | [] => true
  | c :: mantissa => (c == 'e' || c == 'E') && (Binary64.read? mantissa.reverse).isSome

/-- Whether the plus sign between two pieces is the sign of a number. -/
def signJoins (before behind : Text) : Bool :=
  match behind with
  | c :: _ => c.isDigit && awaitsSign before
  | [] => false

/-- Pieces put together again where the plus sign between them belongs to a number. -/
def regroup (current : Text) : List Text → List Text
  | [] => [current]
  | next :: rest =>
    if signJoins current next then regroup (current ++ '+' :: next) rest
    else current :: regroup next rest

/-- The operands of the concatenation that a text is; a text that is none has one operand. -/
def operands (t : Text) : List Text :=
  match splitTop '+' t with
  | [] => []
  | first :: rest => regroup first rest

theorem regroup_ne_nil (current : Text) (rest : List Text) : regroup current rest ≠ [] := by
  induction rest generalizing current with
  | nil => simp [regroup]
  | cons next rest ih =>
    simp only [regroup]
    split
    · exact ih _
    · simp

theorem joinWith_regroup (current : Text) (rest : List Text) :
    joinWith ['+'] (regroup current rest) = joinWith ['+'] (current :: rest) := by
  induction rest generalizing current with
  | nil => rfl
  | cons next rest ih =>
    simp only [regroup]
    split
    · rw [ih]
      cases rest with
      | nil => simp [joinWith_cons_cons, joinWith_singleton]
      | cons q qs => simp [joinWith_cons_cons]
    · rw [joinWith_cons_of_ne_nil (regroup_ne_nil next rest), ih, joinWith_cons_cons]

theorem joinWith_operands (t : Text) : joinWith ['+'] (operands t) = t := by
  have h := joinWith_splitTop '+' t
  simp only [operands]
  split
  · next he => simpa [he] using h
  · next first rest he => rw [joinWith_regroup, ← he, h]

theorem length_lt_joinWith {sep piece : Text} {pieces : List Text} (hs : sep ≠ [])
    (hp : piece ∈ pieces) (hl : 2 ≤ pieces.length) :
    piece.length < (joinWith sep pieces).length := by
  obtain ⟨p, rest, rfl⟩ := List.exists_cons_of_ne_nil (List.ne_nil_of_mem hp)
  have hr : rest ≠ [] := by
    rintro rfl
    simp at hl
  have hpos : 0 < sep.length := List.length_pos_iff.mpr hs
  rw [joinWith_cons_of_ne_nil hr]
  simp only [List.length_append]
  rcases List.mem_cons.mp hp with rfl | hm
  · omega
  · have hl : piece.length ≤ (joinWith sep rest).length := length_le_joinWith hm
    omega

theorem length_lt_of_mem_operands {t operand : Text} (h : operand ∈ operands t)
    (hl : 2 ≤ (operands t).length) : operand.length < t.length := by
  have hj : operand.length < (joinWith ['+'] (operands t)).length :=
    length_lt_joinWith (by simp) h hl
  rwa [joinWith_operands] at hj

end LineScript.Expression
