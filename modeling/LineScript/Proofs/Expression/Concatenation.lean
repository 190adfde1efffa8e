import LineScript.Proofs.Expression.Operands

/-!
Concatenation as a homomorphism. A plus sign between two texts puts the texts of their values together,
whatever the two are, if it stands at the top level, has something before it, and is not taken for the
sign of an exponent (`evaluate_append`). What the exponent may stand behind is any text that reads as a
number, so also one with blanks between the number and the letter (`evaluate_append_blank_exponent`).
-/

namespace LineScript

open Unicode Text

namespace Expression

/-- What makes a text wait for a plus sign and a digit: nothing in it but blanks, or the letter of an
exponent at its end behind a number. -/
theorem blank_or_exponent_of_awaitsSign {t : Text} (h : awaitsSign t = true) :
    Blank t ∨ ∃ mantissa c, t = mantissa ++ [c] ∧ (c = 'e' ∨ c = 'E') ∧
      (Binary64.read? mantissa).isSome := by
  obtain ⟨lead, hl, ht⟩ := exists_blank_lead t
  cases hr : (trimStart t).reverse with
  | nil =>
    left
    rw [List.reverse_eq_nil_iff] at hr
    rw [ht, hr, List.append_nil]
    exact hl
  | cons c mantissa =>
    right
    simp only [awaitsSign, hr, Bool.and_eq_true, Bool.or_eq_true, beq_iff_eq] at h
    refine ⟨lead ++ mantissa.reverse, c, ?_, h.1, ?_⟩
    · have hstart : trimStart t = mantissa.reverse ++ [c] := by
        rw [← List.reverse_reverse (trimStart t), hr, List.reverse_cons]
      rw [List.append_assoc, ← hstart]
      exact ht
    · rw [Binary64.read?, trim_blank_append hl]
      exact h.2

end Expression

open Expression

/-- The text of a value is the texts of the operands' values, one after the other. -/
theorem evaluate_concat {t : Text} (h : 2 ≤ (operands t).length) (vars : Variables) :
    evaluate t vars = .str ((operands t).map fun o => (evaluate o vars).display).flatten := by
  rw [evaluate, read_concat h, eval, evalAll_eq_map]
  simp only [List.map_map]
  rfl

theorem display_evaluate (t : Text) (vars : Variables) :
    (evaluate t vars).display =
      ((operands t).map fun o => (evaluate o vars).display).flatten := by
  by_cases h : 2 ≤ (operands t).length
  · conv => lhs; rw [evaluate_concat h]
    rfl
  · -- A single operand is the text itself.
    have hpos := List.length_pos_iff.mpr (operands_ne_nil t)
    obtain ⟨o, ho⟩ := List.length_eq_one_iff.mp (show (operands t).length = 1 from by omega)
    have hj := joinWith_operands t
    rw [ho, joinWith_singleton] at hj
    simp [ho, hj]

/-- Whether the last operand of a text is a number and the letter of an exponent. -/
def EndsInExponent (t : Text) : Prop :=
  ∃ mantissa c, lastOperand t = mantissa ++ [c] ∧ (c = 'e' ∨ c = 'E') ∧
    (Binary64.read? mantissa).isSome

/-- Whether the first character of a text is a digit. -/
def BeginsWithDigit (t : Text) : Prop := ∃ c rest, t = c :: rest ∧ c.isDigit = true

theorem signJoins_lastOperand {a b : Text} (hblank : ¬ Blank (lastOperand a))
    (hexp : ¬ (EndsInExponent a ∧ BeginsWithDigit b)) : signJoins (lastOperand a) b = false := by
  rw [Bool.eq_false_iff]
  intro hj
  cases b with
  | nil => simp [signJoins] at hj
  | cons c rest =>
    simp only [signJoins, Bool.and_eq_true] at hj
    rcases blank_or_exponent_of_awaitsSign hj.2 with h | h
    · exact hblank h
    · exact hexp ⟨h, c, rest, rfl, hj.1⟩

theorem evaluate_append {a b : Text} (htop : Nesting.top.after a = .top)
    (hblank : ¬ Blank (lastOperand a)) (hexp : ¬ (EndsInExponent a ∧ BeginsWithDigit b))
    (vars : Variables) :
    evaluate (a ++ '+' :: b) vars =
      .str ((evaluate a vars).display ++ (evaluate b vars).display) := by
  have hops := operands_append htop (signJoins_lastOperand hblank hexp)
  have ha := List.length_pos_iff.mpr (operands_ne_nil a)
  have hb := List.length_pos_iff.mpr (operands_ne_nil b)
  have hlength : 2 ≤ (operands (a ++ '+' :: b)).length := by
    rw [hops, List.length_append]
    omega
  rw [evaluate_concat hlength, hops, List.map_append, List.flatten_append, ← display_evaluate,
    ← display_evaluate]

/-- A quoted plus sign, an array and an unfinished exponent before the sign; a negative number and a
number with an exponent behind it. -/
theorem evaluate_append_operands :
    let a : Text := "\"x+y\" + [1, 2]+1e".toList
    let b : Text := "-3+1e+5".toList
    Nesting.top.after a = .top ∧ ¬ Blank (lastOperand a) ∧ ¬ (EndsInExponent a ∧ BeginsWithDigit b) ∧
      evaluate (a ++ '+' :: b) [] =
        .str ((evaluate a []).display ++ (evaluate b []).display) := by
  intro a b
  have htop : Nesting.top.after a = .top := by decide
  have hblank : ¬ Blank (lastOperand a) := by decide
  have hexp : ¬ (EndsInExponent a ∧ BeginsWithDigit b) := by
    rintro ⟨-, c, rest, hb, hc⟩
    obtain rfl : '-' = c := (List.cons.inj hb).1
    exact absurd hc (by decide)
  exact ⟨htop, hblank, hexp, evaluate_append htop hblank hexp []⟩

/-- The text `1 e` is no number with the letter of an exponent directly behind it, and still the plus
sign and the digit behind it are taken for its exponent. -/
theorem evaluate_append_blank_exponent :
    let a : Text := "1 e".toList
    let b : Text := "5".toList
    Nesting.top.after a = .top ∧ ¬ Blank (lastOperand a) ∧
      (∀ mantissa c, lastOperand a = mantissa ++ [c] → Decimal.read? mantissa = none) ∧
      evaluate (a ++ '+' :: b) [] = .str "1 e+5".toList ∧
      (evaluate a []).display ++ (evaluate b []).display = "1 e5".toList := by
  intro a b
  have hmantissa : ∀ mantissa c, lastOperand a = mantissa ++ [c] →
      Decimal.read? mantissa = none := by
    intro mantissa c h
    have hlast : lastOperand a = "1 ".toList ++ ['e'] := by decide
    obtain ⟨rfl, -⟩ := List.append_inj' (hlast.symm.trans h) rfl
    decide
  have hwhole : evaluate (a ++ '+' :: b) [] = .str "1 e+5".toList := by
    rw [evaluate, read_operand (by decide) (by decide)]
    rfl
  have ha : evaluate a [] = .str a := by
    rw [evaluate, read_operand (by decide) (by decide)]
    rfl
  have hb : evaluate b [] = .num (.ofNat 5) := by
    have hnumber : Binary64.read? b = some (.ofNat 5) := by decide +kernel
    rw [evaluate, read_operand (by decide) (by decide)]
    show (readAtom b).eval [] = _
    rw [readAtom, show unquote? b = none from by decide, hnumber]
    rfl
  have hshown : (Value.num (.ofNat 5)).display = "5".toList := by decide +kernel
  refine ⟨by decide, by decide, hmantissa, hwhole, ?_⟩
  rw [ha, hb, hshown]
  rfl

end LineScript
