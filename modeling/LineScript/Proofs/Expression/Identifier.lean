import LineScript.Call
import LineScript.Proofs.Block.Heading
import LineScript.Proofs.Expression.Literal

/-!
Words as expressions. A word is no quoted text, no concatenation and no call, so its value is the number
or that of the reserved word it is, or that of its variable, or its own text (`IsWord.evaluate_eq`). A
name is a word that is no number (`evaluate_identifier`).
-/

namespace LineScript

open Unicode Text Nesting

/-- Letters begin behind the digits, the signs and the point in the order of code points. -/
theorem Unicode.isAlphabetic_of_lt {c : Char} (h : c.toNat < 65) : isAlphabetic c = false :=
  if_pos h

/-- Of the characters in front of the letters only digits are characters of a word. -/
theorem Unicode.isWordChar_eq_false {c : Char}
    (h : c.toNat < 48 ∨ 57 < c.toNat ∧ c.toNat < 65) : isWordChar c = false := by
  have halphabetic : isAlphabetic c = false := isAlphabetic_of_lt (by omega)
  -- The digits are the first range of the numeric characters, and the next begins at 178.
  have hnumeric : isNumeric c = false := by
    rcases h with hlow | ⟨hdigits, hletters⟩
    · exact if_pos hlow
    · exact (if_neg (by omega)).trans ((if_neg (by omega)).trans (if_pos (by omega)))
  have hbar : c ≠ '_' := by
    rintro rfl
    revert h
    decide
  simp [isWordChar, isAlphanumeric, halphabetic, hnumeric, hbar]

/-- No character that has a meaning in an expression is one of a word. -/
theorem not_mark_of_isWordChar {c : Char} (h : isWordChar c = true) : c ≠ '+' ∧ c ∉ marks := by
  have table : ('+' :: marks).all (!isWordChar ·) = true := by decide
  rw [← not_or, ← List.mem_cons]
  intro hm
  have hc := List.all_eq_true.mp table c hm
  simp [h] at hc

/-- A text that begins with neither a sign, a point nor a digit is no number. -/
theorem Binary64.read?_of_first {c : Char} {rest : Text} (htrim : trim (c :: rest) = c :: rest)
    (hsign : c ≠ '-' ∧ c ≠ '+') (hpoint : c ≠ '.') (hdigit : c.isDigit = false) :
    Binary64.read? (c :: rest) = none := by
  have hread : Decimal.readSign (c :: rest) = (false, c :: rest) := by
    unfold Decimal.readSign
    split
    · next h => exact absurd (List.cons.inj h).1 hsign.1
    · next h => exact absurd (List.cons.inj h).1 hsign.2
    · rfl
  have hfraction : Decimal.readFraction (c :: rest) = ([], c :: rest) := by
    unfold Decimal.readFraction
    split
    · next h => exact absurd (List.cons.inj h).1 hpoint
    · rfl
  rw [Binary64.read?, htrim, Decimal.read?, hread]
  simp [hdigit, hfraction]

theorem Binary64.read?_of_letter {c : Char} {rest : Text} (htrim : trim (c :: rest) = c :: rest)
    (hc : 65 ≤ c.toNat) : Binary64.read? (c :: rest) = none := by
  have hne : ∀ d : Char, d.toNat < 65 → c ≠ d := by
    rintro d hd rfl
    omega
  have hdigit : c.isDigit = false := by
    rw [Bool.eq_false_iff]
    intro hd
    simp only [Char.isDigit, Bool.and_eq_true, decide_eq_true_eq] at hd
    have hle : c.toNat ≤ 57 := UInt32.le_iff_toNat_le.mp hd.2
    omega
  exact read?_of_first htrim ⟨hne '-' (by decide), hne '+' (by decide)⟩ (hne '.' (by decide)) hdigit

section

variable {x : Text}

/-- A word has no parentheses, so it is no call. -/
theorem IsWord.splitCall?_eq (h : IsWord x) : splitCall? x = none := by
  have hcut : cutAt? (· == '(') x = none := by
    refine cutAt?_eq_none.mpr fun d hd => beq_eq_false_iff_ne.mpr ?_
    rintro rfl
    exact (not_mark_of_isWordChar (h.2 _ hd)).2 (by decide)
  have htrim : trim x = x := trim_of_not_blank fun d hd => isBlank_of_isWordChar (h.2 d hd)
  rw [splitCall?, htrim, hcut]

/-- The value of a word: the number that it is, or that of the reserved word, or of the variable, or the
word itself. -/
theorem IsWord.evaluate_eq (h : IsWord x) (vars : Variables) : evaluate x vars =
    match Binary64.read? x with
    | some n => .num n
    | none => (Expression.reserved? x).getD ((vars.get? x).getD (.str x)) := by
  have hplain : ∀ d ∈ x, d ∉ marks := fun d hd => (not_mark_of_isWordChar (h.2 d hd)).2
  have htrim : trim x = x := trim_of_not_blank fun d hd => isBlank_of_isWordChar (h.2 d hd)
  have hplus : '+' ∉ x := fun hm => (not_mark_of_isWordChar (h.2 '+' hm)).1 rfl
  have hone : Expression.operands x = [x] :=
    Expression.operands_of_closed (closed_of_plain hplain hplus)
  rw [evaluate, Expression.read_of_plain htrim hone hplain]
  cases Binary64.read? x with
  | some n => rfl
  | none => cases Expression.reserved? x <;> rfl

/-- A name is a word, and begins behind the digits in the order of code points. -/
theorem exists_of_isIdentifier (h : isIdentifier x = true) :
    IsWord x ∧ ∃ c rest, x = c :: rest ∧ 65 ≤ c.toNat := by
  cases x with
  | nil => cases h
  | cons c rest =>
    simp only [isIdentifier, Bool.and_eq_true, Bool.or_eq_true, beq_iff_eq] at h
    obtain ⟨hfirst, hrest⟩ := h
    refine ⟨⟨List.cons_ne_nil c rest, ?_⟩, c, rest, rfl, ?_⟩
    · intro d hd
      rcases List.mem_cons.mp hd with rfl | hd
      · rcases hfirst with ha | rfl
        · simp [isWordChar, isAlphanumeric, ha]
        · simp [isWordChar]
      · exact List.all_eq_true.mp hrest d hd
    · rcases hfirst with ha | rfl
      · rw [← Nat.not_lt]
        intro hlt
        rw [isAlphabetic_of_lt hlt] at ha
        contradiction
      · decide

theorem isWord_of_isIdentifier (h : isIdentifier x = true) : IsWord x :=
  (exists_of_isIdentifier h).1

/-- The value of a name: that of a reserved word, or of the variable, or the name itself. -/
theorem evaluate_identifier (h : isIdentifier x = true) (vars : Variables) :
    evaluate x vars = (Expression.reserved? x).getD ((vars.get? x).getD (.str x)) := by
  obtain ⟨hword, c, rest, rfl, hc⟩ := exists_of_isIdentifier h
  have htrim : trim (c :: rest) = c :: rest :=
    trim_of_not_blank fun d hd => isBlank_of_isWordChar (hword.2 d hd)
  rw [hword.evaluate_eq, Binary64.read?_of_letter htrim hc]

/-- Every reserved word is a name. -/
theorem isIdentifier_of_reserved? {v : Value} (h : Expression.reserved? x = some v) :
    isIdentifier x = true := by
  have table : ∀ t ∈ Expression.trueWords ++ Expression.falseWords ++ Expression.nullWords,
      isIdentifier t = true := by decide +kernel
  have hmem : x ∈ Expression.trueWords ++ Expression.falseWords ++ Expression.nullWords := by
    simp only [Expression.reserved?, List.contains_iff_mem] at h
    simp only [List.mem_append]
    split at h
    · exact Or.inl (Or.inl ‹_›)
    · split at h
      · exact Or.inl (Or.inr ‹_›)
      · split at h
        · exact Or.inr ‹_›
        · cases h
  exact table x hmem

theorem kind_of_reserved? {v : Value} (h : Expression.reserved? x = some v) :
    v.kind = .boolean ∨ v.kind = .null := by
  unfold Expression.reserved? at h
  split at h
  · cases h
    exact Or.inl rfl
  · split at h
    · cases h
      exact Or.inl rfl
    · split at h
      · cases h
        exact Or.inr rfl
      · cases h

/-- A name whose value is an array or object has it from its variable. -/
theorem evaluate_container {vars : Variables} {v : Value} (h : isIdentifier x = true)
    (hkind : (evaluate x vars).kind = .array ∨ (evaluate x vars).kind = .object)
    (hv : vars.get? x = some v) : evaluate x vars = v := by
  rw [evaluate_identifier h] at hkind ⊢
  cases hr : Expression.reserved? x with
  | none => rw [hv, Option.getD_none, Option.getD_some]
  | some w =>
    rw [hr, Option.getD_some] at hkind
    rcases kind_of_reserved? hr with hw | hw <;> rw [hw] at hkind <;> simp at hkind

end

end LineScript
