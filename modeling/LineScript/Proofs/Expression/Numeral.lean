import LineScript.Proofs.Binary64.Numeral
import LineScript.Proofs.Expression.Concatenation
import LineScript.Proofs.Expression.Literal

/-!
Numbers as expressions. A plus sign can stand in a number in two places, before it and in its exponent,
and no operand ends at such a sign if a digit is behind it (`Numeral.operands_text`). So what is a number
on its own has this number for its value, but for one spelling: where a plus sign stands before a point,
the text is taken for a concatenation (`evaluate_number`).
-/

namespace LineScript

open Unicode Text Nesting

/-! ## Plus signs that join -/

namespace Expression

/-- A number and the letter of an exponent wait for a plus sign. -/
theorem awaitsSign_exponent {mantissa : Text} {c : Char} (htrim : trim mantissa = mantissa)
    (hc : c = 'e' ∨ c = 'E') (h : (Binary64.read? mantissa).isSome = true) :
    awaitsSign (mantissa ++ [c]) = true := by
  have hblank : isBlank c = false := by rcases hc with rfl | rfl <;> decide
  have hstart : trimStart (mantissa ++ [c]) = mantissa ++ [c] := by
    apply dropWhile_of_head?
    intro d hd
    cases mantissa with
    | nil =>
      obtain rfl := Option.some.inj hd
      exact hblank
    | cons m rest => exact isBlank_head_of_trim htrim d hd
  have hletter : (c == 'e' || c == 'E') = true := by simpa using hc
  simp [awaitsSign, hstart, hletter, h]

theorem regroup_concat {current s t : Text} {rest : List Text} (hone : regroup current rest = [s])
    (hj : signJoins s t = true) : regroup current (rest ++ [t]) = [s ++ '+' :: t] := by
  induction rest generalizing current with
  | nil =>
    obtain rfl : current = s := List.singleton_inj.mp hone
    rw [List.nil_append, regroup, if_pos hj, regroup]
  | cons next rest ih =>
    rw [List.cons_append, regroup]
    rw [regroup] at hone
    split at hone
    · next hnext => rw [if_pos hnext, ih hone]
    · exact absurd (List.cons.inj hone).2 (regroup_ne_nil next rest)

/-- A plus sign that belongs to a number does not separate. -/
theorem operands_append_joined {s t : Text} (hs : Nesting.top.after s = .top)
    (hone : operands s = [s]) (ht : Whole '+' .top t) (hj : signJoins s t = true) :
    operands (s ++ '+' :: t) = [s ++ '+' :: t] := by
  obtain ⟨p, ps, hp⟩ := List.exists_cons_of_ne_nil (splitFrom_ne_nil '+' .top s)
  have hsplit : splitTop '+' (s ++ '+' :: t) = p :: (ps ++ [t]) := by
    rw [splitTop_append (by decide) hs, splitTop, hp, splitTop, ht, List.cons_append]
  rw [operands_of_splitTop hsplit]
  exact regroup_concat ((operands_of_splitTop hp).symm.trans hone) hj

end Expression

open Expression

/-! ## The characters of a literal -/

namespace Numeral

/-- What a literal is made of beside digits. -/
def letters : Text := ['+', '-', '.', 'e', 'E']

theorem mem_signText {s : Sign} {c : Char} (h : c ∈ s.text) :
    c = '+' ∧ s = .plus ∨ c = '-' := by
  cases s with
  | none => cases h
  | plus => exact Or.inl ⟨List.mem_singleton.mp h, rfl⟩
  | minus => exact Or.inr (List.mem_singleton.mp h)

theorem mem_mantissa {l : Numeral} {c : Char} (h : c ∈ l.mantissa) :
    c.isDigit = true ∨ c = '.' := by
  rcases List.mem_append.mp h with h | h
  · exact Or.inl (l.isDigit_whole c h)
  · have hfraction := l.isDigit_fraction
    cases hf : l.fraction with
    | none => simp [hf, pointText] at h
    | some digits =>
      rw [hf] at h hfraction
      rcases List.mem_cons.mp h with rfl | h
      · exact Or.inr rfl
      · exact Or.inl (hfraction c h)

theorem mem_exponentText {e : Exponent} {c : Char} (h : c ∈ e.text) :
    c.isDigit = true ∨ c = 'e' ∨ c = 'E' ∨ c = '+' ∧ e.sign = .plus ∨ c = '-' := by
  rcases List.mem_cons.mp h with rfl | h
  · rcases e.isLetter with hc | hc <;> simp [hc]
  · rcases List.mem_append.mp h with h | h
    · rcases mem_signText h with hc | hc <;> simp [hc]
    · exact Or.inl (e.isDigit c h)

theorem mem_text {l : Numeral} {c : Char} (h : c ∈ l.text) : c.isDigit = true ∨ c ∈ letters := by
  have hletters : c = '+' ∨ c = '-' ∨ c = '.' ∨ c = 'e' ∨ c = 'E' → c ∈ letters := by
    simp [letters]
  rcases List.mem_append.mp h with h | h
  · right
    rcases mem_signText h with hc | hc <;> exact hletters (by simp [hc])
  · rcases List.mem_append.mp h with h | h
    · exact (mem_mantissa h).imp_right fun hc => hletters (by simp [hc])
    · cases he : l.exponent with
      | none => simp [he, exponentText] at h
      | some e =>
        rw [he] at h
        rcases mem_exponentText h with hc | hc | hc | hc | hc
        · exact Or.inl hc
        all_goals exact Or.inr (hletters (by simp [hc]))

theorem not_mark_of_mem_text {l : Numeral} {c : Char} (h : c ∈ l.text) : c ∉ marks := by
  have table : marks.all (fun m => !m.isDigit && !letters.elem m) = true := by decide
  intro hm
  have hc := List.all_eq_true.mp table c hm
  rcases mem_text h with hdigit | hletter
  · simp [hdigit] at hc
  · simp [hletter] at hc

theorem trim_text (l : Numeral) : trim l.text = l.text := by
  apply trim_of_not_blank
  intro c hc
  rcases mem_text hc with hdigit | hletter
  · exact isBlank_of_isDigit hdigit
  · have table : letters.all (!isBlank ·) = true := by decide
    simpa using List.all_eq_true.mp table c hletter

/-! ## The operands of a literal -/

/-- A sign that is the only one in a text is part of its one operand, if it is no plus sign before
something else than a digit. -/
theorem operands_sign {s : Sign} {t : Text} (hmarks : ∀ c ∈ t, c ∉ marks) (hplus : '+' ∉ t)
    (hs : s = .plus → signJoins [] t = true) : operands (s.text ++ t) = [s.text ++ t] := by
  cases s with
  | none => exact operands_of_closed (closed_of_plain hmarks hplus)
  | minus =>
    apply operands_of_closed
    apply closed_of_plain
    · intro c hc
      rcases List.mem_cons.mp hc with rfl | hc
      · decide
      · exact hmarks c hc
    · intro hc
      rcases List.mem_cons.mp hc with hc | hc
      · contradiction
      · exact hplus hc
  | plus => exact operands_append_joined rfl rfl (whole_of_not_mem hplus _) (hs rfl)

variable {l : Numeral}

theorem signJoins_mantissa (hw : l.whole ≠ []) (rest : Text) :
    signJoins [] (l.mantissa ++ rest) = true := by
  obtain ⟨d, ds, hcons⟩ := List.exists_cons_of_ne_nil hw
  have hd : d.isDigit = true := l.isDigit_whole d (hcons ▸ List.mem_cons_self)
  rw [mantissa, hcons]
  exact Bool.and_eq_true_iff.mpr ⟨hd, rfl⟩

/-- A literal without digits before its point begins with the point. -/
theorem whole_ne_nil (h : ¬ ['+', '.'] <+: l.text) (hs : l.sign = .plus) : l.whole ≠ [] := by
  intro hw
  apply h
  have hne := l.ne_nil
  rw [text, mantissa, hs, hw]
  cases hf : l.fraction with
  | none => simp [hw, hf] at hne
  | some digits => exact ⟨digits ++ exponentText l.exponent, rfl⟩

/-- The sign and the digits of a literal are in one operand with what is behind them. -/
theorem operands_mantissa (h : ¬ ['+', '.'] <+: l.text) {rest : Text}
    (hmarks : ∀ c ∈ rest, c ∉ marks) (hplus : '+' ∉ rest) :
    operands (l.sign.text ++ (l.mantissa ++ rest)) = [l.sign.text ++ (l.mantissa ++ rest)] := by
  apply operands_sign
  · intro c hc
    rcases List.mem_append.mp hc with hc | hc
    · exact not_mark_of_mem_text (List.mem_append_right _ (List.mem_append_left _ hc))
    · exact hmarks c hc
  · intro hc
    rcases List.mem_append.mp hc with hc | hc
    · rcases mem_mantissa hc with hc | hc <;> contradiction
    · exact hplus hc
  · exact fun hs => signJoins_mantissa (whole_ne_nil h hs) rest

/-- A literal with a plus sign in its exponent, cut at this sign. -/
theorem exists_of_plus_mem_exponentText {exponent : Option Exponent}
    (h : '+' ∈ exponentText exponent) :
    ∃ e : Exponent, exponentText exponent = [e.letter] ++ '+' :: e.digits := by
  cases exponent with
  | none => cases h
  | some e =>
    rcases mem_exponentText h with hc | hc | hc | ⟨-, hs⟩ | hc
    · contradiction
    · contradiction
    · contradiction
    · refine ⟨e, ?_⟩
      rw [exponentText, Exponent.text, hs]
      rfl
    · contradiction

/-- What is before the exponent of a literal is a number on its own, so the letter waits for a sign. -/
theorem awaitsSign_letter (l : Numeral) {c : Char} (hc : c = 'e' ∨ c = 'E') :
    awaitsSign (l.sign.text ++ (l.mantissa ++ [c])) = true := by
  let number : Numeral := { l with exponent := none }
  have htext : number.text = l.sign.text ++ l.mantissa :=
    congrArg (l.sign.text ++ ·) (List.append_nil l.mantissa)
  have hread : (Binary64.read? number.text).isSome = true := by
    rw [Binary64.read?, trim_text, Decimal.read?_text]
    rfl
  rw [← List.append_assoc, ← htext]
  exact awaitsSign_exponent number.trim_text hc hread

/-- A literal is one operand, signs and all, unless it begins with a plus sign and a point. -/
theorem operands_text (h : ¬ ['+', '.'] <+: l.text) : operands l.text = [l.text] := by
  have hmarks : ∀ c ∈ l.text, c ∉ marks := fun c hc => not_mark_of_mem_text hc
  by_cases hplus : '+' ∈ exponentText l.exponent
  · obtain ⟨e, htext⟩ := exists_of_plus_mem_exponentText hplus
    have hcut : l.text = (l.sign.text ++ (l.mantissa ++ [e.letter])) ++ '+' :: e.digits := by
      rw [text, htext, ← List.append_assoc, ← List.append_assoc, ← List.append_assoc]
    rw [hcut] at hmarks ⊢
    have hbefore : ∀ c ∈ l.sign.text ++ (l.mantissa ++ [e.letter]), c ∉ marks :=
      fun c hc => hmarks c (List.mem_append_left _ hc)
    have hletter : '+' ∉ [e.letter] := by
      rcases e.isLetter with hc | hc <;> rw [hc] <;> decide
    have hone := operands_mantissa h
      (fun c hc => hbefore c (List.mem_append_right _ (List.mem_append_right _ hc))) hletter
    have hdigits : '+' ∉ e.digits := fun hc => absurd (e.isDigit _ hc) (by decide)
    obtain ⟨d, ds, hcons⟩ := List.exists_cons_of_ne_nil e.ne_nil
    have hjoins : signJoins (l.sign.text ++ (l.mantissa ++ [e.letter])) e.digits = true := by
      rw [hcons]
      exact Bool.and_eq_true_iff.mpr
        ⟨e.isDigit d (hcons ▸ List.mem_cons_self), l.awaitsSign_letter e.isLetter⟩
    exact operands_append_joined (after_of_no_mark rfl hbefore) hone
      (whole_of_not_mem hdigits _) hjoins
  · exact operands_mantissa h
      (fun c hc => hmarks c (List.mem_append_right _ (List.mem_append_right _ hc))) hplus

end Numeral

/-! ## The values of numbers -/

theorem evaluate_literal {l : Numeral} (h : ¬ ['+', '.'] <+: l.text) (vars : Variables) :
    evaluate l.text vars = .num (Binary64.ofDecimal l.value) := by
  have hread : Binary64.read? l.text = some (Binary64.ofDecimal l.value) := by
    rw [Binary64.read?, l.trim_text, Decimal.read?_text, Option.map_some]
  rw [evaluate, read_of_plain l.trim_text (Numeral.operands_text h)
    fun c hc => Numeral.not_mark_of_mem_text hc, hread]
  rfl

theorem evaluate_trim (t : Text) (vars : Variables) : evaluate t.trim vars = evaluate t vars := by
  rw [evaluate, read_trim, evaluate]

theorem evaluate_nil (vars : Variables) : evaluate [] vars = (vars.get? []).getD (.str []) := by
  rw [evaluate, read_of_plain rfl rfl (by simp)]
  rfl

/-- A plus sign before a point separates, with nothing before it. -/
theorem evaluate_plus_point {rest : Text} {d : Decimal}
    (h : Decimal.read? ('+' :: '.' :: rest) = some d) (vars : Variables) :
    evaluate ('+' :: '.' :: rest) vars =
      .str (((vars.get? []).getD (.str [])).display ++ (Value.num (.ofDecimal d)).display) := by
  -- The sign makes no difference to what is read, so what is behind it is a literal as well.
  obtain ⟨l, hl, rfl⟩ := Decimal.read?_eq_some_iff.mp (show Decimal.read? ('.' :: rest) = some d from h)
  have hunsigned : ¬ ['+', '.'] <+: l.text := by
    rw [← hl]
    rintro ⟨more, hmore⟩
    cases hmore
  have hoperands : operands ('+' :: '.' :: rest) = [[], l.text] := by
    rw [← List.nil_append ('+' :: _), operands_append rfl rfl, hl, l.operands_text hunsigned]
    rfl
  rw [evaluate_concat (by rw [hoperands]; exact Nat.le_refl 2), hoperands]
  simp [evaluate_nil, evaluate_literal hunsigned]

/-- A text that is a number has this number for its value, whatever the variables are, unless it begins
with a plus sign and a point. Then it is a concatenation of the empty text and the number behind the
sign. -/
theorem evaluate_number {t : Text} {n : Binary64} (h : Binary64.read? t = some n)
    (vars : Variables) :
    evaluate t vars =
      if ['+', '.'] <+: t.trim then
        .str (((vars.get? []).getD (.str [])).display ++ (Value.num n).display)
      else .num n := by
  obtain ⟨d, hd, rfl⟩ := Option.map_eq_some_iff.mp h
  rw [← evaluate_trim]
  split
  · next hprefix =>
    obtain ⟨rest, hrest⟩ := hprefix
    rw [← hrest] at hd ⊢
    exact evaluate_plus_point hd vars
  · next hprefix =>
    obtain ⟨l, hl, rfl⟩ := Decimal.read?_eq_some_iff.mp hd
    rw [hl] at hprefix ⊢
    exact evaluate_literal hprefix vars

/-- A number with both signs, no digit behind its point and blanks around it, and a variable of the same
name. -/
theorem evaluate_number_signs :
    let t := " +12.E+03 ".toList
    let vars : Variables := [("+12.E+03".toList, .null)]
    Binary64.read? t = some (.ofNat 12000) ∧ evaluate t vars = .num (.ofNat 12000) := by
  intro t vars
  have hread : Binary64.read? t = some (.ofNat 12000) := by decide +kernel
  have hvalue := evaluate_number hread vars
  rw [if_neg (by decide)] at hvalue
  exact ⟨hread, hvalue⟩

/-- A number with a leading plus sign that has a string for its value. -/
theorem evaluate_plus_half :
    let half := Binary64.ofBits 0x3FE0000000000000
    Binary64.read? "+.5".toList = some half ∧ evaluate "+.5".toList [] = .str "0.5".toList ∧
      evaluate "+.5".toList [] ≠ .num half := by
  intro half
  have hread : Binary64.read? "+.5".toList = some half := by decide +kernel
  have hnumber : Binary64.ofDecimal ⟨false, 5, -1⟩ = half := by decide +kernel
  have hshown : (Value.num half).display = "0.5".toList := by decide +kernel
  have hvalue : evaluate "+.5".toList [] = .str "0.5".toList := by
    have hdecimal : Decimal.read? ['+', '.', '5'] = some ⟨false, 5, -1⟩ := by decide
    have hplus := evaluate_plus_point hdecimal []
    rw [hnumber, hshown] at hplus
    exact hplus
  refine ⟨hread, hvalue, fun hnum => ?_⟩
  rw [hvalue] at hnum
  cases hnum

end LineScript
