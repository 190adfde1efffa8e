import LineScript.Binary64.Shortest
import LineScript.Proofs.Binary64.Nearest
import LineScript.Proofs.Text.Blanks

/-!
The text of a finite number read again. The digits of the text are chosen so that they read back as
the magnitude (`readsBack_shortest`), the text is a plain decimal literal with these digits, and so it
reads as the number, except that a negative zero loses its sign (`read?_text`).
-/

namespace LineScript

open Text

namespace Binary64

/-! ## The digits read back -/

/-- What is chosen between two decimal values reads back. -/
theorem readsBack_of_choice {magnitude : Nat} {below above decimal : Nat × Int} {nearer : Bool}
    (h : (if readsBack magnitude below && nearer then some below
      else if readsBack magnitude above then some above else none) = some decimal) :
    readsBack magnitude decimal = true := by
  split at h
  · next hb =>
    obtain rfl := Option.some.inj h
    exact (Bool.and_eq_true_iff.mp hb).1
  · split at h
    · next ha =>
      obtain rfl := Option.some.inj h
      exact ha
    · contradiction

theorem readsBack_withDigits? {tie : Tie} {magnitude count : Nat} {decimal : Nat × Int}
    (h : withDigits? tie magnitude count = some decimal) : readsBack magnitude decimal = true := by
  simp only [withDigits?] at h
  exact readsBack_of_choice h

/-- Digits that make the exact value of a magnitude read back. -/
theorem readsBack_of_eq {magnitude digits k : Nat}
    (h : digits * unitsPerOne = units magnitude * 10 ^ k) :
    readsBack magnitude (digits, -(k : Int)) = true := by
  have hnear : magnitudeOfDecimal digits (-(k : Int)) = magnitude := by
    rw [magnitudeOfDecimal_eq, show (-(k : Int)).toNat = 0 from by omega,
      show (- -(k : Int)).toNat = k from by omega, Nat.pow_zero, Nat.mul_one, h]
    exact nearestMagnitude_units magnitude (Nat.pow_pos (by decide))
  rw [readsBack, hnear]
  exact beq_self_eq_true magnitude

theorem readsBack_exact (magnitude : Nat) :
    readsBack magnitude (units magnitude * Nat.pow 5 1074, -1074) = true := by
  have hten : Nat.pow 5 1074 * unitsPerOne = 10 ^ 1074 := by decide +kernel
  exact readsBack_of_eq (k := 1074) (by rw [Nat.mul_assoc, hten])

theorem readsBack_shortest (tie : Tie) (magnitude : Nat) :
    readsBack magnitude (shortest tie magnitude) = true := by
  rw [shortest]
  cases h : (List.range 17).findSome? fun i => withDigits? tie magnitude (i + 1) with
  | none => exact readsBack_exact magnitude
  | some decimal =>
    obtain ⟨i, _, hi⟩ := List.exists_of_findSome?_eq_some h
    exact readsBack_withDigits? hi

end Binary64

/-! ## Decimal text -/

namespace Decimal

/-- Digits behind a point, which is left out if there are none. -/
def pointed (fraction : Text) : Text := if fraction.isEmpty then [] else '.' :: fraction

/-- Digits that make `digits` together, the last `places` of them behind a point if there are any. -/
def IsText (digits places : Nat) (t : Text) : Prop :=
  ∃ whole fraction : Text, whole ≠ [] ∧ (∀ c ∈ whole ++ fraction, c.isDigit = true) ∧
    Nat.ofDigitChars 10 (whole ++ fraction) 0 = digits ∧ fraction.length = places ∧
    t = whole ++ pointed fraction

variable {digits places : Nat} {t : Text}

theorem IsText.chars (h : IsText digits places t) : ∀ c ∈ t, c.isDigit = true ∨ c = '.' := by
  obtain ⟨whole, fraction, -, hall, -, -, rfl⟩ := h
  intro c hc
  rcases List.mem_append.mp hc with hw | hf
  · exact Or.inl (hall c (List.mem_append_left _ hw))
  · rw [pointed] at hf
    split at hf
    · simp at hf
    · rcases List.mem_cons.mp hf with rfl | hf
      · exact Or.inr rfl
      · exact Or.inl (hall c (List.mem_append_right _ hf))

theorem isText_digits (ds : Text) (hne : ds ≠ []) (h : ∀ c ∈ ds, c.isDigit = true) :
    IsText (Nat.ofDigitChars 10 ds 0) 0 ds :=
  ⟨ds, [], hne, by simpa using h, by rw [List.append_nil], rfl, (List.append_nil ds).symm⟩

theorem isText_point (ds : Text) (h : ∀ c ∈ ds, c.isDigit = true) {places : Nat}
    (hpos : 0 < places) (hlt : places < ds.length) :
    IsText (Nat.ofDigitChars 10 ds 0) places
      (ds.take (ds.length - places) ++ '.' :: ds.drop (ds.length - places)) := by
  have hlength : (ds.drop (ds.length - places)).length = places := by
    rw [List.length_drop]
    omega
  have hfraction : ds.drop (ds.length - places) ≠ [] := by
    rw [← List.length_pos_iff, hlength]
    exact hpos
  have hwhole : ds.take (ds.length - places) ≠ [] := by
    rw [← List.length_pos_iff, List.length_take]
    omega
  refine ⟨_, _, hwhole, ?_, ?_, hlength, ?_⟩
  · rwa [List.take_append_drop]
  · rw [List.take_append_drop]
  · rw [pointed, if_neg (by simpa using hfraction)]

/-- A decimal text begins with a digit. -/
theorem IsText.exists_cons (h : IsText digits places t) :
    ∃ c rest, t = c :: rest ∧ c.isDigit = true := by
  obtain ⟨whole, fraction, hne, hall, -, -, rfl⟩ := h
  obtain ⟨c, rest, rfl⟩ := List.exists_cons_of_ne_nil hne
  exact ⟨c, _, rfl, hall c (by simp)⟩

theorem readSign_withSign (h : IsText digits places t) (negative : Bool) :
    readSign (Binary64.withSign negative t) = (negative, t) := by
  obtain ⟨c, rest, rfl, hc⟩ := h.exists_cons
  cases negative with
  | true => rfl
  | false =>
    have hminus : c ≠ '-' := by
      rintro rfl
      contradiction
    have hplus : c ≠ '+' := by
      rintro rfl
      contradiction
    simp [Binary64.withSign, readSign, hminus, hplus]

theorem readFraction_pointed {fraction : Text} (h : ∀ c ∈ fraction, c.isDigit = true) :
    readFraction (pointed fraction) = (fraction, []) := by
  have htake : (fraction ++ []).takeWhile Char.isDigit = fraction ++ [] :=
    List.takeWhile_append_of_pos h
  have hdrop : (fraction ++ []).dropWhile Char.isDigit = [] := List.dropWhile_append_of_pos h
  rw [List.append_nil] at htake hdrop
  cases fraction with
  | nil => rfl
  | cons c rest => rw [pointed, if_neg (by simp), readFraction, htake, hdrop]

/-- A decimal text, with a minus sign before it or none, is a literal without an exponent. -/
theorem IsText.read? (h : IsText digits places t) (negative : Bool) :
    Decimal.read? (Binary64.withSign negative t) = some ⟨negative, digits, -places⟩ := by
  have hsign := readSign_withSign h negative
  obtain ⟨whole, fraction, hne, hall, rfl, rfl, rfl⟩ := h
  have hwhole : ∀ c ∈ whole, c.isDigit = true := fun c hc => hall c (List.mem_append_left _ hc)
  have hread := readFraction_pointed fun c hc => hall c (List.mem_append_right whole hc)
  have htake : (pointed fraction).takeWhile Char.isDigit = [] := by cases fraction <;> rfl
  have hdrop : (pointed fraction).dropWhile Char.isDigit = pointed fraction := by
    cases fraction <;> rfl
  have hsome : whole.isEmpty = false := by simpa using hne
  simp only [Decimal.read?, hsign, List.takeWhile_append_of_pos hwhole, htake, List.append_nil,
    List.dropWhile_append_of_pos hwhole, hdrop, hread, hsome, Bool.false_and]
  simp [readExponent?]

end Decimal

namespace Binary64

open Decimal

theorem isDigit_zeros (k : Nat) : ∀ c ∈ List.replicate k '0', c.isDigit = true := by
  intro c hc
  rw [(List.mem_replicate.mp hc).2]
  rfl

/-- Zeros behind digits multiply what the digits make, and zeros before them change nothing. -/
theorem isText_positional (digits : Nat) (exponent : Int) :
    IsText (digits * 10 ^ exponent.toNat) (-exponent).toNat (positional digits exponent) := by
  have hds : ∀ c ∈ Text.ofNat digits, c.isDigit = true := fun c hc => isDigit_of_mem_ofNat hc
  have hne : Text.ofNat digits ≠ [] := ofNat_ne_nil digits
  have hvalue : Nat.ofDigitChars 10 (Text.ofNat digits) 0 = digits := Nat.ofDigitChars_ten_toDigits
  by_cases h : 0 ≤ exponent
  · have htext := isText_digits (Text.ofNat digits ++ List.replicate exponent.toNat '0')
      (List.append_ne_nil_of_left_ne_nil hne _)
      (List.forall_mem_append.mpr ⟨hds, isDigit_zeros _⟩)
    rw [Nat.ofDigitChars_append, hvalue, Nat.ofDigitChars_replicate_zero, Nat.mul_comm] at htext
    rw [positional, if_pos h, show (-exponent).toNat = 0 from by omega]
    exact htext
  · simp only [positional, if_neg h]
    generalize hplaces : (-exponent).toNat = places
    generalize hpadded : List.replicate (places + 1 - (Text.ofNat digits).length) '0' ++
      Text.ofNat digits = padded
    -- Enough zeros stand before the digits for one digit before the point.
    have hlength : places < padded.length := by
      rw [← hpadded, List.length_append, List.length_replicate]
      omega
    have htext := isText_point padded
      (by rw [← hpadded]; exact List.forall_mem_append.mpr ⟨isDigit_zeros _, hds⟩)
      (show 0 < places from by omega) hlength
    have hsame : Nat.ofDigitChars 10 padded 0 = digits * 10 ^ exponent.toNat := by
      rw [← hpadded, Nat.ofDigitChars_append, Nat.ofDigitChars_replicate_zero, Nat.mul_zero, hvalue,
        show exponent.toNat = 0 from by omega, Nat.pow_zero, Nat.mul_one]
    rwa [hsame] at htext

/-! ## The round trip -/

/-- The number without the sign of a zero, which its text does not show. -/
def unsignZero : Binary64 → Binary64
  | nan => nan
  | signed negative magnitude h =>
    if magnitude = 0 then zero false else signed negative magnitude h

/-- A power of ten may stand in the digits or in the exponent. -/
theorem magnitudeOfDecimal_mul_pow (digits : Nat) (exponent : Int) :
    magnitudeOfDecimal (digits * 10 ^ exponent.toNat) (-((-exponent).toNat : Int)) =
      magnitudeOfDecimal digits exponent := by
  rw [magnitudeOfDecimal_eq, magnitudeOfDecimal_eq digits,
    show (-((-exponent).toNat : Int)).toNat = 0 from by omega,
    show (- -((-exponent).toNat : Int)).toNat = (-exponent).toNat from by omega, Nat.pow_zero,
    Nat.mul_one]

/-- The text of a finite number is a decimal text, with a minus sign before it or none, that stands
for the number without the sign of a zero. -/
theorem exists_text {x : Binary64} (h : x.isFinite = true) :
    ∃ negative digits places t, Decimal.IsText digits places t ∧
      x.text = withSign negative t ∧ ofDecimal ⟨negative, digits, -places⟩ = x.unsignZero := by
  cases x with
  | nan => contradiction
  | signed negative magnitude le =>
    by_cases hm : magnitude = 0
    · subst hm
      exact ⟨false, 0, 0, ['0'], isText_digits ['0'] (by simp) (by simp), rfl, rfl⟩
    · -- The digits are those of the shortest decimal value, and that reads back.
      have hlt : magnitude < infinityMagnitude := by simpa [isFinite] using h
      have hback := readsBack_shortest .up magnitude
      rw [text, if_neg hm, if_neg (Nat.ne_of_lt hlt), magnitudeText, if_neg hm]
      generalize shortest .up magnitude = decimal at hback ⊢
      have hsame : magnitudeOfDecimal decimal.1 decimal.2 = magnitude := by
        simpa [readsBack] using hback
      rw [← magnitudeOfDecimal_mul_pow] at hsame
      refine ⟨negative, _, _, _, isText_positional decimal.1 decimal.2, rfl, ?_⟩
      rw [ofDecimal_eq hm hlt hsame, unsignZero, if_neg hm]
      simp only [ofMagnitude, Nat.min_eq_left (Nat.le_of_lt hlt)]

theorem withSign_chars {t : Text} (h : ∀ c ∈ t, c.isDigit = true ∨ c = '.') (negative : Bool) :
    ∀ c ∈ withSign negative t, c.isDigit = true ∨ c = '.' ∨ c = '-' := by
  intro c hc
  cases negative with
  | false => exact (h c hc).imp_right Or.inl
  | true =>
    rcases List.mem_cons.mp hc with rfl | hc
    · exact Or.inr (Or.inr rfl)
    · exact (h c hc).imp_right Or.inl

/-- The text of a finite number consists of digits, points and minus signs. -/
theorem text_chars {x : Binary64} (h : x.isFinite = true) :
    ∀ c ∈ x.text, c.isDigit = true ∨ c = '.' ∨ c = '-' := by
  obtain ⟨negative, digits, places, t, ht, htext, -⟩ := exists_text h
  rw [htext]
  exact withSign_chars ht.chars negative

theorem text_ne_nil {x : Binary64} (h : x.isFinite = true) : x.text ≠ [] := by
  obtain ⟨negative, digits, places, t, ht, htext, -⟩ := exists_text h
  obtain ⟨c, rest, rfl, -⟩ := ht.exists_cons
  rw [htext]
  cases negative <;> simp [withSign]

theorem isBlank_of_mem_text {x : Binary64} (h : x.isFinite = true) :
    ∀ c ∈ x.text, Unicode.isBlank c = false := by
  intro c hc
  rcases text_chars h c hc with hd | rfl | rfl
  · exact isBlank_of_isDigit hd
  · decide
  · decide

/-- A finite number is read from its text, a negative zero without its sign. -/
theorem read?_text {x : Binary64} (h : x.isFinite = true) : read? x.text = some x.unsignZero := by
  obtain ⟨negative, digits, places, t, ht, htext, hvalue⟩ := exists_text h
  rw [read?, trim_of_not_blank (isBlank_of_mem_text h), htext, ht.read? negative, Option.map_some,
    hvalue]

end Binary64

end LineScript
