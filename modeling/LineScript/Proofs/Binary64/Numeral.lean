import LineScript.Binary64.Decimal

/-!
The grammar of decimal literals: a sign, digits with at most one point among or beside them, and an
exponent with a sign of its own. Reading accepts exactly the texts of this grammar, each with its value
(`Decimal.read?_eq_some_iff`).
-/

namespace LineScript

/-- What can stand before digits. -/
inductive Sign where
  | none
  | plus
  | minus
deriving DecidableEq

namespace Sign

/-- The sign as it is written. -/
def text : Sign → Text
  | none => []
  | plus => ['+']
  | minus => ['-']

/-- Whether the sign makes a number negative. -/
def isMinus : Sign → Bool
  | minus => true
  | _ => false

end Sign

/-- The exponent of a literal. -/
structure Exponent where
  letter : Char
  sign : Sign
  digits : Text
  isLetter : letter = 'e' ∨ letter = 'E'
  ne_nil : digits ≠ []
  isDigit : ∀ c ∈ digits, c.isDigit = true

namespace Exponent

/-- The exponent as it is written. -/
def text (e : Exponent) : Text := e.letter :: (e.sign.text ++ e.digits)

/-- The power of ten. -/
def value (e : Exponent) : Int :=
  let n : Int := Nat.ofDigitChars 10 e.digits 0
  if e.sign.isMinus then -n else n

end Exponent

/-- A decimal literal. There are digits before the point or behind it, and there is no point at all if
there is no fraction. -/
structure Numeral where
  sign : Sign
  whole : Text
  fraction : Option Text
  exponent : Option Exponent
  isDigit_whole : ∀ c ∈ whole, c.isDigit = true
  isDigit_fraction : ∀ c ∈ fraction.getD [], c.isDigit = true
  ne_nil : whole ++ fraction.getD [] ≠ []

namespace Numeral

/-- A point and the digits behind it, if there are any to be. -/
def pointText : Option Text → Text
  | none => []
  | some digits => '.' :: digits

/-- An exponent as it is written, if there is one. -/
def exponentText : Option Exponent → Text
  | none => []
  | some e => e.text

/-- The digits and the point. -/
def mantissa (l : Numeral) : Text := l.whole ++ pointText l.fraction

/-- The literal as it is written. -/
def text (l : Numeral) : Text := l.sign.text ++ (l.mantissa ++ exponentText l.exponent)

/-- The value of the literal. -/
def value (l : Numeral) : Decimal :=
  ⟨l.sign.isMinus, Nat.ofDigitChars 10 (l.whole ++ l.fraction.getD []) 0,
    (l.exponent.map Exponent.value).getD 0 - (l.fraction.getD []).length⟩

end Numeral

namespace Decimal

open Numeral

/-! ## Digits and signs -/

/-- Digits in front of what begins with no digit are what is taken. -/
theorem span_digits {digits rest : Text} (hd : ∀ c ∈ digits, c.isDigit = true)
    (hr : ∀ c, rest.head? = some c → c.isDigit = false) :
    (digits ++ rest).takeWhile Char.isDigit = digits ∧
      (digits ++ rest).dropWhile Char.isDigit = rest := by
  rw [List.takeWhile_append_of_pos hd, List.dropWhile_append_of_pos hd]
  cases rest with
  | nil => simp
  | cons c rest => simp [hr c rfl]

theorem isDigit_takeWhile (t : Text) : ∀ c ∈ t.takeWhile Char.isDigit, c.isDigit = true :=
  List.all_eq_true.mp List.all_takeWhile

theorem not_sign_of_isDigit {c : Char} (h : c.isDigit = true) : c ≠ '-' ∧ c ≠ '+' := by
  constructor <;> rintro rfl <;> contradiction

theorem readSign_text (s : Sign) {t : Text} (h : ∀ c, t.head? = some c → c ≠ '-' ∧ c ≠ '+') :
    readSign (s.text ++ t) = (s.isMinus, t) := by
  cases s with
  | plus => rfl
  | minus => rfl
  | none =>
    show readSign t = (false, t)
    unfold readSign
    split
    · exact absurd rfl (h '-' rfl).1
    · exact absurd rfl (h '+' rfl).2
    · rfl

theorem exists_sign {t rest : Text} {negative : Bool} (h : readSign t = (negative, rest)) :
    ∃ s : Sign, t = s.text ++ rest ∧ negative = s.isMinus := by
  unfold readSign at h
  split at h
  · obtain ⟨rfl, rfl⟩ := Prod.mk.inj h
    exact ⟨.minus, rfl, rfl⟩
  · obtain ⟨rfl, rfl⟩ := Prod.mk.inj h
    exact ⟨.plus, rfl, rfl⟩
  · obtain ⟨rfl, rfl⟩ := Prod.mk.inj h
    exact ⟨.none, rfl, rfl⟩

/-! ## Exponents -/

theorem readExponent?_text (exponent : Option Exponent) :
    readExponent? (exponentText exponent) = some ((exponent.map Exponent.value).getD 0) := by
  cases exponent with
  | none => rfl
  | some e =>
    have hletter : (e.letter == 'e' || e.letter == 'E') = true := by
      simpa [Bool.or_eq_true, beq_iff_eq] using e.isLetter
    have hall : e.digits.all Char.isDigit = true := List.all_eq_true.mpr e.isDigit
    have hne : e.digits.isEmpty = false := by simpa using e.ne_nil
    have hsign : readSign (e.sign.text ++ e.digits) = (e.sign.isMinus, e.digits) :=
      readSign_text e.sign fun c hc => not_sign_of_isDigit (e.isDigit c (List.mem_of_mem_head? hc))
    rw [exponentText, Exponent.text, readExponent?, if_pos hletter, readInteger?, hsign]
    simp [hall, hne, Exponent.value]

theorem exists_exponent {t : Text} {n : Int} (h : readExponent? t = some n) :
    ∃ exponent, t = exponentText exponent ∧ n = (exponent.map Exponent.value).getD 0 := by
  cases t with
  | nil => exact ⟨none, rfl, (Option.some.inj h).symm⟩
  | cons c rest =>
    rw [readExponent?] at h
    split at h
    · next hletter =>
      cases hread : readSign rest with
      | mk negative digits =>
        obtain ⟨s, rfl, rfl⟩ := exists_sign hread
        simp only [readInteger?, hread] at h
        split at h
        · contradiction
        · next hdigits =>
          rw [Bool.or_eq_true, not_or] at hdigits
          refine ⟨some ⟨c, s, digits, by simpa using hletter, by simpa using hdigits.1,
            by simpa using hdigits.2⟩, rfl, ?_⟩
          exact (Option.some.inj h).symm
    · contradiction

theorem head?_exponentText {exponent : Option Exponent} {c : Char}
    (h : (exponentText exponent).head? = some c) : c = 'e' ∨ c = 'E' := by
  cases exponent with
  | none => cases h
  | some e =>
    obtain rfl := Option.some.inj h
    exact e.isLetter

/-! ## Fractions -/

theorem readFraction_text {fraction : Option Text} (exponent : Option Exponent)
    (h : ∀ c ∈ fraction.getD [], c.isDigit = true) :
    readFraction (pointText fraction ++ exponentText exponent) =
      (fraction.getD [], exponentText exponent) := by
  cases fraction with
  | none =>
    show readFraction (exponentText exponent) = ([], exponentText exponent)
    unfold readFraction
    split
    · next heq =>
      rcases head?_exponentText (congrArg List.head? heq) with hc | hc <;>
        exact absurd hc (by decide)
    · rfl
  | some digits =>
    have hbehind : ∀ c, (exponentText exponent).head? = some c → c.isDigit = false := by
      intro c hc
      rcases head?_exponentText hc with rfl | rfl <;> rfl
    obtain ⟨htake, hdrop⟩ := span_digits h hbehind
    rw [pointText, List.cons_append, readFraction]
    exact Prod.ext htake hdrop

theorem exists_fraction {t rest digits : Text} (h : readFraction t = (digits, rest)) :
    ∃ fraction : Option Text, t = pointText fraction ++ rest ∧ digits = fraction.getD [] ∧
      ∀ c ∈ digits, c.isDigit = true := by
  unfold readFraction at h
  split at h
  · next behind =>
    obtain ⟨rfl, rfl⟩ := Prod.mk.inj h
    refine ⟨some (behind.takeWhile Char.isDigit), ?_, rfl, isDigit_takeWhile behind⟩
    rw [pointText, List.cons_append, List.takeWhile_append_dropWhile]
  · obtain ⟨rfl, rfl⟩ := Prod.mk.inj h
    exact ⟨none, rfl, rfl, by simp⟩

theorem head?_behind_whole {fraction : Option Text} {exponent : Option Exponent} {c : Char}
    (h : (pointText fraction ++ exponentText exponent).head? = some c) :
    c = '.' ∨ c = 'e' ∨ c = 'E' := by
  cases fraction with
  | none => exact Or.inr (head?_exponentText h)
  | some digits => exact Or.inl (Option.some.inj h).symm

/-! ## Literals -/

/-- A literal is read as its value. -/
theorem read?_text (l : Numeral) : read? l.text = some l.value := by
  have hbehind : ∀ c, (pointText l.fraction ++ exponentText l.exponent).head? = some c →
      c.isDigit = false := by
    intro c hc
    rcases head?_behind_whole hc with rfl | rfl | rfl <;> rfl
  obtain ⟨htake, hdrop⟩ := span_digits l.isDigit_whole hbehind
  have hsign : readSign l.text =
      (l.sign.isMinus, l.whole ++ (pointText l.fraction ++ exponentText l.exponent)) := by
    rw [text, mantissa, List.append_assoc]
    apply readSign_text
    intro c hc
    cases hw : l.whole with
    | nil =>
      rw [hw] at hc
      rcases head?_behind_whole hc with rfl | rfl | rfl <;> decide
    | cons d rest =>
      rw [hw] at hc
      obtain rfl := Option.some.inj hc
      exact not_sign_of_isDigit (l.isDigit_whole d (hw ▸ List.mem_cons_self))
  have hdigits : (l.whole.isEmpty && (l.fraction.getD []).isEmpty) = false := by
    rw [Bool.eq_false_iff]
    intro h
    obtain ⟨hw, hf⟩ := Bool.and_eq_true_iff.mp h
    exact l.ne_nil (by rw [List.isEmpty_iff.mp hw, List.isEmpty_iff.mp hf]; rfl)
  simp only [read?, hsign, htake, hdrop, readFraction_text l.exponent l.isDigit_fraction, hdigits,
    readExponent?_text]
  rfl

/-- The literals are what can be read, each with its value. -/
theorem read?_eq_some_iff {t : Text} {d : Decimal} :
    read? t = some d ↔ ∃ l : Numeral, t = l.text ∧ d = l.value := by
  constructor
  · intro h
    cases hsign : readSign t with
    | mk negative unsigned =>
      cases hfraction : readFraction (unsigned.dropWhile Char.isDigit) with
      | mk digits rest =>
        simp only [read?, hsign, hfraction] at h
        split at h
        · contradiction
        · next hdigits =>
          obtain ⟨n, hn, rfl⟩ := Option.map_eq_some_iff.mp h
          obtain ⟨s, rfl, rfl⟩ := exists_sign hsign
          obtain ⟨fraction, hbehind, rfl, hall⟩ := exists_fraction hfraction
          obtain ⟨exponent, rfl, rfl⟩ := exists_exponent hn
          have hne : unsigned.takeWhile Char.isDigit ++ fraction.getD [] ≠ [] := by
            intro hnil
            obtain ⟨hw, hf⟩ := List.append_eq_nil_iff.mp hnil
            simp [hw, hf] at hdigits
          refine ⟨⟨s, unsigned.takeWhile Char.isDigit, fraction, exponent,
            isDigit_takeWhile unsigned, hall, hne⟩, ?_, rfl⟩
          rw [text, mantissa, List.append_assoc, ← hbehind, List.takeWhile_append_dropWhile]
  · rintro ⟨l, rfl, rfl⟩
    exact read?_text l

end Decimal

end LineScript
