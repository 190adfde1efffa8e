import Mathlib.Order.Monotone.Basic
import LineScript.Proofs.Binary64.Nearest

/-!
The order of numbers and the values that they stand for. A greater magnitude has more units
(`strictMono_units`), so numbers are ordered as their values are. Natural numbers below `2 ^ 53` are
numbers exactly (`exists_ofNat`); that such a number is at most a positive one, infinity among them, says
that it is at most the whole part of its value (`ofNat_le_iff`, `lt_ofNat_iff`).
-/

namespace LineScript.Binary64

/-! ## Magnitudes and their units -/

/-- A magnitude that is not below the second binade: its place in the binade is what is behind the first
digit of the significand. -/
theorem units_significand (e : Nat) {s : Nat} (h : s < binade) :
    units ((e + 1) * binade + s) = (binade + s) * 2 ^ e := by
  have hdiv : ((e + 1) * binade + s) / binade = e + 1 := by
    unfold binade at *
    omega
  have hmod : ((e + 1) * binade + s) % binade = s := by
    unfold binade at *
    omega
  cases e with
  | zero =>
    rw [units_of_lt (by omega)]
    omega
  | succ e =>
    have hle : 2 * binade ≤ (e + 1 + 1) * binade + s :=
      Nat.le_trans (Nat.mul_le_mul_right _ (by omega)) (Nat.le_add_right _ s)
    rw [units_of_le hle, hdiv, hmod, Nat.add_sub_cancel]

theorem units_lt_succ (m : Nat) : units m < units (m + 1) := by
  by_cases hm : m < binade
  · rw [units_of_lt (by omega), units_of_lt (by omega)]
    exact Nat.lt_succ_self m
  · -- Beyond the first binade the next magnitude is in the same binade or the first of the next one.
    obtain ⟨e, s, hs, rfl⟩ : ∃ e s, s < binade ∧ m = (e + 1) * binade + s := by
      refine ⟨m / binade - 1, m % binade, Nat.mod_lt m (by decide), ?_⟩
      have hpos : 1 ≤ m / binade := (Nat.le_div_iff_mul_le (by decide)).mpr (by omega)
      rw [Nat.sub_add_cancel hpos, Nat.mul_comm]
      exact (Nat.div_add_mod m binade).symm
    have hpow : 0 < 2 ^ e := Nat.two_pow_pos e
    by_cases hnext : s + 1 < binade
    · rw [Nat.add_assoc, units_significand e hs, units_significand e hnext]
      exact Nat.mul_lt_mul_of_pos_right (by omega) hpow
    · have hlast : (e + 1) * binade + s + 1 = (e + 1 + 1) * binade + 0 := by
        rw [Nat.succ_mul (e + 1)]
        omega
      rw [hlast, units_significand e hs, units_significand (e + 1) (by decide), Nat.pow_succ',
        Nat.add_zero, ← Nat.mul_assoc]
      exact Nat.mul_lt_mul_of_pos_right (by omega) hpow

/-- A greater magnitude has more units. -/
theorem strictMono_units : StrictMono units := strictMono_nat_of_lt_succ units_lt_succ

/-! ## Natural numbers -/

theorem pow_eq_unitsPerOne {k : Nat} (h : k = 1074) : 2 ^ k = unitsPerOne := by
  subst h
  decide +kernel

theorem unitsPerOne_pos : 0 < unitsPerOne := by decide +kernel

/-- A natural number of at most 53 binary digits is the value of a finite magnitude. -/
theorem exists_units {n : Nat} (h : n < 2 ^ 53) :
    ∃ m < infinityMagnitude, units m = n * unitsPerOne := by
  by_cases hn : n = 0
  · exact ⟨0, by decide, by rw [hn, Nat.zero_mul]; rfl⟩
  · -- The digits of `n`, moved up to 53 of them, are the significand.
    have hlog : Nat.log2 n < 53 := (Nat.log2_lt hn).mpr h
    obtain ⟨shift, hshift⟩ : ∃ shift, Nat.log2 n + shift = 52 := ⟨52 - Nat.log2 n, by omega⟩
    have hlow : binade ≤ n * 2 ^ shift := by
      calc binade = 2 ^ Nat.log2 n * 2 ^ shift := by rw [← Nat.pow_add, hshift]
        _ ≤ n * 2 ^ shift := Nat.mul_le_mul_right _ (Nat.log2_self_le hn)
    have hhigh : n * 2 ^ shift < 2 * binade := by
      calc n * 2 ^ shift < 2 ^ (Nat.log2 n + 1) * 2 ^ shift :=
            Nat.mul_lt_mul_of_pos_right Nat.lt_log2_self (Nat.two_pow_pos _)
        _ = 2 ^ 53 := by rw [← Nat.pow_add, show Nat.log2 n + 1 + shift = 53 from by omega]
    obtain ⟨s, hs⟩ := Nat.exists_eq_add_of_le hlow
    have hlt : s < binade := by omega
    refine ⟨(1074 - shift + 1) * binade + s, ?_, ?_⟩
    · have hinfinity : infinityMagnitude = 2047 * binade := by decide
      have hle : (1074 - shift + 1) * binade ≤ 1075 * binade := Nat.mul_le_mul_right _ (by omega)
      omega
    · rw [units_significand _ hlt, ← hs, Nat.mul_assoc, ← Nat.pow_add,
        pow_eq_unitsPerOne (show shift + (1074 - shift) = 1074 from by omega)]

/-- A natural number below `2 ^ 53` is a number exactly. -/
theorem exists_ofNat {n : Nat} (h : n < 2 ^ 53) :
    ∃ m le, ofNat n = signed false m le ∧ units m = n * unitsPerOne := by
  obtain ⟨m, hlt, hm⟩ := exists_units h
  have hnear : nearestMagnitude (n * unitsPerOne) 1 = m := by
    rw [← hm, ← Nat.mul_one (units m)]
    exact nearestMagnitude_units m Nat.one_pos
  refine ⟨m, Nat.le_of_lt hlt, ?_, hm⟩
  simp only [ofNat, ofUnits, hnear, ofMagnitude, Nat.min_eq_left (Nat.le_of_lt hlt)]

theorem ofNat_inj {n k : Nat} (hn : n < 2 ^ 53) (hk : k < 2 ^ 53) (h : ofNat n = ofNat k) :
    n = k := by
  obtain ⟨m, _, hm, hunits⟩ := exists_ofNat hn
  obtain ⟨m', _, hm', hunits'⟩ := exists_ofNat hk
  rw [hm, hm'] at h
  obtain rfl : m = m' := by injection h
  exact Nat.eq_of_mul_eq_mul_right unitsPerOne_pos (hunits.symm.trans hunits')

/-! ## Positive numbers -/

variable {m : Nat} {le : m ≤ 0x7FF0000000000000}

theorem lt_signed_iff {m' : Nat} {le' : m' ≤ 0x7FF0000000000000} :
    (signed false m le).lt (signed false m' le') = true ↔ m < m' := by
  simp [lt, compare?, key?, Int.compare_eq_lt]

theorem le_signed_iff {m' : Nat} {le' : m' ≤ 0x7FF0000000000000} :
    (signed false m le).le (signed false m' le') = true ↔ m ≤ m' := by
  simp [Binary64.le, lt, eq, compare?, key?, Int.compare_eq_lt]
  omega

/-- What is greater than zero is a number without a minus sign, other than zero. -/
theorem zero_lt_iff {x : Binary64} :
    (zero false).lt x = true ↔ ∃ m le, 0 < m ∧ x = signed false m le := by
  constructor
  · intro h
    cases x with
    | nan => contradiction
    | signed negative m le =>
      cases negative with
      | true =>
        simp [zero, lt, compare?, key?, Int.compare_eq_lt] at h
        omega
      | false => exact ⟨m, le, lt_signed_iff.mp h, rfl⟩
  · rintro ⟨m, le, hm, rfl⟩
    exact lt_signed_iff.mpr hm

theorem ofNat_le_iff {n : Nat} (hn : n < 2 ^ 53) :
    (ofNat n).le (signed false m le) = true ↔ n ≤ units m / unitsPerOne := by
  obtain ⟨m', le', hof, hunits⟩ := exists_ofNat hn
  rw [hof, le_signed_iff, ← strictMono_units.le_iff_le, hunits,
    Nat.le_div_iff_mul_le unitsPerOne_pos]

theorem lt_ofNat_iff {n : Nat} (hn : n < 2 ^ 53) :
    (signed false m le).lt (ofNat n) = true ↔ units m / unitsPerOne < n := by
  obtain ⟨m', le', hof, hunits⟩ := exists_ofNat hn
  rw [hof, lt_signed_iff, ← strictMono_units.lt_iff_lt, hunits,
    Nat.div_lt_iff_lt_mul unitsPerOne_pos]

end LineScript.Binary64
