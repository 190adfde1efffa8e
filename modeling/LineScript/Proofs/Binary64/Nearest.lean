import Mathlib.Algebra.Group.Nat.Defs
import LineScript.Binary64.Decimal

/-!
What rounding to the nearest number does to a quotient that is exactly a number, to one beyond all
numbers, and to one nearer to zero than to any other. From this the number of a decimal value can be
told by its magnitude alone: where the magnitude nearest to the value is finite and not zero, the
bounds on the place of its first digit play no part (`ofDecimal_eq`).
-/

namespace LineScript.Binary64

/-! ## Rounding a quotient -/

theorem roundQuotient_mul (q : Nat) {den : Nat} (h : 0 < den) :
    roundQuotient (q * den) den = q := by
  simp [roundQuotient, Nat.mul_div_cancel q h, h]

theorem le_roundQuotient (num den : Nat) : num / den ≤ roundQuotient num den := by
  simp only [roundQuotient]
  split
  · omega
  · split
    · omega
    · split <;> omega

/-! ## The nearest magnitude -/

theorem units_of_lt {m : Nat} (h : m < 2 * binade) : units m = m := if_pos h

theorem units_of_le {m : Nat} (h : 2 * binade ≤ m) :
    units m = (binade + m % binade) * 2 ^ (m / binade - 1) := if_neg (Nat.not_lt.mpr h)

/-- What the units of a magnitude have beyond 53 binary digits is as many zeros as there are binades
below the magnitude, the first two apart. -/
theorem log2_units_sub (m : Nat) : Nat.log2 (units m) - 52 = m / binade - 1 := by
  by_cases h : m < 2 * binade
  · have hshift : m / binade - 1 = 0 := by
      unfold binade at *
      omega
    rw [units_of_lt h, hshift]
    by_cases hm : m = 0
    · subst hm
      rfl
    · have hlog : Nat.log2 m < 53 := (Nat.log2_lt hm).mpr h
      omega
  · have hpos : 0 < 2 ^ (m / binade - 1) := Nat.two_pow_pos _
    have hlow : 2 ^ 52 ≤ binade + m % binade := Nat.le_add_right _ _
    have hhigh : binade + m % binade < 2 ^ 53 := Nat.add_lt_add_left (Nat.mod_lt m (by decide)) _
    have hlog : Nat.log2 ((binade + m % binade) * 2 ^ (m / binade - 1)) =
        52 + (m / binade - 1) := by
      rw [Nat.log2_eq_iff (Nat.mul_ne_zero (by omega) (by omega))]
      constructor
      · rw [Nat.pow_add]
        exact Nat.mul_le_mul_right _ hlow
      · rw [Nat.add_right_comm, Nat.pow_add]
        exact Nat.mul_lt_mul_of_pos_right hhigh hpos
    rw [units_of_le (Nat.le_of_not_lt h), hlog, Nat.add_sub_cancel_left]

/-- A magnitude is the nearest to the value that it stands for. -/
theorem nearestMagnitude_units (m : Nat) {den : Nat} (h : 0 < den) :
    nearestMagnitude (units m * den) den = m := by
  simp only [nearestMagnitude, Nat.mul_div_cancel _ h, log2_units_sub, Nat.pow_eq]
  -- In the first two binades a magnitude is its own units. Beyond them the units are the significand
  -- with zeros behind it, and the quotient that is rounded is the significand itself.
  by_cases hm : m < 2 * binade
  · have hshift : m / binade - 1 = 0 := by
      unfold binade at *
      omega
    rw [units_of_lt hm, hshift, Nat.pow_zero, Nat.mul_one, roundQuotient_mul _ h, Nat.zero_mul,
      Nat.zero_add]
  · have hpos : 0 < den * 2 ^ (m / binade - 1) := Nat.mul_pos h (Nat.two_pow_pos _)
    have hscale : units m * den = (binade + m % binade) * (den * 2 ^ (m / binade - 1)) := by
      rw [units_of_le (Nat.le_of_not_lt hm)]
      ac_rfl
    rw [hscale, roundQuotient_mul _ hpos]
    unfold binade at *
    omega

/-- The first value too great to be finite is `2 ^ 2098` units. -/
theorem infinityMagnitude_le_nearestMagnitude {num den k : Nat} (hden : 0 < den) (hk : 2098 ≤ k)
    (h : 2 ^ k * den ≤ num) : infinityMagnitude ≤ nearestMagnitude num den := by
  have hq : 2 ^ k ≤ num / den := (Nat.le_div_iff_mul_le hden).mpr h
  have hne : num / den ≠ 0 := Nat.ne_of_gt (Nat.lt_of_lt_of_le (Nat.two_pow_pos k) hq)
  have hlog : k ≤ Nat.log2 (num / den) := (Nat.le_log2 hne).mpr hq
  have hself : 2 ^ Nat.log2 (num / den) ≤ num / den := Nat.log2_self_le hne
  simp only [nearestMagnitude, Nat.pow_eq]
  generalize hshift : Nat.log2 (num / den) - 52 = shift
  -- The significand has 53 binary digits, and the shift alone makes 2046 binades.
  have hsig : 2 ^ 52 ≤ num / (den * 2 ^ shift) := by
    rw [← Nat.div_div_eq_div_mul, Nat.le_div_iff_mul_le (Nat.two_pow_pos _), ← Nat.pow_add,
      show 52 + shift = Nat.log2 (num / den) from by omega]
    exact hself
  have hround := le_roundQuotient num (den * 2 ^ shift)
  have hshift' : 2046 * binade ≤ shift * binade := Nat.mul_le_mul_right _ (by omega)
  have hinfinity : infinityMagnitude = 2046 * binade + 2 ^ 52 := by decide
  omega

theorem nearestMagnitude_eq_zero {num den : Nat} (h : 2 * num < den) :
    nearestMagnitude num den = 0 := by
  have hlt : num < den := by omega
  have hdiv : num / den = 0 := Nat.div_eq_of_lt hlt
  simp only [nearestMagnitude, hdiv, Nat.log2_zero]
  simp [roundQuotient, hdiv, Nat.mod_eq_of_lt hlt, h]

/-! ## Decimal values -/

theorem lt_pow_length_ofNat (n : Nat) : n < 10 ^ (Text.ofNat n).length :=
  (Nat.length_toDigits_le_iff (by decide) Nat.length_toDigits_pos).mp (Nat.le_refl _)

theorem le_pow_ten {n i j : Nat} (h : n ≤ 10 ^ i) (hle : i ≤ j) : n ≤ 10 ^ j :=
  Nat.le_trans h (Nat.pow_le_pow_right (by decide) hle)

theorem pow_length_ofNat_le {n : Nat} (h : n ≠ 0) : 10 ^ ((Text.ofNat n).length - 1) ≤ n := by
  by_cases hone : (Text.ofNat n).length - 1 = 0
  · rw [hone]
    omega
  · apply Nat.le_of_not_lt
    intro hlt
    have hle : (Text.ofNat n).length ≤ (Text.ofNat n).length - 1 :=
      (Nat.length_toDigits_le_iff (by decide) (by omega)).mpr hlt
    omega

/-- The magnitude nearest to a decimal value as one quotient. -/
theorem magnitudeOfDecimal_eq (digits : Nat) (exponent : Int) :
    magnitudeOfDecimal digits exponent =
      nearestMagnitude (digits * 10 ^ exponent.toNat * unitsPerOne) (10 ^ (-exponent).toNat) := by
  by_cases h : 0 ≤ exponent
  · rw [magnitudeOfDecimal, if_pos h, show (-exponent).toNat = 0 from by omega]
    rfl
  · rw [magnitudeOfDecimal, if_neg h, show exponent.toNat = 0 from by omega, Nat.pow_zero,
      Nat.mul_one]
    rfl

/-- Below `10 ^ -330` every decimal value is nearest to zero. -/
theorem magnitudeOfDecimal_of_place_lt {d : Decimal} (h : d.place < -330) :
    magnitudeOfDecimal d.digits d.exponent = 0 := by
  have hunit : 2 * unitsPerOne ≤ 10 ^ 331 := by decide +kernel
  have hdigits := lt_pow_length_ofNat d.digits
  simp only [Decimal.place] at h
  -- There are `k` zeros between the point and the digits, and the digits make less than one.
  obtain ⟨k, hk⟩ : ∃ k, (-d.exponent).toNat = (Text.ofNat d.digits).length + k :=
    Nat.exists_eq_add_of_le (by omega)
  have hle : 331 ≤ k := by omega
  have hpow : 2 * unitsPerOne ≤ 10 ^ k := le_pow_ten hunit hle
  rw [magnitudeOfDecimal_eq, show d.exponent.toNat = 0 from by omega, Nat.pow_zero, Nat.mul_one, hk]
  apply nearestMagnitude_eq_zero
  generalize unitsPerOne = unit at hpow
  calc 2 * (d.digits * unit) = d.digits * (2 * unit) := Nat.mul_left_comm ..
    _ ≤ d.digits * 10 ^ k := Nat.mul_le_mul_left _ hpow
    _ < 10 ^ (Text.ofNat d.digits).length * 10 ^ k :=
      Nat.mul_lt_mul_of_pos_right hdigits (Nat.pow_pos (by decide))
    _ = 10 ^ ((Text.ofNat d.digits).length + k) := (Nat.pow_add ..).symm

/-- From `10 ^ 310` on no decimal value is nearest to a finite number. -/
theorem magnitudeOfDecimal_of_lt_place {d : Decimal} (hd : d.digits ≠ 0) (h : 310 < d.place) :
    infinityMagnitude ≤ magnitudeOfDecimal d.digits d.exponent := by
  have hinfinity : 2 ^ 1024 ≤ 10 ^ 310 := by decide +kernel
  have hunits : 2 ^ 2098 = 2 ^ 1024 * unitsPerOne := by decide +kernel
  have hdigits := pow_length_ofNat_le hd
  simp only [Decimal.place] at h
  rw [magnitudeOfDecimal_eq]
  apply infinityMagnitude_le_nearestMagnitude (Nat.pow_pos (by decide)) (Nat.le_refl 2098)
  generalize hk : (-d.exponent).toNat = k
  generalize he : d.exponent.toNat = e
  -- The first digit stands at `10 ^ j`, and it is not zero.
  obtain ⟨j, hj⟩ : ∃ j, (Text.ofNat d.digits).length - 1 + e = k + j :=
    Nat.exists_eq_add_of_le (by omega)
  have hle : 310 ≤ j := by omega
  have hpow : 2 ^ 1024 ≤ 10 ^ j := le_pow_ten hinfinity hle
  rw [hunits]
  generalize unitsPerOne = unit
  generalize 2 ^ 1024 = least at hpow
  calc least * unit * 10 ^ k ≤ 10 ^ j * unit * 10 ^ k :=
        Nat.mul_le_mul_right _ (Nat.mul_le_mul_right _ hpow)
    _ = 10 ^ (k + j) * unit := by
      rw [Nat.pow_add]
      ac_rfl
    _ = 10 ^ ((Text.ofNat d.digits).length - 1) * 10 ^ e * unit := by rw [← hj, Nat.pow_add]
    _ ≤ d.digits * 10 ^ e * unit := Nat.mul_le_mul_right _ (Nat.mul_le_mul_right _ hdigits)

/-- Where the nearest magnitude is finite and not zero, the number has it. -/
theorem ofDecimal_eq {d : Decimal} {magnitude : Nat} (hm : magnitude ≠ 0)
    (hlt : magnitude < infinityMagnitude)
    (h : magnitudeOfDecimal d.digits d.exponent = magnitude) :
    ofDecimal d = ofMagnitude d.negative magnitude := by
  have hzero : d.digits ≠ 0 := by
    intro hz
    have hnear : magnitudeOfDecimal d.digits d.exponent = 0 := by
      rw [magnitudeOfDecimal_eq, hz]
      apply nearestMagnitude_eq_zero
      rw [Nat.zero_mul, Nat.zero_mul, Nat.mul_zero]
      exact Nat.pow_pos (by decide)
    omega
  have hhigh : ¬ 310 < d.place := by
    intro hp
    have hinf := magnitudeOfDecimal_of_lt_place hzero hp
    omega
  have hlow : ¬ d.place < -330 := by
    intro hp
    have hnear := magnitudeOfDecimal_of_place_lt hp
    omega
  rw [ofDecimal, if_neg hzero, if_neg hhigh, if_neg hlow, h]

end LineScript.Binary64
