import LineScript.Value.Display

/-!
What sorting can rely on in the order of values. Comparing the other way round turns the answer round
(`compare_swap`). Numbers are ordered among themselves, and so are all other values by their texts, a
single number among them; but two numbers need not be in the order of their texts, and then a value whose
text lies between them has no place beside the two (`Unsettles`). The order of some values is a consistent
one exactly when none of them does this to two others (`compare_consistent`).
-/

namespace LineScript

open Text

/-! ## Numbers -/

namespace Binary64

/-- Numbers that are equal have the same text: only the sign of a zero makes a difference, and it is not
shown. -/
theorem text_eq_of_key? {x y : Binary64} {k : Int} (hx : x.key? = some k) (hy : y.key? = some k) :
    x.text = y.text := by
  cases x with
  | nan => cases hx
  | signed s m _ =>
    cases y with
    | nan => cases hy
    | signed t m' _ =>
      simp only [key?, Option.some.injEq] at hx hy
      by_cases hm : m = 0
      · have hm' : m' = 0 := by
          cases s <;> cases t <;> simp at hx hy <;> omega
        simp [text, hm, hm']
      · obtain ⟨rfl, rfl⟩ : m = m' ∧ s = t := by
          cases s <;> cases t <;> simp at hx hy ⊢ <;> omega
        rfl

theorem ofNat_ne_nan (n : Nat) : ofNat n ≠ nan := nofun

end Binary64

namespace Value

/-! ## Comparing two values -/

/-- The place of a number among the numbers. -/
def place? : Value → Option Int
  | num x => x.key?
  | _ => none

/-- Values that are not both numbers compare as their texts. -/
theorem compare_texts {a b : Value} (h : a.kind ≠ .number ∨ b.kind ≠ .number) :
    a.compare b = compareOfLessAndEq a.display b.display := by
  cases a <;> cases b <;> first | rfl | simp [kind] at h

/-- Numbers compare as their places. -/
theorem compare_places {a b : Value} {i j : Int} (ha : a.place? = some i) (hb : b.place? = some j) :
    a.compare b = Ord.compare i j := by
  cases a with
  | num x =>
    cases b with
    | num y =>
      simp only [place?] at ha hb
      simp [compare, Binary64.compare?, ha, hb]
    | _ => cases hb
  | _ => cases ha

theorem exists_place {v : Value} (h : v ≠ num .nan) (hkind : v.kind = .number) :
    ∃ i, v.place? = some i := by
  cases v with
  | num x =>
    cases x with
    | nan => contradiction
    | signed => exact ⟨_, rfl⟩
  | _ => cases hkind

theorem display_eq_of_place? {a b : Value} {i : Int} (ha : a.place? = some i)
    (hb : b.place? = some i) : a.display = b.display := by
  cases a with
  | num x =>
    cases b with
    | num y => exact Binary64.text_eq_of_key? ha hb
    | _ => cases hb
  | _ => cases ha

/-- Comparing the other way round turns the answer round, whatever the values; a NaN is no exception. -/
theorem compare_swap (a b : Value) : b.compare a = (a.compare b).swap := by
  by_cases h : a.kind ≠ .number ∨ b.kind ≠ .number
  · rw [compare_texts h, compare_texts h.symm]
    exact @compareOfLessAndEq_eq_swap Text _ List.instLE _ _ List.le_antisymm List.le_total
      List.not_le _ _
  · cases a with
    | num x =>
      cases b with
      | num y =>
        cases hx : x.key? <;> cases hy : y.key? <;>
          simp [compare, Binary64.compare?, hx, hy, Int.compare_swap]
      | _ => simp [kind] at h
    | _ => simp [kind] at h

theorem compare_ne_gt_texts {a b : Value} (h : a.kind ≠ .number ∨ b.kind ≠ .number) :
    a.compare b ≠ .gt ↔ precedes a.display b.display = true := by
  rw [compare_swap b a, Ne, Ordering.swap_eq_gt, compare_texts h.symm, compareOfLessAndEq_eq_lt,
    precedes_iff]

theorem compare_ne_gt_places {a b : Value} {i j : Int} (ha : a.place? = some i)
    (hb : b.place? = some j) : a.compare b ≠ .gt ↔ i ≤ j := by
  rw [compare_places ha hb, Ne, Int.compare_eq_gt, Int.not_lt]

/-! ## Comparing three values -/

/-- Two numbers are not in the order of their texts, and the text of a value that is no number does not
lie outside the two texts. The text of the greater number is not behind that of the value, and the text
of the value not behind that of the lesser number, but the numbers compare as they do. -/
structure Unsettles (v lesser greater : Value) : Prop where
  kind_ne : v.kind ≠ .number
  kind_lesser : lesser.kind = .number
  kind_greater : greater.kind = .number
  lt : lesser.compare greater = .lt
  from_greater : precedes greater.display v.display = true
  to_lesser : precedes v.display lesser.display = true

instance (v lesser greater : Value) : Decidable (Unsettles v lesser greater) :=
  decidable_of_iff
    (v.kind ≠ .number ∧ lesser.kind = .number ∧ greater.kind = .number ∧
      lesser.compare greater = .lt ∧ precedes greater.display v.display = true ∧
      precedes v.display lesser.display = true)
    ⟨fun ⟨h₁, h₂, h₃, h₄, h₅, h₆⟩ => ⟨h₁, h₂, h₃, h₄, h₅, h₆⟩,
      fun ⟨h₁, h₂, h₃, h₄, h₅, h₆⟩ => ⟨h₁, h₂, h₃, h₄, h₅, h₆⟩⟩

variable {a b c x y v : Value}

/-- A value that unsettles two numbers is neither below the lesser nor above the greater one, though the
greater is not below it and the lesser not above it. -/
theorem Unsettles.compare (h : Unsettles v x y) :
    y.compare v ≠ .gt ∧ v.compare x ≠ .gt ∧ y.compare x = .gt := by
  refine ⟨(compare_ne_gt_texts (Or.inr h.kind_ne)).mpr h.from_greater,
    (compare_ne_gt_texts (Or.inl h.kind_ne)).mpr h.to_lesser, ?_⟩
  rw [compare_swap x y, h.lt]
  rfl

/-- Where a value does not unsettle two numbers, its text lies between theirs the wrong way round only if
these are the same. -/
theorem display_eq_of_not_unsettles (hx : x ≠ num .nan) (hy : y ≠ num .nan)
    (hkx : x.kind = .number) (hky : y.kind = .number) (hkv : v.kind ≠ .number)
    (hno : ¬ Unsettles v x y) (hxy : x.compare y ≠ .gt)
    (hyv : precedes y.display v.display = true) (hvx : precedes v.display x.display = true) :
    x.display = y.display := by
  obtain ⟨i, hi⟩ := exists_place hx hkx
  obtain ⟨j, hj⟩ := exists_place hy hky
  cases hcompare : x.compare y with
  | lt => exact absurd ⟨hkv, hkx, hky, hcompare, hyv, hvx⟩ hno
  | eq =>
    rw [compare_places hi hj, Int.compare_eq_eq] at hcompare
    exact display_eq_of_place? hi (hcompare ▸ hj)
  | gt => exact absurd hcompare hxy

/-- The order of three values is transitive where none of them unsettles the two others. -/
theorem compare_trans (ha : a ≠ num .nan) (hb : b ≠ num .nan) (hc : c ≠ num .nan)
    (hnoa : ¬ Unsettles a b c) (hnob : ¬ Unsettles b c a) (hnoc : ¬ Unsettles c a b)
    (hab : a.compare b ≠ .gt) (hbc : b.compare c ≠ .gt) : a.compare c ≠ .gt := by
  -- Where no two of the values are numbers, all texts are compared.
  have htexts (h₁ : a.kind ≠ .number ∨ b.kind ≠ .number) (h₂ : b.kind ≠ .number ∨ c.kind ≠ .number)
      (h₃ : a.kind ≠ .number ∨ c.kind ≠ .number) : a.compare c ≠ .gt := by
    rw [compare_ne_gt_texts h₁] at hab
    rw [compare_ne_gt_texts h₂] at hbc
    rw [compare_ne_gt_texts h₃]
    exact precedes_trans _ _ _ hab hbc
  by_cases hka : a.kind = .number
  · by_cases hkb : b.kind = .number
    · by_cases hkc : c.kind = .number
      · obtain ⟨i, hi⟩ := exists_place ha hka
        obtain ⟨j, hj⟩ := exists_place hb hkb
        obtain ⟨k, hk⟩ := exists_place hc hkc
        rw [compare_ne_gt_places hi hj] at hab
        rw [compare_ne_gt_places hj hk] at hbc
        rw [compare_ne_gt_places hi hk]
        exact Int.le_trans hab hbc
      · -- The text of `c` is not before that of `b`; if it were before that of `a`, it would lie between.
        rw [compare_ne_gt_texts (Or.inr hkc)] at hbc ⊢
        rcases Bool.or_eq_true_iff.mp (precedes_total a.display c.display) with hac | hca
        · exact hac
        · rwa [display_eq_of_not_unsettles ha hb hka hkb hkc hnoc hab hbc hca]
    · by_cases hkc : c.kind = .number
      · -- The text of `b` lies between; were `c` the lesser number, it would lie the wrong way round.
        intro hgt
        have hca : c.compare a = .lt := by rw [compare_swap a c, hgt]; rfl
        rw [compare_ne_gt_texts (Or.inr hkb)] at hab
        rw [compare_ne_gt_texts (Or.inl hkb)] at hbc
        exact hnob ⟨hkb, hkc, hka, hca, hab, hbc⟩
      · exact htexts (Or.inr hkb) (Or.inl hkb) (Or.inr hkc)
  · by_cases hkb : b.kind = .number
    · by_cases hkc : c.kind = .number
      · rw [compare_ne_gt_texts (Or.inl hka)] at hab ⊢
        rcases Bool.or_eq_true_iff.mp (precedes_total a.display c.display) with hac | hca
        · exact hac
        · rwa [← display_eq_of_not_unsettles hb hc hkb hkc hka hnoa hbc hca hab]
      · exact htexts (Or.inl hka) (Or.inr hkc) (Or.inl hka)
    · exact htexts (Or.inl hka) (Or.inl hkb) (Or.inl hka)

/-- Where the order of the values is transitive, values that compare as equal compare alike with any
other. -/
theorem compare_congr {vs : List Value}
    (htrans : ∀ a ∈ vs, ∀ b ∈ vs, ∀ c ∈ vs, a.compare b ≠ .gt → b.compare c ≠ .gt →
      a.compare c ≠ .gt)
    (ha : a ∈ vs) (hb : b ∈ vs) (hc : c ∈ vs) (hab : a.compare b = .eq) :
    a.compare c = b.compare c := by
  have hba : b.compare a = .eq := by rw [compare_swap a b, hab]; rfl
  have h₁ := htrans a ha b hb c hc (by simp [hab])
  have h₂ := htrans b hb a ha c hc (by simp [hba])
  have h₃ := fun h => htrans c hc a ha b hb h (by simp [hab])
  have h₄ := fun h => htrans c hc b hb a ha h (by simp [hba])
  rw [compare_swap a c, compare_swap b c] at *
  cases hac : a.compare c <;> cases hbc : b.compare c <;> simp_all

/-- What sorting can rely on in the order of values. Comparing the other way round turns the answer
round. Of values other than NaN the order is transitive, and those that compare as equal compare alike
with every other, exactly when none of them is no number and lies, by its text, between the texts of two
of the numbers that are not in the order of their texts. -/
theorem compare_consistent (vs : List Value) (hnan : ∀ v ∈ vs, v ≠ num .nan) :
    (∀ a b : Value, b.compare a = (a.compare b).swap) ∧
      ((∀ a ∈ vs, ∀ b ∈ vs, ∀ c ∈ vs,
          (a.compare b ≠ .gt → b.compare c ≠ .gt → a.compare c ≠ .gt) ∧
            (a.compare b = .eq → a.compare c = b.compare c)) ↔
        ∀ v ∈ vs, ∀ lesser ∈ vs, ∀ greater ∈ vs, ¬ Unsettles v lesser greater) := by
  refine ⟨compare_swap, ?_, fun hno => ?_⟩
  · intro hlaws v hv lesser hlesser greater hgreater hunsettles
    obtain ⟨hfirst, hsecond, hthird⟩ := hunsettles.compare
    exact (hlaws greater hgreater v hv lesser hlesser).1 hfirst hsecond hthird
  · have htrans : ∀ a ∈ vs, ∀ b ∈ vs, ∀ c ∈ vs, a.compare b ≠ .gt → b.compare c ≠ .gt →
        a.compare c ≠ .gt := fun a ha b hb c hc =>
      compare_trans (hnan a ha) (hnan b hb) (hnan c hc) (hno a ha b hb c hc) (hno b hb c hc a ha)
        (hno c hc a ha b hb)
    exact fun a ha b hb c hc => ⟨htrans a ha b hb c hc, compare_congr htrans ha hb hc⟩

/-- Nine and ten, which are not in the order of their texts, and a text behind both of these: the order is
a consistent one, so nine, which is below ten, is below the text. -/
theorem compare_consistent_behind :
    let nine := num (.ofNat 9)
    let ten := num (.ofNat 10)
    let word := str "abc".toList
    let vs := [nine, ten, word]
    (∀ v ∈ vs, v ≠ num .nan) ∧
      (∀ v ∈ vs, ∀ lesser ∈ vs, ∀ greater ∈ vs, ¬ Unsettles v lesser greater) ∧
      ten.display < nine.display ∧ nine.compare ten ≠ .gt ∧ ten.compare word ≠ .gt ∧
      nine.compare word ≠ .gt ∧ word.compare nine = (nine.compare word).swap := by
  intro nine ten word vs
  have hnan : ∀ v ∈ vs, v ≠ num .nan := by simp [vs, nine, ten, word, Binary64.ofNat_ne_nan]
  have hno : ∀ v ∈ vs, ∀ lesser ∈ vs, ∀ greater ∈ vs, ¬ Unsettles v lesser greater := by
    decide +kernel
  obtain ⟨hswap, hiff⟩ := compare_consistent vs hnan
  have hfirst : nine.compare ten ≠ .gt := by decide +kernel
  have hsecond : ten.compare word ≠ .gt := by decide +kernel
  exact ⟨hnan, hno, by decide +kernel, hfirst, hsecond,
    (hiff.mpr hno nine (by simp [vs]) ten (by simp [vs]) word (by simp [vs])).1 hfirst hsecond,
    hswap nine word⟩

/-- Two is below ten and ten below a text that begins with a one, but two is above that text. -/
theorem compare_not_transitive :
    let two := num (.ofNat 2)
    let ten := num (.ofNat 10)
    let word := str "1x".toList
    two ≠ num .nan ∧ ten ≠ num .nan ∧ word ≠ num .nan ∧
      two.compare ten ≠ .gt ∧ ten.compare word ≠ .gt ∧ two.compare word = .gt := by
  intro two ten word
  refine ⟨by simp [two, Binary64.ofNat_ne_nan], by simp [ten, Binary64.ofNat_ne_nan],
    by simp [word], ?_⟩
  decide +kernel

end Value

end LineScript
