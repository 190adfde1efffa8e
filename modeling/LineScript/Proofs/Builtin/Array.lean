import LineScript.Proofs.Binary64.Order
import LineScript.Proofs.Builtin.Mutation

/-!
The laws of the functions on arrays. `push` and `pop` undo each other, `insert` puts an element where its
index says (`IsPosition`, `Inserted`), `index_of`, `remove` and `has` speak of the same element
(`Located`), and `reverse` undoes itself. Positions are numbers exactly, since arrays have fewer than
`2 ^ 53` elements.
-/

namespace LineScript

open Container

/-! ## Pushing and popping -/

namespace Builtin

theorem push_yields (xs vs : List Value) :
    push.Yields (.array xs :: vs) (.array (xs ++ vs)) (some (.array (xs ++ vs))) :=
  fun _ _ _ => rfl

theorem pop_yields (xs : List Value) :
    pop.Yields [.array xs] (xs.getLastD .null) (some (.array xs.dropLast)) :=
  fun _ _ _ => rfl

theorem pop_push (xs : List Value) (v : Value) :
    pop.Yields [.array (xs ++ [v])] v (some (.array xs)) := by
  have h := pop_yields (xs ++ [v])
  rwa [List.getLastD_concat, List.dropLast_concat] at h

end Builtin

/-! ## Inserting -/

namespace Container

open Binary64

/-- The position in an array of `length` elements that the value `i` means. -/
structure IsPosition (i : Value) (length p : Nat) : Prop where
  le_length : p ≤ length
  /-- Without a positive numeric view it is the first one. -/
  first : (∀ x, i.toNumber? = some x → (zero false).lt x = false) → p = 0
  /-- A positive number is not below it, and is below the next one unless it is the end of the array. -/
  whole : ∀ x, i.toNumber? = some x → (zero false).lt x = true →
    (ofNat p).le x = true ∧ (p < length → x.lt (ofNat (p + 1)) = true)

/-- A positive number means its whole part. -/
theorem position_of_pos {i : Value} {m : Nat} {le : m ≤ 0x7FF0000000000000}
    (hi : i.toNumber? = some (.signed false m le)) (hm : 0 < m) {length : Nat}
    (hlength : length < 2 ^ 64) : position i length = min (units m / unitsPerOne) length := by
  have hpos : (zero false).lt (.signed false m le) = true := lt_signed_iff.mpr hm
  have hwhole : (Binary64.signed false m le).toNat 64 = min (units m / unitsPerOne) (2 ^ 64 - 1) := by
    simp only [Binary64.toNat, Binary64.toInt, Bool.false_eq_true, ↓reduceIte,
      show Nat.pow 2 64 = 2 ^ 64 from rfl]
    generalize units m / unitsPerOne = whole
    split
    · omega
    · split <;> omega
  simp only [position, hi, hpos, ↓reduceIte, hwhole]
  omega

theorem isPosition_position (i : Value) {length : Nat} (hlength : length < 2 ^ 53) :
    IsPosition i length (position i length) where
  le_length := by
    unfold position
    repeat' split
    all_goals omega
  first hno := by
    unfold position
    split
    · next x hx => rw [hno x hx, if_neg Bool.false_ne_true]
    · rfl
  whole x hx hpos := by
    obtain ⟨m, le, hm, rfl⟩ := zero_lt_iff.mp hpos
    rw [position_of_pos hx hm (by omega), ofNat_le_iff (by omega)]
    refine ⟨Nat.min_le_left _ _, fun hlt => ?_⟩
    rw [lt_ofNat_iff (by omega)]
    omega

/-- There is no other position that a value can mean. -/
theorem IsPosition.eq_position {i : Value} {length p : Nat} (h : IsPosition i length p)
    (hlength : length < 2 ^ 53) : p = position i length := by
  have hle := h.le_length
  by_cases hview : ∃ x, i.toNumber? = some x ∧ (zero false).lt x = true
  · obtain ⟨x, hx, hpos⟩ := hview
    obtain ⟨hbelow, habove⟩ := h.whole x hx hpos
    obtain ⟨m, le, hm, rfl⟩ := zero_lt_iff.mp hpos
    rw [ofNat_le_iff (by omega)] at hbelow
    rw [position_of_pos hx hm (by omega)]
    by_cases hlt : p < length
    · rw [lt_ofNat_iff (by omega)] at habove
      have hnext := habove hlt
      omega
    · omega
  · have hno : ∀ x, i.toNumber? = some x → (zero false).lt x = false := fun x hx =>
      Bool.eq_false_iff.mpr fun hpos => hview ⟨x, hx, hpos⟩
    rw [h.first hno, (isPosition_position i hlength).first hno]

/-- How the elements of an array differ from those before when `v` has been inserted at the index `i`. -/
structure Inserted (xs : List Value) (i v : Value) (after : List Value) (p : Nat) : Prop where
  isPosition : IsPosition i xs.length p
  length : after.length = xs.length + 1
  getElem? : after[p]? = some v
  eraseIdx : after.eraseIdx p = xs

theorem inserted_insertAt {xs : List Value} (hlength : xs.length < 2 ^ 53) (i v : Value) :
    Inserted xs i v (insertAt (position i xs.length) v xs) (position i xs.length) := by
  have hposition := isPosition_position i hlength
  generalize position i xs.length = p at *
  have hfront : (xs.take p).length = p := List.length_take_of_le hposition.le_length
  refine ⟨hposition, ?_, ?_, ?_⟩
  · simp [insertAt]
    omega
  · simp [insertAt, hfront]
  · rw [insertAt, List.eraseIdx_append_of_length_le (Nat.le_of_eq hfront), hfront, Nat.sub_self,
      List.eraseIdx_cons_zero, List.take_append_drop]

end Container

namespace Builtin

theorem insert_yields (xs : List Value) (i v : Value) :
    insert.Yields [.array xs, i, v] (.array (insertAt (position i xs.length) v xs))
      (some (.array (insertAt (position i xs.length) v xs))) :=
  fun _ _ _ => rfl

end Builtin

/-! ## Searching -/

namespace Binary64

theorem ofNat_ne_minus_one (n : Nat) : ofNat n ≠ ofInt (-1) := by
  intro h
  injection h with hsign
  cases hsign

end Binary64

namespace Container

open Binary64

/-- What the answer `n` of a search for `w` says about an array, and what is `left` of the array without
the element that was looked for. -/
structure Located (xs : List Value) (w : Value) (n : Binary64) (left : List Value) : Prop where
  /-- The answer -1 says that no element is equal. -/
  absent : n = .ofInt (-1) → left = xs ∧ ∀ x ∈ xs, (x == w) = false
  /-- Every other answer is the position of the first element that is. -/
  first : n ≠ .ofInt (-1) → ∃ (i : Nat) (hi : i < xs.length), (∀ k < 2 ^ 53, n = .ofNat k ↔ k = i) ∧
    left = xs.eraseIdx i ∧ (xs[i] == w) = true ∧ ∀ k, (hk : k < i) → (xs[k] == w) = false

theorem located_indexNumber {xs : List Value} (hlength : xs.length < 2 ^ 53) (w : Value) :
    Located xs w (indexNumber w xs) (removeFirst w xs) := by
  rw [indexNumber, removeFirst, List.eraseP_eq_eraseIdx]
  cases hfound : xs.findIdx? (· == w) with
  | none => exact ⟨fun _ => ⟨rfl, List.findIdx?_eq_none_iff.mp hfound⟩, fun h => absurd rfl h⟩
  | some i =>
    obtain ⟨hi, hequal, hbefore⟩ := List.findIdx?_eq_some_iff_getElem.mp hfound
    refine ⟨fun h => absurd h (ofNat_ne_minus_one i), fun _ => ⟨i, hi, fun k hk => ?_, rfl, hequal,
      fun k hk => Bool.eq_false_iff.mpr (hbefore k hk)⟩⟩
    exact ⟨fun h => (ofNat_inj (by omega) hk h).symm, fun h => by rw [h]⟩

theorem any_eq_decide (xs : List Value) (w : Value) :
    xs.any (· == w) = decide (indexNumber w xs ≠ .ofInt (-1)) := by
  rw [indexNumber]
  cases hfound : xs.findIdx? (· == w) with
  | none => simpa using List.findIdx?_eq_none_iff.mp hfound
  | some i =>
    obtain ⟨hi, hequal, -⟩ := List.findIdx?_eq_some_iff_getElem.mp hfound
    rw [decide_eq_true (ofNat_ne_minus_one i), List.any_eq_true]
    exact ⟨xs[i], List.getElem_mem hi, hequal⟩

end Container

namespace Builtin

theorem indexOf_yields (xs : List Value) (w : Value) :
    indexOf.Yields [.array xs, w] (.num (indexNumber w xs)) none :=
  fun _ _ _ => rfl

theorem remove_yields (xs : List Value) (w : Value) :
    remove.Yields [.array xs, w] (.array (removeFirst w xs)) (some (.array (removeFirst w xs))) :=
  fun _ _ _ => rfl

theorem has_yields_array (xs : List Value) (w : Value) :
    has.Yields [.array xs, w] (.bool (decide (indexNumber w xs ≠ .ofInt (-1)))) none := by
  rw [← any_eq_decide]
  exact fun _ _ _ => rfl

theorem reverse_yields (xs : List Value) :
    reverse.Yields [.array xs] (.array xs.reverse) none :=
  fun _ _ _ => rfl

/-- The laws of arrays. What `push`, `insert` and `remove` hand back is what they answer; `pop` hands back
the array without the element that it answers. -/
theorem array_laws {xs : List Value} (hlength : xs.length < 2 ^ 53) :
    (∀ vs, push.Yields (.array xs :: vs) (.array (xs ++ vs)) (some (.array (xs ++ vs)))) ∧
      (pop.Yields [.array xs] (xs.getLastD .null) (some (.array xs.dropLast)) ∧
        ∀ v, ∃ pushed, push.Yields [.array xs, v] (.array pushed) (some (.array pushed)) ∧
          pop.Yields [.array pushed] v (some (.array xs))) ∧
      (∀ i v, ∃ after p,
        insert.Yields [.array xs, i, v] (.array after) (some (.array after)) ∧
          Inserted xs i v after p) ∧
      (∀ w, ∃ n left, indexOf.Yields [.array xs, w] (.num n) none ∧
        remove.Yields [.array xs, w] (.array left) (some (.array left)) ∧
        has.Yields [.array xs, w] (.bool (decide (n ≠ .ofInt (-1)))) none ∧
        Located xs w n left) ∧
      ∃ turned, reverse.Yields [.array xs] (.array turned) none ∧
        reverse.Yields [.array turned] (.array xs) none := by
  refine ⟨push_yields xs, ⟨pop_yields xs, fun v => ⟨_, push_yields xs [v], pop_push xs v⟩⟩,
    fun i v => ⟨_, _, insert_yields xs i v, inserted_insertAt hlength i v⟩,
    fun w => ⟨_, _, indexOf_yields xs w, remove_yields xs w, has_yields_array xs w,
      located_indexNumber hlength w⟩,
    _, reverse_yields xs, ?_⟩
  have hback := reverse_yields xs.reverse
  rwa [List.reverse_reverse] at hback

/-- The text `1.5` is the index 1, and of two ones the first is found and removed. -/
theorem array_laws_text_index :
    let one := Value.num (.ofNat 1)
    let word := Value.str "b".toList
    let xs := [word, one, one]
    let index := Value.str "1.5".toList
    xs.length < 2 ^ 53 ∧
      (∃ after, insert.Yields [.array xs, index, .null] (.array after) (some (.array after)) ∧
        after[1]? = some .null ∧ after.eraseIdx 1 = xs) ∧
      indexOf.Yields [.array xs, one] (.num (.ofNat 1)) none ∧
      remove.Yields [.array xs, one] (.array [word, one]) (some (.array [word, one])) ∧
      has.Yields [.array xs, one] (.bool true) none := by
  intro one word xs index
  have hlength : xs.length < 2 ^ 53 := by decide
  obtain ⟨-, -, hinsert, hsearch, -⟩ := array_laws hlength
  refine ⟨hlength, ?_, ?_⟩
  · obtain ⟨after, p, hyields, hinserted⟩ := hinsert index .null
    have hposition : position index xs.length = 1 := by decide +kernel
    obtain rfl : p = 1 := (hinserted.isPosition.eq_position hlength).trans hposition
    exact ⟨after, hyields, hinserted.getElem?, hinserted.eraseIdx⟩
  · obtain ⟨n, left, hindex, hremove, hhas, hlocated⟩ := hsearch one
    have hn : n ≠ .ofInt (-1) := fun h =>
      absurd ((hlocated.absent h).2 one (by simp [xs])) (by decide +kernel)
    obtain ⟨i, hi, hnumber, hleft, hequal, hbefore⟩ := hlocated.first hn
    have hi : i = 1 := by
      have hthree : i < 3 := hi
      obtain rfl | rfl | rfl : i = 0 ∨ i = 1 ∨ i = 2 := by omega
      · exact absurd hequal (show (word == one) ≠ true by decide +kernel)
      · rfl
      · exact absurd (hbefore 1 (by decide)) (show (one == one) ≠ false by decide +kernel)
    subst hi
    rw [decide_eq_true hn] at hhas
    rw [(hnumber 1 (by decide)).mpr rfl] at hindex
    subst hleft
    exact ⟨hindex, hremove, hhas⟩

end Builtin

end LineScript
