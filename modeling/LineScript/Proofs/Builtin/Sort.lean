import LineScript.Proofs.Builtin.Mutation
import LineScript.Proofs.Value.Order

/-!
What `sort` makes of an array. Numbers other than NaN have a transitive order, and so have values of which
none is a number (`Comparable.ordered`). There the elements in order are a stable sort of the array
(`isStableSort_sorted`), and it has no other (`IsStableSort.unique`), so nothing is left to the way in which
they are sorted. An array in order is its own stable sort.
-/

namespace LineScript

/-! ## Values in order -/

namespace Value

/-- Values that sorting can rely on: numbers other than NaN, or values of which none is a number. -/
def Comparable (vs : List Value) : Prop :=
  (∀ v ∈ vs, v.kind = .number ∧ v ≠ num .nan) ∨ ∀ v ∈ vs, v.kind ≠ .number

/-- The order of the values is transitive. -/
def Ordered (vs : List Value) : Prop :=
  ∀ a ∈ vs, ∀ b ∈ vs, ∀ c ∈ vs, a.compare b ≠ .gt → b.compare c ≠ .gt → a.compare c ≠ .gt

variable {vs : List Value}

/-- Only a value that is no number unsettles others, and only numbers are unsettled. -/
theorem Comparable.not_unsettles (h : Comparable vs) {v lesser greater : Value} (hv : v ∈ vs)
    (hlesser : lesser ∈ vs) : ¬ Unsettles v lesser greater := by
  intro hunsettles
  rcases h with hnumbers | hothers
  · exact hunsettles.kind_ne (hnumbers v hv).1
  · exact hothers lesser hlesser hunsettles.kind_lesser

theorem Comparable.ne_nan (h : Comparable vs) {v : Value} (hv : v ∈ vs) : v ≠ num .nan := by
  rcases h with hnumbers | hothers
  · exact (hnumbers v hv).2
  · rintro rfl
    exact hothers _ hv rfl

theorem Comparable.ordered (h : Comparable vs) : Ordered vs := fun _ ha _ hb _ hc =>
  compare_trans (h.ne_nan ha) (h.ne_nan hb) (h.ne_nan hc) (h.not_unsettles ha hb)
    (h.not_unsettles hb hc) (h.not_unsettles hc ha)

theorem compare_self (v : Value) : v.compare v = .eq := by
  have hswap := compare_swap v v
  cases h : v.compare v <;> simp [h] at hswap ⊢

/-- Of two values at least one does not come after the other. -/
theorem compare_total (a b : Value) : a.compare b ≠ .gt ∨ b.compare a ≠ .gt := by
  rw [compare_swap a b]
  cases a.compare b <;> simp

end Value

/-! ## Stable sorts -/

namespace Container

open Value

/-- Whether an element compares as equal to `v`. -/
def isAlike (v a : Value) : Bool := a.compare v == .eq

theorem isAlike_iff {v a : Value} : isAlike v a = true ↔ a.compare v = .eq := beq_iff_eq

theorem isAlike_self (v : Value) : isAlike v v = true := isAlike_iff.mpr (compare_self v)

/-- The elements of an array in order: none comes after one that stands behind it, and those that
compare as equal stand as they stood before. -/
structure IsStableSort (xs ys : List Value) : Prop where
  perm : ys.Perm xs
  ordered : ys.Pairwise fun a b => a.compare b ≠ .gt
  filter_isAlike : ∀ v ∈ xs, ys.filter (isAlike v) = xs.filter (isAlike v)

variable {xs ys zs : List Value}

/-- The first elements of two arrays in order that have the same elements compare as equal. -/
theorem isAlike_of_perm {y z : Value} (hperm : (z :: zs).Perm (y :: ys))
    (hy : (y :: ys).Pairwise fun a b => a.compare b ≠ .gt)
    (hz : (z :: zs).Pairwise fun a b => a.compare b ≠ .gt) : isAlike y z = true := by
  rcases List.mem_cons.mp (hperm.mem_iff.mp List.mem_cons_self) with heq | hzys
  · rw [heq, isAlike_self]
  rcases List.mem_cons.mp (hperm.mem_iff.mpr List.mem_cons_self) with heq | hyzs
  · rw [heq, isAlike_self]
  have hyz : y.compare z ≠ .gt := List.rel_of_pairwise_cons hy hzys
  have hzy : z.compare y ≠ .gt := List.rel_of_pairwise_cons hz hyzs
  rw [compare_swap z y] at hyz
  rw [isAlike_iff]
  cases hcompare : z.compare y <;> simp [hcompare] at hyz hzy ⊢

/-- Two arrays in order with the same elements, where elements that compare as equal stand alike, are the
same. -/
theorem eq_of_filter_isAlike (hperm : zs.Perm ys)
    (hy : ys.Pairwise fun a b => a.compare b ≠ .gt) (hz : zs.Pairwise fun a b => a.compare b ≠ .gt)
    (halike : ∀ v ∈ ys, zs.filter (isAlike v) = ys.filter (isAlike v)) : zs = ys := by
  induction ys generalizing zs with
  | nil => exact hperm.eq_nil
  | cons y ys ih =>
    cases zs with
    | nil => exact absurd hperm.symm.eq_nil (List.cons_ne_nil y ys)
    | cons z zs =>
      -- Both first elements are first among those that compare as equal to `y`.
      have hfirst := halike y List.mem_cons_self
      rw [List.filter_cons_of_pos (isAlike_self y),
        List.filter_cons_of_pos (isAlike_of_perm hperm hy hz)] at hfirst
      obtain rfl : z = y := (List.cons.inj hfirst).1
      rw [ih hperm.cons_inv hy.of_cons hz.of_cons fun v hv => ?_]
      have hwhole := halike v (List.mem_cons_of_mem z hv)
      by_cases hz : isAlike v z = true
      · rw [List.filter_cons_of_pos hz, List.filter_cons_of_pos hz] at hwhole
        exact (List.cons.inj hwhole).2
      · rwa [List.filter_cons_of_neg hz, List.filter_cons_of_neg hz] at hwhole

/-- An array has at most one stable sort. -/
theorem IsStableSort.unique (h : IsStableSort xs ys) (h' : IsStableSort xs zs) : zs = ys := by
  refine eq_of_filter_isAlike (h'.perm.trans h.perm.symm) h.ordered h'.ordered fun v hv => ?_
  have hxs : v ∈ xs := h.perm.mem_iff.mp hv
  rw [h.filter_isAlike v hxs, h'.filter_isAlike v hxs]

/-! ## Sorting -/

/-- Whether an element of an array may stand in front of another one. -/
def mayPrecede (a b : { v // v ∈ xs }) : Bool := a.val.compare b.val != .gt

theorem mayPrecede_iff {a b : { v // v ∈ xs }} :
    mayPrecede a b = true ↔ a.val.compare b.val ≠ .gt := bne_iff_ne

theorem mayPrecede_trans (h : Ordered xs) (a b c : { v // v ∈ xs }) (hab : mayPrecede a b = true)
    (hbc : mayPrecede b c = true) : mayPrecede a c = true := by
  rw [mayPrecede_iff] at hab hbc ⊢
  exact h a.val a.property b.val b.property c.val c.property hab hbc

theorem mayPrecede_total (a b : { v // v ∈ xs }) : (mayPrecede a b || mayPrecede b a) = true := by
  rw [Bool.or_eq_true, mayPrecede_iff, mayPrecede_iff]
  exact compare_total a.val b.val

/-- The order of all values is not transitive, so an array is sorted as a list of its own elements. -/
theorem sorted_eq_map (xs : List Value) :
    sorted xs = (xs.attach.mergeSort mayPrecede).map Subtype.val := by
  have hmap : (xs.attach.mergeSort mayPrecede).map Subtype.val =
      (xs.attach.map Subtype.val).mergeSort fun a b => a.compare b != .gt :=
    List.map_mergeSort fun _ _ _ _ => rfl
  rw [hmap, List.attach_map_subtype_val, sorted]

theorem perm_sorted (xs : List Value) : (sorted xs).Perm xs := List.mergeSort_perm _ _

theorem pairwise_sorted (h : Ordered xs) :
    (sorted xs).Pairwise fun a b => a.compare b ≠ .gt := by
  rw [sorted_eq_map, List.pairwise_map]
  exact (List.pairwise_mergeSort (mayPrecede_trans h) mayPrecede_total xs.attach).imp
    mayPrecede_iff.mp

/-- Elements that compare as equal to one element are in order as they stand, so they are left so. -/
theorem filter_isAlike_sublist_sorted (h : Ordered xs) {v : Value} (hv : v ∈ xs) :
    (xs.filter (isAlike v)).Sublist (sorted xs) := by
  have hattach : xs.filter (isAlike v) = (xs.attach.filter (isAlike v ·.val)).map Subtype.val := by
    have hmap : (xs.attach.map Subtype.val).filter (isAlike v) =
        (xs.attach.filter (isAlike v ·.val)).map Subtype.val := List.filter_map
    rwa [List.attach_map_subtype_val] at hmap
  have hordered : (xs.attach.filter (isAlike v ·.val)).Pairwise (mayPrecede · · = true) := by
    rw [List.pairwise_filter]
    refine List.pairwise_of_forall fun a b ha hb => ?_
    rw [isAlike_iff] at ha hb
    have hav : a.val.compare v ≠ .gt := by simp [ha]
    have hvb : v.compare b.val ≠ .gt := by simp [compare_swap b.val v, hb]
    exact mayPrecede_iff.mpr (h a.val a.property v hv b.val b.property hav hvb)
  rw [hattach, sorted_eq_map]
  exact (List.sublist_mergeSort (mayPrecede_trans h) mayPrecede_total hordered
    List.filter_sublist).map _

theorem isStableSort_sorted (h : Ordered xs) : IsStableSort xs (sorted xs) where
  perm := perm_sorted xs
  ordered := pairwise_sorted h
  filter_isAlike v hv := by
    have hsublist := (filter_isAlike_sublist_sorted h hv).filter (isAlike v)
    rw [List.filter_filter] at hsublist
    simp only [Bool.and_self] at hsublist
    exact (hsublist.eq_of_length ((perm_sorted xs).filter _).length_eq.symm).symm

/-- Sorting an array in order changes nothing. -/
theorem sorted_of_pairwise (h : ys.Pairwise fun a b => a.compare b ≠ .gt) : sorted ys = ys :=
  List.mergeSort_of_pairwise (h.imp bne_iff_ne.mpr)

end Container

namespace Builtin

theorem sort_yields (xs more : List Value) :
    sort.Yields (.array xs :: more) (.array (Container.sorted xs)) none :=
  fun _ _ _ => rfl

end Builtin

end LineScript
