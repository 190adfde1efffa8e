import LineScript.Proofs.Statement.Precedence

/-!
The assignment operator of a text. The search for it begins afresh behind every equals sign that it
rejects. There a walk over the whole text is at its top level, so one walk that is never begun again
finds the same (`cutAssignment?_eq_scan`). That is the first equals sign that the walk meets at the top
level and that is no part of another operator (`cutAssignment?_first`). By byte offsets, every place at
which the search looks around or begins afresh is between two characters (`searchFrom?_eq`).
-/

namespace LineScript

open Nesting

/-! ## Byte offsets -/

namespace Text

/-- Cuts a text at a byte offset that is between two characters or at an end of the text. -/
def cutBytes? : Nat → Text → Option (Text × Text)
  | 0, t => some ([], t)
  | _ + 1, [] => none
  | n + 1, c :: rest =>
    if c.utf8Size ≤ n + 1 then
      (cutBytes? (n + 1 - c.utf8Size) rest).map fun (before, behind) => (c :: before, behind)
    else none

theorem byteSize_append (s t : Text) : byteSize (s ++ t) = byteSize s + byteSize t := by
  induction s with
  | nil => exact (Nat.zero_add _).symm
  | cons c s ih => rw [List.cons_append, byteSize, byteSize, ih, Nat.add_assoc]

theorem byteSize_eq_zero {t : Text} : byteSize t = 0 ↔ t = [] := by
  cases t with
  | nil => simp [byteSize]
  | cons c t =>
    have hpos := c.utf8Size_pos
    simp only [byteSize, reduceCtorEq, iff_false]
    omega

/-- The size of a text is an offset between two characters, whatever follows the text. -/
theorem cutBytes?_append (s t : Text) : cutBytes? (byteSize s) (s ++ t) = some (s, t) := by
  induction s with
  | nil =>
    rw [byteSize, cutBytes?]
    rfl
  | cons c s ih =>
    have hpos := c.utf8Size_pos
    obtain ⟨n, hn⟩ : ∃ n, c.utf8Size + byteSize s = n + 1 := ⟨_, (Nat.sub_add_cancel (by omega)).symm⟩
    rw [byteSize, hn, List.cons_append, cutBytes?, if_pos (by omega),
      show n + 1 - c.utf8Size = byteSize s from by omega, ih]
    rfl

end Text

namespace Statement

open Text

/-! ## Equals signs that assign -/

/-- How many bytes a search passes over at an equals sign between two characters. At one that assigns
there are none to pass over. -/
def passed (last? next? : Option Char) : Nat :=
  if next? = some '=' then 2
  else if last?.any fun c => c == '!' || c == '<' || c == '>' || c == '=' then 1
  else 0

/-- An equals sign that assigns: one walk over the whole text meets it at the top level, and it is no part
of `==`, `!=`, `<=` or `>=`. -/
structure IsAssignment (t left right : Text) : Prop where
  text_eq : t = left ++ '=' :: right
  at_top : top.after left = top
  last_ne : ∀ c ∈ ['=', '!', '<', '>'], left.getLast? ≠ some c
  next_ne : right.head? ≠ some '='

/-- An equals sign of `t` that assigns, where a walk stands at `n` in front of `t` and has passed
`before`, in reverse. -/
structure Meets (n : Nesting) (before t mid right : Text) : Prop where
  text_eq : t = mid ++ '=' :: right
  at_top : n.after mid = top
  passed_eq : passed (mid.reverse ++ before).head? right.head? = 0

variable {n : Nesting} {before t mid left right : Text} {c : Char}

theorem passed_eq_zero_iff {last? next? : Option Char} : passed last? next? = 0 ↔
    (∀ c ∈ ['=', '!', '<', '>'], last? ≠ some c) ∧ next? ≠ some '=' := by
  unfold passed
  split
  · next heq => simp [heq]
  · next hne => cases last? <;> grind

theorem head?_ne_equals (h : ∀ rest, right = '=' :: rest → False) : right.head? ≠ some '=' := by
  intro hhead
  obtain ⟨rest, hrest⟩ := List.head?_eq_some_iff.mp hhead
  exact h rest hrest

theorem passed_ne_zero {last? : Option Char}
    (h : (last?.any fun c => c == '!' || c == '<' || c == '>' || c == '=') = true)
    (next? : Option Char) : passed last? next? ≠ 0 := by
  unfold passed
  rw [if_pos h]
  split <;> simp

theorem meets_top_iff : Meets top [] t left right ↔ IsAssignment t left right := by
  constructor
  · rintro ⟨htext, htop, hpassed⟩
    rw [List.append_nil, List.head?_reverse, passed_eq_zero_iff] at hpassed
    exact ⟨htext, htop, hpassed.1, hpassed.2⟩
  · rintro ⟨htext, htop, hlast, hnext⟩
    refine ⟨htext, htop, ?_⟩
    rw [List.append_nil, List.head?_reverse, passed_eq_zero_iff]
    exact ⟨hlast, hnext⟩

/-- The equals sign is the first character, or the walk meets it behind that. -/
theorem meets_cons_iff : Meets n before (c :: t) mid right ↔
    (mid = [] ∧ n = top ∧ c = '=' ∧ t = right ∧ passed before.head? right.head? = 0) ∨
      ∃ mid', mid = c :: mid' ∧ Meets (n.step c) (c :: before) t mid' right := by
  have hreverse (mid' : Text) : (c :: mid').reverse ++ before = mid'.reverse ++ c :: before := by simp
  constructor
  · rintro ⟨htext, htop, hpassed⟩
    cases mid with
    | nil =>
      obtain ⟨rfl, rfl⟩ := List.cons.inj htext
      exact Or.inl ⟨rfl, htop, rfl, rfl, hpassed⟩
    | cons d mid' =>
      obtain ⟨rfl, rfl⟩ := List.cons.inj htext
      rw [hreverse] at hpassed
      exact Or.inr ⟨mid', rfl, rfl, htop, hpassed⟩
  · rintro (⟨rfl, rfl, rfl, rfl, hpassed⟩ | ⟨mid', rfl, rfl, htop, hpassed⟩)
    · exact ⟨rfl, rfl, hpassed⟩
    · exact ⟨rfl, htop, by rwa [hreverse]⟩

/-! ## One walk -/

/-- Cuts a text at the first equals sign that assigns, on one walk that stands at `n` in front of the text
and has passed `before`, in reverse. -/
def scanAssignment? : Nesting → Text → Text → Option (Text × Text)
  | _, _, [] => none
  | n, before, c :: rest =>
    if n.atTop && c == '=' && passed before.head? rest.head? == 0 then some (before.reverse, rest)
    else scanAssignment? (n.step c) (c :: before) rest

theorem meets_first_iff : (n.atTop && c == '=' && passed before.head? t.head? == 0) = true ↔
    n = top ∧ c = '=' ∧ passed before.head? t.head? = 0 := by
  rw [Bool.and_eq_true, cuts_iff, beq_iff_eq, and_assoc]

/-- A walk that finds nothing meets nothing. -/
theorem not_meets_of_scan (h : scanAssignment? n before t = none) (mid right : Text) :
    ¬ Meets n before t mid right := by
  induction t generalizing n before mid with
  | nil => exact fun hmeets => by simpa using hmeets.text_eq
  | cons c t ih =>
    rw [scanAssignment?] at h
    split at h
    · cases h
    · next hfirst =>
      rw [meets_cons_iff]
      rintro (⟨-, htop, hc, rfl, hpassed⟩ | ⟨mid', -, hmeets⟩)
      · exact hfirst (meets_first_iff.mpr ⟨htop, hc, hpassed⟩)
      · exact ih h mid' hmeets

/-- What a walk finds is the first that it meets. -/
theorem meets_of_scan (h : scanAssignment? n before t = some (left, right)) :
    ∃ mid, left = before.reverse ++ mid ∧ Meets n before t mid right ∧
      ∀ mid' right', Meets n before t mid' right' → mid <+: mid' := by
  induction t generalizing n before with
  | nil => cases h
  | cons c t ih =>
    rw [scanAssignment?] at h
    split at h
    · next hfirst =>
      cases h
      obtain ⟨rfl, rfl, hpassed⟩ := meets_first_iff.mp hfirst
      exact ⟨[], (List.append_nil _).symm, ⟨rfl, rfl, hpassed⟩, fun mid' _ _ => List.nil_prefix⟩
    · next hfirst =>
      obtain ⟨mid, hleft, hmeets, hleast⟩ := ih h
      refine ⟨c :: mid, by simp [hleft], meets_cons_iff.mpr (Or.inr ⟨mid, rfl, hmeets⟩), ?_⟩
      intro mid' right' hmeets'
      rcases meets_cons_iff.mp hmeets' with ⟨-, htop, hc, rfl, hpassed⟩ | ⟨rest, rfl, hrest⟩
      · exact absurd (meets_first_iff.mpr ⟨htop, hc, hpassed⟩) hfirst
      · exact List.cons_prefix_cons.mpr ⟨rfl, hleast rest right' hrest⟩

/-! ## Beginning afresh -/

theorem step_equals : top.step '=' = top := step_of_not_mark rfl (by decide)

/-- Where the walk meets no equals sign at the top level, it goes on. -/
theorem scanAssignment?_append (h : cutFrom? '=' n mid = none) (before t : Text) :
    scanAssignment? n before (mid ++ t) = scanAssignment? (n.after mid) (mid.reverse ++ before) t := by
  induction mid generalizing n before with
  | nil => rfl
  | cons c mid ih =>
    rw [cutFrom?] at h
    split at h
    · cases h
    · next hcuts =>
      have hrest : cutFrom? '=' (n.step c) mid = none := Option.map_eq_none_iff.mp h
      rw [List.cons_append, scanAssignment?, if_neg (by simp_all), ih hrest, after_cons,
        List.reverse_cons, List.append_assoc]
      rfl

/-- At an equals sign that does not assign, the walk goes on at the top level. -/
theorem scanAssignment?_passed (h : passed before.head? t.head? ≠ 0) :
    scanAssignment? top before ('=' :: t) = scanAssignment? top ('=' :: before) t := by
  rw [scanAssignment?, if_neg fun hfirst => h (meets_first_iff.mp hfirst).2.2, step_equals]

/-- Beginning afresh behind each rejected equals sign comes to the same as one walk. -/
theorem cutAssignment?_eq_scan (before t : Text) :
    cutAssignment? before t = scanAssignment? top before t := by
  fun_induction cutAssignment? before t with
  | case1 before t hcut =>
    have hscan := scanAssignment?_append hcut before []
    rw [List.append_nil] at hscan
    exact hscan.symm
  | case2 before t left right hcut ih =>
    -- The walk rejects both, the first for what is behind it and the second for what is in front of it.
    obtain ⟨rfl, htop, hnone⟩ := cutFrom?_eq_some_iff.mp hcut
    rw [scanAssignment?_append hnone, htop,
      scanAssignment?_passed (by simp [passed]), scanAssignment?_passed (passed_ne_zero rfl _), ih]
  | case3 before t left right hright hcut before' hoperator ih =>
    obtain ⟨rfl, htop, hnone⟩ := cutFrom?_eq_some_iff.mp hcut
    rw [scanAssignment?_append hnone, htop,
      scanAssignment?_passed (passed_ne_zero hoperator _), ih]
  | case4 before t left right hright hcut before' hoperator =>
    obtain ⟨htop, hnone⟩ := of_cutFrom?_eq_some hcut
    have hpassed : passed before'.head? right.head? = 0 := by
      rw [passed, if_neg (head?_ne_equals hright), if_neg hoperator]
    rw [cutTop?_append hcut, scanAssignment?_append hnone, htop, scanAssignment?,
      if_pos (meets_first_iff.mpr ⟨rfl, rfl, hpassed⟩)]

/-! ## The search by byte offsets -/

/-- The offset of the assignment operator that a search from an offset on finds, if there is one. There is
no answer where the search comes to an offset inside a character or behind the text. -/
def searchFrom? (t : Text) (offset : Nat) : Option (Option Nat) :=
  match cutBytes? offset t with
  | none => none
  | some (_, rest) =>
    match findTop? '=' rest with
    | none => some none
    | some position =>
      match cutBytes? (offset + position) t, cutBytes? (offset + position + 1) t with
      | some (front, _), some (_, behind) =>
        let skip := passed front.getLast? behind.head?
        if skip = 0 then some (some (offset + position))
        else if offset + position + skip < byteSize t then searchFrom? t (offset + position + skip)
        else some none
      | _, _ => none
termination_by byteSize t - offset

variable {front rest : Text}

theorem searchFrom?_of_none (h : cutTop? '=' rest = none) (front : Text) :
    searchFrom? (front ++ rest) (byteSize front) = some none := by
  rw [searchFrom?]
  simp only [cutBytes?_append, findTop?, h, Option.map_none]

/-- One round of the search looks around at the next equals sign at the top level. -/
theorem searchFrom?_of_some (h : cutTop? '=' rest = some (left, right)) (front : Text) :
    searchFrom? (front ++ rest) (byteSize front) =
      let skip := passed (front ++ left).getLast? right.head?
      if skip = 0 then some (some (byteSize (front ++ left)))
      else if byteSize (front ++ left) + skip < byteSize (front ++ rest) then
        searchFrom? (front ++ rest) (byteSize (front ++ left) + skip)
      else some none := by
  have htext : front ++ rest = front ++ left ++ '=' :: right := by
    rw [cutTop?_append h, List.append_assoc]
  have hleft : cutBytes? (byteSize (front ++ left)) (front ++ rest) =
      some (front ++ left, '=' :: right) := by
    rw [htext]
    exact cutBytes?_append _ _
  have hsize : byteSize (front ++ left ++ ['=']) = byteSize (front ++ left) + 1 :=
    byteSize_append _ _
  have hright : cutBytes? (byteSize (front ++ left) + 1) (front ++ rest) =
      some (front ++ left ++ ['='], right) := by
    rw [← hsize, htext, List.append_cons _ _ right]
    exact cutBytes?_append _ _
  conv => lhs; rw [searchFrom?]
  rw [byteSize_append front left] at hleft hright ⊢
  simp only [cutBytes?_append, findTop?, h, Option.map_some, hleft, hright]

/-- At an equals sign that does not assign, the search passes over what belongs to the operator and goes
on behind that, unless the text ends there. -/
theorem searchFrom?_passed {operator behind : Text} {found : Option Nat}
    (h : cutTop? '=' rest = some (left, right)) (hrest : rest = left ++ operator ++ behind)
    (hpassed : passed (front ++ left).getLast? right.head? = byteSize operator)
    (hne : operator ≠ []) (hend : behind = [] → found = none)
    (hfound : searchFrom? (front ++ left ++ operator ++ behind)
      (byteSize (front ++ left ++ operator)) = some found) :
    searchFrom? (front ++ rest) (byteSize front) = some found := by
  have htext : front ++ rest = front ++ left ++ operator ++ behind := by
    rw [hrest, ← List.append_assoc, ← List.append_assoc]
  rw [searchFrom?_of_some h, hpassed, htext]
  simp only [byteSize_eq_zero, hne, ↓reduceIte, ← byteSize_append]
  split
  · exact hfound
  · next hsize =>
    -- The text ends with the operator.
    rw [byteSize_append _ behind] at hsize
    rw [hend (byteSize_eq_zero.mp (by omega))]

theorem getLast?_reverse_append (before left : Text) :
    (before.reverse ++ left).getLast? = (left.reverse ++ before).head? := by
  rw [← List.head?_reverse, List.reverse_append, List.reverse_reverse]

theorem cutAssignment?_nil (before : Text) : cutAssignment? before [] = none :=
  cutAssignment?_eq_scan before []

/-- The search by byte offsets comes to an answer, which is the offset of the cut. -/
theorem searchFrom?_eq (before t : Text) :
    searchFrom? (before.reverse ++ t) (byteSize before.reverse) =
      some ((cutAssignment? before t).map fun (left, _) => byteSize left) := by
  fun_induction cutAssignment? before t with
  | case1 before t hcut => exact searchFrom?_of_none hcut before.reverse
  | case2 before t left right hcut ih =>
    have hfront : ('=' :: '=' :: (left.reverse ++ before)).reverse =
        before.reverse ++ left ++ ['=', '='] := by simp
    rw [hfront] at ih
    refine searchFrom?_passed hcut ?_ ?_ (List.cons_ne_nil '=' ['=']) ?_ ih
    · rw [cutTop?_append hcut, List.append_assoc]
      rfl
    · exact if_pos rfl
    · rintro rfl
      rw [cutAssignment?_nil, Option.map_none]
  | case3 before t left right hright hcut before' hoperator ih =>
    have hfront : ('=' :: before').reverse = before.reverse ++ left ++ ['='] := by simp [before']
    rw [hfront] at ih
    refine searchFrom?_passed hcut ?_ ?_ (List.cons_ne_nil '=' []) ?_ ih
    · rw [cutTop?_append hcut, List.append_cons]
    · rw [getLast?_reverse_append, passed, if_neg (head?_ne_equals hright), if_pos hoperator]
      rfl
    · rintro rfl
      rw [cutAssignment?_nil, Option.map_none]
  | case4 before t left right hright hcut before' hoperator =>
    have hpassed : passed (before.reverse ++ left).getLast? right.head? = 0 := by
      rw [getLast?_reverse_append, passed, if_neg (head?_ne_equals hright), if_neg hoperator]
    rw [searchFrom?_of_some hcut, hpassed]
    simp [before']

/-! ## The first assignment -/

theorem cutAssignment?_isAssignment (h : cutAssignment? [] t = some (left, right)) :
    IsAssignment t left right ∧ ∀ left' right', IsAssignment t left' right' → left <+: left' := by
  rw [cutAssignment?_eq_scan] at h
  obtain ⟨mid, rfl, hmeets, hleast⟩ := meets_of_scan h
  exact ⟨meets_top_iff.mp hmeets, fun left' right' h' => hleast left' right' (meets_top_iff.mpr h')⟩

theorem not_isAssignment_of_cutAssignment? (h : cutAssignment? [] t = none) (left right : Text) :
    ¬ IsAssignment t left right := by
  rw [cutAssignment?_eq_scan] at h
  exact fun hassignment => not_meets_of_scan h left right (meets_top_iff.mpr hassignment)

/-- An equals sign that assigns and has no more in front of it than any other is where the text is cut. -/
theorem cutAssignment?_of_first (h : IsAssignment t left right)
    (hleast : ∀ left' right', IsAssignment t left' right' → byteSize left ≤ byteSize left') :
    cutAssignment? [] t = some (left, right) := by
  cases hcut : cutAssignment? [] t with
  | none => exact absurd h (not_isAssignment_of_cutAssignment? hcut left right)
  | some cut =>
    obtain ⟨left', right'⟩ := cut
    obtain ⟨hassignment, hfirst⟩ := cutAssignment?_isAssignment hcut
    obtain ⟨more, rfl⟩ := hfirst left right h
    have hsize := hleast left' right' hassignment
    rw [byteSize_append] at hsize
    obtain rfl : more = [] := byteSize_eq_zero.mp (by omega)
    have htext := h.text_eq
    rw [List.append_nil, hassignment.text_eq] at htext
    rw [List.append_nil, (List.cons.inj (List.append_cancel_left htext)).2]

/-- Where the rule for assignments cuts a text, which is at the first equals sign that assigns; a text
without one is not cut. Beginning afresh behind each rejected equals sign comes to the same as one walk
over the whole text. The search by byte offsets comes to no offset inside a character or behind the text,
and answers with the size of what is in front of the cut. -/
theorem cutAssignment?_first (t : Text) :
    (∀ left right, cutAssignment? [] t = some (left, right) ↔
      IsAssignment t left right ∧
        ∀ left' right', IsAssignment t left' right' → byteSize left ≤ byteSize left') ∧
      (cutAssignment? [] t = none ↔ ∀ left right, ¬ IsAssignment t left right) ∧
      cutAssignment? [] t = scanAssignment? top [] t ∧
      searchFrom? t 0 = some ((cutAssignment? [] t).map fun (left, _) => byteSize left) := by
  refine ⟨fun left right => ⟨fun h => ?_, fun ⟨h, hleast⟩ => cutAssignment?_of_first h hleast⟩,
    ⟨not_isAssignment_of_cutAssignment?, fun hnone => ?_⟩, cutAssignment?_eq_scan [] t,
    searchFrom?_eq [] t⟩
  · obtain ⟨hassignment, hfirst⟩ := cutAssignment?_isAssignment h
    refine ⟨hassignment, fun left' right' h' => ?_⟩
    obtain ⟨more, rfl⟩ := hfirst left' right' h'
    rw [byteSize_append]
    exact Nat.le_add_right _ _
  · rw [Option.eq_none_iff_forall_ne_some]
    rintro ⟨left, right⟩ h
    exact hnone left right (cutAssignment?_isAssignment h).1

/-- One in brackets, three in a row and one in quotes come before the one that assigns. -/
example : searchFrom? "é[b=1] === 'c=' = d".toList 0 = some (some 17) := by decide +kernel

end Statement

end LineScript
