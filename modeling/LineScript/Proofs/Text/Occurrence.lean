import LineScript.Text.Case
import LineScript.Text.Occurrence
import LineScript.Proofs.Text.Blanks

/-!
A text occurs in another exactly when it is an infix of it (`occursIn_iff`), and a lower-cased text is
empty only when the text was. The pieces of a text, joined with the separator, are the text, whatever the
separator (`joinWith_splitOn`). A separator that is not empty occurs in none of them
(`not_infix_of_mem_splitOn`), and what replaces its occurrences stands between the pieces
(`replace_eq_joinWith`).
-/

namespace LineScript.Text

theorem isSome_stripPrefix? {pre t : Text} : (stripPrefix? pre t).isSome = true ↔ pre <+: t := by
  constructor
  · intro h
    obtain ⟨rest, hrest⟩ := Option.isSome_iff_exists.mp h
    exact ⟨rest, (stripPrefix?_eq_some.mp hrest).symm⟩
  · rintro ⟨rest, hrest⟩
    exact Option.isSome_iff_exists.mpr ⟨rest, stripPrefix?_eq_some.mpr hrest.symm⟩

theorem occursIn_nil (sep : Text) : occursIn sep [] = true ↔ sep = [] := by
  simp [occursIn, cut?]

theorem occursIn_cons (sep : Text) (c : Char) (rest : Text) :
    occursIn sep (c :: rest) = true ↔ sep <+: c :: rest ∨ occursIn sep rest = true := by
  rw [← isSome_stripPrefix?, occursIn, cut?, occursIn]
  cases h : stripPrefix? sep (c :: rest) with
  | none => simp
  | some after => simp

theorem occursIn_iff (sep t : Text) : occursIn sep t = true ↔ sep <:+: t := by
  induction t with
  | nil => rw [occursIn_nil, List.infix_nil]
  | cons c rest ih => rw [occursIn_cons, ih, List.infix_cons_iff]

/-! ## Pieces between occurrences -/

variable {sep t : Text}

/-- No occurrence begins in front of the one at which a text is cut. -/
theorem not_infix_dropLast_of_cut? (hs : sep ≠ []) {before after : Text}
    (h : cut? sep t = some (before, after)) : ¬ sep <:+: (before ++ sep).dropLast := by
  induction t generalizing before with
  | nil =>
    rw [cut?, if_neg (by simpa using hs)] at h
    cases h
  | cons c rest ih =>
    rw [cut?] at h
    cases hstart : stripPrefix? sep (c :: rest) with
    | some behind =>
      rw [hstart] at h
      cases h
      intro hinfix
      -- The separator does not fit into what is left of it without its last character.
      have hlength : sep.length ≤ sep.dropLast.length := hinfix.length_le
      have hpos : 0 < sep.length := List.length_pos_iff.mpr hs
      rw [List.length_dropLast] at hlength
      omega
    | none =>
      rw [hstart, Option.map_eq_some_iff] at h
      obtain ⟨⟨front, behind⟩, hcut, ⟨⟩⟩ := h
      have hne : front ++ sep ≠ [] := by simp [hs]
      rw [List.cons_append, List.dropLast_cons_of_ne_nil hne, List.infix_cons_iff]
      rintro (hstarts | hinfix)
      · have hwhole : sep <+: c :: rest := by
          rw [cut?_append hcut, ← List.cons_append]
          refine hstarts.trans (List.IsPrefix.trans ?_ (List.prefix_append _ _))
          exact List.prefix_cons_iff.mpr (Or.inr ⟨_, rfl, List.dropLast_prefix _⟩)
        rw [← isSome_stripPrefix?, hstart] at hwhole
        contradiction
      · exact ih hcut hinfix

/-- What is in front of the first occurrence has none. -/
theorem not_infix_of_cut? (hs : sep ≠ []) {before after : Text}
    (h : cut? sep t = some (before, after)) : ¬ sep <:+: before := by
  intro hinfix
  apply not_infix_dropLast_of_cut? hs h
  rw [List.dropLast_append_of_ne_nil hs]
  exact hinfix.trans (List.prefix_append before _).isInfix

theorem splitAtEach_eq (hs : sep ≠ []) (t : Text) : splitAtEach sep hs t =
    match cut? sep t with
    | none => [t]
    | some (before, after) => before :: splitAtEach sep hs after := by
  rw [splitAtEach]
  split <;> next h => rw [h]

theorem splitAtEach_ne_nil (hs : sep ≠ []) (t : Text) : splitAtEach sep hs t ≠ [] := by
  rw [splitAtEach_eq]
  cases cut? sep t <;> simp

theorem joinWith_splitAtEach (hs : sep ≠ []) (t : Text) :
    joinWith sep (splitAtEach sep hs t) = t := by
  fun_induction splitAtEach sep hs t with
  | case1 t hcut => exact joinWith_singleton sep t
  | case2 t before after hcut ih =>
    rw [joinWith_cons_of_ne_nil (splitAtEach_ne_nil hs after), ih, cut?_append hcut]

theorem joinWith_nil (texts : List Text) : joinWith [] texts = texts.flatten := by
  induction texts with
  | nil => rfl
  | cons p rest ih =>
    cases rest with
    | nil => simp [joinWith_singleton]
    | cons q rest => rw [joinWith_cons_cons, ih, List.append_nil]; rfl

/-- The pieces of a text, joined with the separator, are the text. -/
theorem joinWith_splitOn (sep t : Text) : joinWith sep (splitOn sep t) = t := by
  rw [splitOn]
  split
  · next hs =>
    have hchars : (t.map fun c => [c]).flatten = t := by
      rw [← List.flatMap_def, List.flatMap_singleton']
    simp [hs, joinWith_nil, hchars]
  · next hs => exact joinWith_splitAtEach hs t

theorem splitOn_of_ne_nil (hs : sep ≠ []) (t : Text) : splitOn sep t = splitAtEach sep hs t :=
  dif_neg hs

/-- No piece has an occurrence of its own. -/
theorem not_infix_of_mem_splitOn (hs : sep ≠ []) {piece : Text} (h : piece ∈ splitOn sep t) :
    ¬ sep <:+: piece := by
  rw [splitOn_of_ne_nil hs] at h
  fun_induction splitAtEach sep hs t with
  | case1 t hcut =>
    obtain rfl := List.mem_singleton.mp h
    rw [← occursIn_iff, occursIn, hcut]
    simp
  | case2 t before after hcut ih =>
    rcases List.mem_cons.mp h with rfl | hrest
    · exact not_infix_of_cut? hs hcut
    · exact ih hrest

/-- Behind a piece other than the last stands the first occurrence behind the start of the piece. -/
theorem not_infix_dropLast_of_mem_splitOn (hs : sep ≠ []) {piece : Text}
    (h : piece ∈ (splitOn sep t).dropLast) : ¬ sep <:+: (piece ++ sep).dropLast := by
  rw [splitOn_of_ne_nil hs] at h
  fun_induction splitAtEach sep hs t with
  | case1 t hcut => cases h
  | case2 t before after hcut ih =>
    rw [List.dropLast_cons_of_ne_nil (splitAtEach_ne_nil hs after)] at h
    rcases List.mem_cons.mp h with rfl | hrest
    · exact not_infix_dropLast_of_cut? hs hcut
    · exact ih hrest

/-- A text is in more than one piece exactly when there is an occurrence. -/
theorem one_lt_length_splitOn (hs : sep ≠ []) (t : Text) :
    1 < (splitOn sep t).length ↔ sep <:+: t := by
  rw [splitOn_of_ne_nil hs, splitAtEach_eq, ← occursIn_iff, occursIn]
  cases cut? sep t with
  | none => simp
  | some cut => simpa using List.length_pos_iff.mpr (splitAtEach_ne_nil hs cut.2)

theorem replaceEach_eq_joinWith (hs : sep ≠ []) (new t : Text) :
    replaceEach sep hs new t = joinWith new (splitAtEach sep hs t) := by
  fun_induction replaceEach sep hs new t with
  | case1 t hcut =>
    rw [splitAtEach_eq, hcut]
    exact (joinWith_singleton new t).symm
  | case2 t before after hcut ih =>
    rw [splitAtEach_eq, hcut, ih, joinWith_cons_of_ne_nil (splitAtEach_ne_nil hs after)]

/-- Replacing puts the new text between the pieces. -/
theorem replace_eq_joinWith (hs : sep ≠ []) (new t : Text) :
    replace sep new t = joinWith new (splitOn sep t) := by
  rw [replace, dif_neg hs, splitOn_of_ne_nil hs, replaceEach_eq_joinWith]

/-! ## Lower case -/

theorem lowerChar_ne_nil (c : Char) : Unicode.lowerChar c ≠ [] := by
  unfold Unicode.lowerChar
  split <;> simp

theorem lowerAfter_eq_nil {before t : Text} : lowerAfter before t = [] ↔ t = [] := by
  cases t with
  | nil => simp [lowerAfter]
  | cons c rest =>
    refine iff_of_false ?_ (List.cons_ne_nil c rest)
    intro h
    obtain ⟨hform, -⟩ := List.append_eq_nil_iff.mp h
    split at hform
    · split at hform <;> contradiction
    · exact lowerChar_ne_nil c hform

theorem lower_eq_nil {t : Text} : lower t = [] ↔ t = [] := lowerAfter_eq_nil

end LineScript.Text
