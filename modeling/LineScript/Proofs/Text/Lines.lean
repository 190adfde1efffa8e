import LineScript.Text.Basic

/-! Lines of a text that is put together from two. No line lies across a line feed, so where the
first text is ended by one, its lines come before those of the second (`lines_append`). -/

namespace LineScript.Text

/-- The text is empty or ended by a line feed. -/
def EndsLine (t : Text) : Prop := t = [] ∨ ∃ s, t = s ++ ['\n']

theorem pieces_ne_nil (p : Char → Bool) (t : Text) : pieces p t ≠ [] := by
  induction t with
  | nil => simp [pieces]
  | cons c rest ih =>
    rw [pieces]
    split
    · simp
    · obtain ⟨first, others, h⟩ := List.exists_cons_of_ne_nil ih
      simp [h]

/-- A separator parts the pieces of what is before it from those of what is behind it. -/
theorem pieces_append {p : Char → Bool} {c : Char} (hc : p c = true) (s t : Text) :
    pieces p (s ++ c :: t) = pieces p s ++ pieces p t := by
  induction s with
  | nil => simp [pieces, hc]
  | cons d s ih =>
    obtain ⟨first, others, h⟩ := List.exists_cons_of_ne_nil (pieces_ne_nil p s)
    rw [List.cons_append, pieces, pieces, ih, h]
    by_cases hd : p d = true <;> simp [hd]

theorem linesOfPieces_append (before : List Text) {behind : List Text} (h : behind ≠ []) :
    linesOfPieces (before ++ behind) = before.map dropReturn ++ linesOfPieces behind := by
  induction before with
  | nil => rfl
  | cons first before ih =>
    obtain ⟨next, others, hn⟩ : ∃ next others, before ++ behind = next :: others :=
      List.exists_cons_of_ne_nil (by simp [h])
    rw [List.cons_append, List.map_cons, List.cons_append, ← ih, hn]
    rfl

/-- A line feed ends the line before it. -/
theorem lines_append_feed (s t : Text) :
    lines (s ++ '\n' :: t) = (pieces (· == '\n') s).map dropReturn ++ lines t := by
  rw [lines, pieces_append (by simp), linesOfPieces_append _ (pieces_ne_nil _ _)]
  rfl

theorem lines_append {a : Text} (ha : a.EndsLine) (b : Text) :
    lines (a ++ b) = lines a ++ lines b := by
  rcases ha with rfl | ⟨s, rfl⟩
  · rfl
  · have hlast : lines (s ++ ['\n']) = (pieces (· == '\n') s).map dropReturn := by
      rw [lines_append_feed, show lines [] = [] from rfl, List.append_nil]
    rw [List.append_assoc, List.singleton_append, lines_append_feed, hlast]

end LineScript.Text
