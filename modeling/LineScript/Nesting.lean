import LineScript.Text.Basic

/-!
Splitting text at its top level. The language has no tokens: arguments, elements, entries and operands
are found by walking a text once while keeping track of whether a quote is open and how deep the walk
is in parentheses, brackets and braces. A separator counts only at the top level.

Malformed text never fails. A closer without an opener is ignored, and an open quote or bracket keeps
the rest of the text in one piece. What splitting cuts out can be put back: the pieces joined with the
separator are the text (`joinWith_splitTop`).
-/

namespace LineScript

/-- Where a walk over a text stands. -/
structure Nesting where
  quote : Option Char
  parens : Nat
  brackets : Nat
  braces : Nat
deriving DecidableEq

namespace Nesting

/-- No quote is open and no parenthesis, bracket or brace is. -/
def top : Nesting := ⟨none, 0, 0, 0⟩

/-- Whether the walk is at the top level. -/
def atTop (n : Nesting) : Bool := n == top

/-- The walk past one character. Inside a quote only the same quote counts. -/
def step (n : Nesting) (c : Char) : Nesting :=
  match n.quote with
  | some q => if c == q then { n with quote := none } else n
  | none =>
    if c == '"' || c == '\'' then { n with quote := some c }
    else if c == '(' then { n with parens := n.parens + 1 }
    else if c == ')' then { n with parens := n.parens - 1 }
    else if c == '[' then { n with brackets := n.brackets + 1 }
    else if c == ']' then { n with brackets := n.brackets - 1 }
    else if c == '\x7b' then { n with braces := n.braces + 1 }
    else if c == '\x7d' then { n with braces := n.braces - 1 }
    else n

/-- The walk past a text. -/
def after (n : Nesting) (t : Text) : Nesting := t.foldl step n

@[simp] theorem after_nil (n : Nesting) : n.after [] = n := rfl

@[simp] theorem after_cons (n : Nesting) (c : Char) (t : Text) :
    n.after (c :: t) = (n.step c).after t := rfl

theorem after_append (n : Nesting) (s t : Text) : n.after (s ++ t) = (n.after s).after t :=
  List.foldl_append

end Nesting

namespace Text

/-- The pieces of a text between the separators that the walk meets at the top level. A separator that
is itself a quote or an opener is met before it takes effect. -/
def splitFrom (sep : Char) : Nesting → Text → List Text
  | _, [] => [[]]
  | n, c :: rest =>
    let pieces := splitFrom sep (n.step c) rest
    if n.atTop && c == sep then [] :: pieces else pieces.modifyHead (c :: ·)

/-- The pieces of a text between its top-level separators, as they stand; there is at least one. -/
def splitTop (sep : Char) (t : Text) : List Text := splitFrom sep .top t

/-- Cuts a text at the first separator that the walk meets at the top level. -/
def cutFrom? (sep : Char) : Nesting → Text → Option (Text × Text)
  | _, [] => none
  | n, c :: rest =>
    if n.atTop && c == sep then some ([], rest)
    else (cutFrom? sep (n.step c) rest).map fun (before, behind) => (c :: before, behind)

/-- Cuts a text at its first top-level separator. -/
def cutTop? (sep : Char) (t : Text) : Option (Text × Text) := cutFrom? sep .top t

/-- The number of bytes in front of the first top-level separator. -/
def findTop? (sep : Char) (t : Text) : Option Nat :=
  (cutTop? sep t).map fun (before, _) => before.byteSize

/-- The arguments or elements in a text: its pieces between top-level commas without blanks around
them, the empty ones left out. -/
def splitArguments (t : Text) : List Text :=
  ((splitTop ',' t).map trim).filter (!·.isEmpty)

theorem joinWith_modifyHead {sep : Text} {c : Char} {pieces : List Text} (h : pieces ≠ []) :
    joinWith sep (pieces.modifyHead (c :: ·)) = c :: joinWith sep pieces := by
  cases pieces with
  | nil => exact absurd rfl h
  | cons p rest => cases rest <;> simp [joinWith, List.intercalate]

theorem splitFrom_ne_nil (sep : Char) (n : Nesting) (t : Text) : splitFrom sep n t ≠ [] := by
  induction t generalizing n with
  | nil => simp [splitFrom]
  | cons c rest ih =>
    simp only [splitFrom]
    split
    · simp
    · obtain ⟨p, ps, h⟩ := List.exists_cons_of_ne_nil (ih (n.step c))
      simp [h]

theorem joinWith_splitFrom (sep : Char) (n : Nesting) (t : Text) :
    joinWith [sep] (splitFrom sep n t) = t := by
  induction t generalizing n with
  | nil => simp [splitFrom, joinWith, List.intercalate]
  | cons c rest ih =>
    simp only [splitFrom]
    split
    · next h =>
      simp only [Bool.and_eq_true, beq_iff_eq] at h
      obtain ⟨p, ps, hp⟩ := List.exists_cons_of_ne_nil (splitFrom_ne_nil sep (n.step c) rest)
      have hj := ih (n.step c)
      rw [hp] at hj ⊢
      simp_all [joinWith, List.intercalate]
    · rw [joinWith_modifyHead (splitFrom_ne_nil _ _ _), ih]

theorem joinWith_splitTop (sep : Char) (t : Text) : joinWith [sep] (splitTop sep t) = t :=
  joinWith_splitFrom sep .top t

/-- A piece is never longer than what it is a piece of. -/
theorem length_le_joinWith {sep piece : Text} {pieces : List Text} (h : piece ∈ pieces) :
    piece.length ≤ (joinWith sep pieces).length := by
  induction pieces with
  | nil => simp at h
  | cons p rest ih =>
    cases rest with
    | nil => simp_all [joinWith, List.intercalate]
    | cons q rest =>
      simp only [joinWith_cons_cons, List.length_append]
      rcases List.mem_cons.mp h with rfl | h
      · omega
      · have := ih h
        omega

theorem length_le_of_mem_splitTop {sep : Char} {t piece : Text} (h : piece ∈ splitTop sep t) :
    piece.length ≤ t.length := by
  have hl : piece.length ≤ (joinWith [sep] (splitTop sep t)).length := length_le_joinWith h
  rwa [joinWith_splitTop] at hl

theorem length_trimStart_le (t : Text) : (trimStart t).length ≤ t.length :=
  List.IsSuffix.length_le (List.dropWhile_suffix _)

theorem length_trimEnd_le (t : Text) : (trimEnd t).length ≤ t.length := by
  have h : (t.reverse.dropWhile Unicode.isBlank).length ≤ t.reverse.length :=
    List.IsSuffix.length_le (List.dropWhile_suffix _)
  simpa [trimEnd, dropEndWhile] using h

theorem length_trim_le (t : Text) : (trim t).length ≤ t.length :=
  Nat.le_trans (length_trimEnd_le _) (length_trimStart_le t)

theorem length_le_of_mem_splitArguments {t argument : Text} (h : argument ∈ splitArguments t) :
    argument.length ≤ t.length := by
  simp only [splitArguments, List.mem_filter, List.mem_map] at h
  obtain ⟨⟨piece, hp, rfl⟩, _⟩ := h
  exact Nat.le_trans (length_trim_le piece) (length_le_of_mem_splitTop hp)

theorem cutFrom?_append {sep : Char} {n : Nesting} {t before behind : Text}
    (h : cutFrom? sep n t = some (before, behind)) : t = before ++ sep :: behind := by
  induction t generalizing n before with
  | nil => simp [cutFrom?] at h
  | cons c rest ih =>
    simp only [cutFrom?] at h
    split at h
    · next hc =>
      simp only [Bool.and_eq_true, beq_iff_eq] at hc
      simp only [Option.some.injEq, Prod.mk.injEq] at h
      obtain ⟨rfl, rfl⟩ := h
      simp [hc.2]
    · simp only [Option.map_eq_some_iff, Prod.mk.injEq] at h
      obtain ⟨⟨b, d⟩, hb, rfl, rfl⟩ := h
      simp [ih hb]

theorem cutTop?_append {sep : Char} {t before behind : Text}
    (h : cutTop? sep t = some (before, behind)) : t = before ++ sep :: behind :=
  cutFrom?_append h

end Text

end LineScript
