import LineScript.Nesting
import LineScript.Proofs.Text.Blanks

/-!
Splitting a text and searching in it are walks that meet the same separators: the first piece is what is
in front of the separator that a search finds, and the others are the pieces of what is behind it
(`splitFrom_eq`).

The pieces of a text that was put together from two are those of the first part and then those of the
second, read from where the walk stands behind the first, with the piece on either side of the joint in
one (`splitFrom_append`). So a separator at the top level cuts a text into two that split on their own
(`splitTop_append`), and blanks at an end stay with the piece at that end.
-/

namespace LineScript

namespace Text

/-! ## Splitting and searching -/

section

variable {sep : Char} {n : Nesting} {s t before behind : Text}

theorem cuts_iff {c : Char} : (n.atTop && c == sep) = true ↔ n = .top ∧ c = sep := by
  rw [Bool.and_eq_true, Nesting.atTop, beq_iff_eq, beq_iff_eq]

/-- A separator that is met at the top level is behind the first piece. -/
theorem splitFrom_eq (sep : Char) (n : Nesting) (t : Text) :
    splitFrom sep n t =
      match cutFrom? sep n t with
      | none => [t]
      | some (before, behind) => before :: splitFrom sep (Nesting.top.step sep) behind := by
  induction t generalizing n with
  | nil => rfl
  | cons c rest ih =>
    rw [splitFrom, cutFrom?]
    split
    · next h =>
      obtain ⟨rfl, rfl⟩ := cuts_iff.mp h
      rfl
    · rw [ih (n.step c)]
      cases cutFrom? sep (n.step c) rest <;> rfl

theorem cutFrom?_eq_none_iff : cutFrom? sep n t = none ↔
    ∀ before behind, t = before ++ sep :: behind → n.after before ≠ .top := by
  induction t generalizing n with
  | nil => simp [cutFrom?]
  | cons c rest ih =>
    rw [cutFrom?]
    split
    · next h =>
      obtain ⟨rfl, rfl⟩ := cuts_iff.mp h
      exact iff_of_false (by simp) fun huncut => huncut [] rest rfl rfl
    · next h =>
      rw [Option.map_eq_none_iff, ih]
      constructor
      · intro hrest before behind heq
        cases before with
        | nil =>
          obtain ⟨rfl, rfl⟩ := List.cons.inj heq
          exact fun htop => h (cuts_iff.mpr ⟨htop, rfl⟩)
        | cons d before =>
          obtain ⟨rfl, rfl⟩ := List.cons.inj heq
          exact hrest before behind rfl
      · intro huncut before behind heq
        exact huncut (c :: before) behind (congrArg (c :: ·) heq)

theorem cutFrom?_of_not_mem (h : sep ∉ t) (n : Nesting) : cutFrom? sep n t = none := by
  rw [cutFrom?_eq_none_iff]
  rintro before behind rfl
  exact absurd (List.mem_append_right before List.mem_cons_self) h

theorem cutFrom?_append_of_none (h : cutFrom? sep n s = none) (t : Text) :
    cutFrom? sep n (s ++ t) =
      (cutFrom? sep (n.after s) t).map fun (before, behind) => (s ++ before, behind) := by
  induction s generalizing n with
  | nil =>
    rw [List.nil_append, Nesting.after_nil]
    cases cutFrom? sep n t <;> rfl
  | cons c s ih =>
    rw [cutFrom?] at h
    split at h
    · cases h
    · next hc =>
      rw [List.cons_append, cutFrom?, if_neg hc, ih (Option.map_eq_none_iff.mp h), Option.map_map,
        Nesting.after_cons]
      rfl

/-- In front of a cut the walk comes to the top level, and meets no separator there. -/
theorem of_cutFrom?_eq_some (h : cutFrom? sep n t = some (before, behind)) :
    n.after before = .top ∧ cutFrom? sep n before = none := by
  induction t generalizing n before with
  | nil => cases h
  | cons c rest ih =>
    rw [cutFrom?] at h
    split at h
    · next hcuts =>
      cases h
      exact ⟨(cuts_iff.mp hcuts).1, rfl⟩
    · next hcuts =>
      obtain ⟨⟨first, last⟩, hcut, ⟨⟩⟩ := Option.map_eq_some_iff.mp h
      obtain ⟨htop, hnone⟩ := ih hcut
      exact ⟨htop, by rw [cutFrom?, if_neg hcuts, hnone, Option.map_none]⟩

theorem cutFrom?_eq_some_iff : cutFrom? sep n t = some (before, behind) ↔
    t = before ++ sep :: behind ∧ n.after before = .top ∧ cutFrom? sep n before = none := by
  constructor
  · exact fun h => ⟨cutFrom?_append h, of_cutFrom?_eq_some h⟩
  · rintro ⟨rfl, htop, hnone⟩
    rw [cutFrom?_append_of_none hnone, htop, cutFrom?, if_pos (cuts_iff.mpr ⟨rfl, rfl⟩)]
    simp only [Option.map_some, List.append_nil]

end

/-! ## Two parts -/

/-- Two lists of pieces where the last of the one and the first of the other are one piece. -/
def glue : List Text → List Text → List Text
  | [], qs => qs
  | [p], qs => qs.modifyHead (p ++ ·)
  | p :: p' :: ps, qs => p :: glue (p' :: ps) qs

theorem glue_cons {ps : List Text} (h : ps ≠ []) (p : Text) (qs : List Text) :
    glue (p :: ps) qs = p :: glue ps qs := by
  obtain ⟨p', ps, rfl⟩ := List.exists_cons_of_ne_nil h
  rfl

theorem glue_modifyHead {ps : List Text} (h : ps ≠ []) (c : Char) (qs : List Text) :
    glue (ps.modifyHead (c :: ·)) qs = (glue ps qs).modifyHead (c :: ·) := by
  match ps with
  | [] => contradiction
  | [p] => cases qs <;> simp [glue]
  | p :: p' :: ps => simp [glue]

/-- Where nothing stands before the joint on the other side, the pieces stay apart. -/
theorem glue_nil_cons {ps : List Text} (h : ps ≠ []) (qs : List Text) :
    glue ps ([] :: qs) = ps ++ qs := by
  induction ps with
  | nil => contradiction
  | cons p ps ih =>
    by_cases hp : ps = []
    · subst hp
      simp [glue]
    · rw [glue_cons hp, ih hp, List.cons_append]

theorem splitFrom_append (sep : Char) (n : Nesting) (s t : Text) :
    splitFrom sep n (s ++ t) = glue (splitFrom sep n s) (splitFrom sep (n.after s) t) := by
  induction s generalizing n with
  | nil => cases h : splitFrom sep n t <;> simp [splitFrom, glue, h]
  | cons c s ih =>
    have hne : splitFrom sep (n.step c) s ≠ [] := splitFrom_ne_nil _ _ _
    simp only [List.cons_append, splitFrom, Nesting.after_cons, ih]
    split
    · rw [glue_cons hne]
    · rw [glue_modifyHead hne]

/-- A separator at the top level separates, whatever stands on both sides of it. -/
theorem splitTop_append {sep : Char} (hsep : Nesting.top.step sep = .top) {s : Text}
    (hs : Nesting.top.after s = .top) (t : Text) :
    splitTop sep (s ++ sep :: t) = splitTop sep s ++ splitTop sep t := by
  have hcut : splitFrom sep .top (sep :: t) = [] :: splitFrom sep .top t := by
    simp [splitFrom, Nesting.atTop, hsep]
  rw [splitTop, splitFrom_append, hs, hcut, glue_nil_cons (splitFrom_ne_nil _ _ _)]
  rfl

/-! ## Texts in one piece -/

/-- No separator splits the text where a walk enters it at `n`. -/
def Whole (sep : Char) (n : Nesting) (t : Text) : Prop := splitFrom sep n t = [t]

theorem whole_iff_cutFrom? {sep : Char} {n : Nesting} {t : Text} :
    Whole sep n t ↔ cutFrom? sep n t = none := by
  rw [Whole, splitFrom_eq]
  cases cutFrom? sep n t with
  | none => simp
  | some cut => simp [splitFrom_ne_nil]

theorem whole_of_not_mem {sep : Char} {t : Text} (h : sep ∉ t) (n : Nesting) : Whole sep n t :=
  whole_iff_cutFrom?.mpr (cutFrom?_of_not_mem h n)

theorem Whole.append {sep : Char} {n : Nesting} {s t : Text} (hs : Whole sep n s)
    (ht : Whole sep (n.after s) t) : Whole sep n (s ++ t) := by
  rw [Whole, splitFrom_append, hs, ht]
  rfl

end Text

namespace Nesting

open Text Unicode

/-- The characters that move a walk outside quotes. -/
def marks : Text := ['"', '\'', '(', ')', '[', ']', '\x7b', '\x7d']

theorem step_of_not_mark {n : Nesting} (hn : n.quote = none) {c : Char} (hc : c ∉ marks) :
    n.step c = n := by
  simp only [marks, List.mem_cons, List.not_mem_nil, not_or] at hc
  obtain ⟨h₁, h₂, h₃, h₄, h₅, h₆, h₇, h₈, _⟩ := hc
  simp [step, hn, h₁, h₂, h₃, h₄, h₅, h₆, h₇, h₈]

theorem after_of_no_mark {n : Nesting} (hn : n.quote = none) {t : Text} (h : ∀ c ∈ t, c ∉ marks) :
    n.after t = n := by
  induction t with
  | nil => rfl
  | cons c t ih =>
    rw [after_cons, step_of_not_mark hn (h c (by simp))]
    exact ih fun d hd => h d (List.mem_cons_of_mem c hd)

theorem not_mark_of_isBlank {c : Char} (h : isBlank c = true) : c ∉ marks := by
  have hmarks : marks.all (fun d => !isBlank d) = true := by decide
  intro hc
  have hnot := List.all_eq_true.mp hmarks c hc
  rw [h] at hnot
  contradiction

end Nesting

namespace Text

open Unicode

theorem Blank.not_mem {t : Text} (h : Blank t) {c : Char} (hc : isBlank c = false) : c ∉ t :=
  fun hm => ne_of_isBlank (h c hm) hc rfl

theorem splitTop_blank_append {sep : Char} (hsep : isBlank sep = false) {lead : Text}
    (h : Blank lead) (t : Text) :
    splitTop sep (lead ++ t) = (splitTop sep t).modifyHead (lead ++ ·) := by
  have hafter : Nesting.top.after lead = .top :=
    Nesting.after_of_no_mark rfl fun c hc => Nesting.not_mark_of_isBlank (h c hc)
  have hwhole : Whole sep .top lead := whole_of_not_mem (h.not_mem hsep) _
  rw [splitTop, splitFrom_append, hafter, hwhole]
  rfl

theorem splitTop_append_blank {sep : Char} (hsep : isBlank sep = false) {trail : Text}
    (h : Blank trail) (t : Text) : splitTop sep (t ++ trail) = glue (splitTop sep t) [trail] := by
  have hwhole := whole_of_not_mem (h.not_mem hsep) (Nesting.top.after t)
  rw [splitTop, splitFrom_append, hwhole]
  rfl

end Text

end LineScript
