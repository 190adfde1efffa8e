import LineScript.Expression.Basic
import LineScript.Proofs.Text.Splitting

/-!
The operands of texts that were put together. Pieces are put together again from left to right, so
what comes behind a plus sign that separates is put together on its own (`operands_append`). Blanks
around a text go to its first and its last operand, where reading drops them (`operands_blank_ends`).
-/

namespace LineScript.Expression

open Unicode Text

theorem operands_ne_nil (t : Text) : operands t ≠ [] := by
  obtain ⟨first, rest, h⟩ := List.exists_cons_of_ne_nil (splitFrom_ne_nil '+' .top t)
  simp [operands, splitTop, h, regroup_ne_nil]

theorem operands_of_splitTop {t first : Text} {rest : List Text}
    (h : splitTop '+' t = first :: rest) : operands t = regroup first rest := by
  simp only [operands, h]

/-- The last operand of a text, which a plus sign behind the text could continue. -/
def lastOperand (t : Text) : Text := (operands t).getLast (operands_ne_nil t)

/-- Whether a plus sign joins depends on the first character behind it only. -/
theorem signJoins_congr {before behind behind' : Text} (h : behind.head? = behind'.head?) :
    signJoins before behind = signJoins before behind' := by
  cases behind <;> cases behind' <;> simp_all [signJoins]

theorem signJoins_of_isDigit_eq_false {before behind : Text}
    (h : ∀ c, behind.head? = some c → c.isDigit = false) : signJoins before behind = false := by
  cases behind with
  | nil => rfl
  | cons c rest => simp [signJoins, h c rfl]

theorem awaitsSign_blank_append {lead : Text} (h : Blank lead) (t : Text) :
    awaitsSign (lead ++ t) = awaitsSign t := by
  simp only [awaitsSign, trimStart_blank_append h]

/-! ## Two texts with a plus sign between them -/

theorem regroup_append {current : Text} {rest : List Text} {next : Text} (more : List Text)
    (h : signJoins ((regroup current rest).getLast (regroup_ne_nil _ _)) next = false) :
    regroup current (rest ++ next :: more) = regroup current rest ++ regroup next more := by
  induction rest generalizing current with
  | nil =>
    have hj : signJoins current next = false := h
    simp [regroup, hj]
  | cons p rest ih =>
    simp only [List.cons_append, regroup] at h ⊢
    split
    · next hp =>
      simp only [hp, if_true] at h
      exact ih h
    · next hp =>
      simp only [hp, Bool.false_eq_true, if_false, List.getLast_cons (regroup_ne_nil p rest)] at h
      rw [ih h, List.cons_append]

/-- The first piece of a text begins as the text does, unless the text begins with a plus sign. -/
theorem signJoins_head_splitTop {t first : Text} {rest : List Text}
    (h : splitTop '+' t = first :: rest) (before : Text) :
    signJoins before first = signJoins before t := by
  have ht := joinWith_splitTop '+' t
  rw [h] at ht
  cases first with
  | cons c first =>
    apply signJoins_congr
    cases rest <;> simp [← ht, joinWith_cons_cons, joinWith_singleton]
  | nil =>
    cases rest with
    | nil => rw [← ht, joinWith_singleton]
    | cons q qs =>
      rw [← ht, joinWith_cons_cons]
      rfl

/-- A plus sign behind a text that ends at the top level separates its operands from those of what
follows, unless it belongs to a number. -/
theorem operands_append {s t : Text} (hs : Nesting.top.after s = .top)
    (hj : signJoins (lastOperand s) t = false) :
    operands (s ++ '+' :: t) = operands s ++ operands t := by
  obtain ⟨p, ps, hp⟩ := List.exists_cons_of_ne_nil (splitFrom_ne_nil '+' .top s)
  obtain ⟨q, qs, hq⟩ := List.exists_cons_of_ne_nil (splitFrom_ne_nil '+' .top t)
  have hsplit : splitTop '+' (s ++ '+' :: t) = p :: (ps ++ q :: qs) := by
    rw [splitTop_append (by decide) hs, splitTop, hp, splitTop, hq, List.cons_append]
  -- Only the first piece behind the plus sign could be joined, and it begins as `t` does.
  have hlast : signJoins ((regroup p ps).getLast (regroup_ne_nil _ _)) q = false := by
    rw [signJoins_head_splitTop hq]
    simpa only [lastOperand, operands_of_splitTop hp] using hj
  rw [operands_of_splitTop hsplit, operands_of_splitTop hp, operands_of_splitTop hq]
  exact regroup_append qs hlast

/-! ## Blanks around a text -/

theorem regroup_blank_append {lead : Text} (h : Blank lead) (current : Text) (rest : List Text) :
    regroup (lead ++ current) rest = (regroup current rest).modifyHead (lead ++ ·) := by
  induction rest generalizing current with
  | nil => rfl
  | cons next rest ih =>
    have hj : signJoins (lead ++ current) next = signJoins current next := by
      cases next <;> simp [signJoins, awaitsSign_blank_append h]
    simp only [regroup, hj]
    split
    · rw [List.append_assoc, ih]
    · rfl

/-- Blanks are no digits, so they begin nothing that a plus sign joins. -/
theorem signJoins_append_blank {trail : Text} (h : Blank trail) (before behind : Text) :
    signJoins before (behind ++ trail) = signJoins before behind := by
  cases behind with
  | cons c rest => rfl
  | nil =>
    apply signJoins_of_isDigit_eq_false
    intro c hc
    rw [Bool.eq_false_iff]
    intro hd
    exact ne_of_isBlank (h c (List.mem_of_mem_head? hc)) (isBlank_of_isDigit hd) rfl

theorem regroup_append_blank {trail : Text} (h : Blank trail) (current next : Text)
    (rest : List Text) :
    regroup current (glue (next :: rest) [trail]) =
      glue (regroup current (next :: rest)) [trail] := by
  induction rest generalizing current next with
  | nil =>
    simp only [glue, List.modifyHead_cons, regroup, signJoins_append_blank h]
    split <;> simp [glue]
  | cons p rest ih =>
    rw [glue_cons (List.cons_ne_nil p rest), regroup, regroup]
    split
    · exact ih _ p
    · rw [ih next p, glue_cons (regroup_ne_nil next (p :: rest))]

theorem operands_blank_append {lead : Text} (h : Blank lead) (t : Text) :
    operands (lead ++ t) = (operands t).modifyHead (lead ++ ·) := by
  obtain ⟨p, ps, hp⟩ := List.exists_cons_of_ne_nil (splitFrom_ne_nil '+' .top t)
  have hsplit : splitTop '+' (lead ++ t) = (lead ++ p) :: ps := by
    rw [splitTop_blank_append (by decide) h, splitTop, hp, List.modifyHead_cons]
  rw [operands_of_splitTop hsplit, operands_of_splitTop hp, regroup_blank_append h]

theorem operands_append_blank {trail : Text} (h : Blank trail) (t : Text) :
    operands (t ++ trail) = glue (operands t) [trail] := by
  obtain ⟨p, ps, hp⟩ := List.exists_cons_of_ne_nil (splitFrom_ne_nil '+' .top t)
  have hsplit : splitTop '+' (t ++ trail) = glue (p :: ps) [trail] := by
    rw [splitTop_append_blank (by decide) h, splitTop, hp]
  rw [operands_of_splitTop hp]
  cases ps with
  | nil => exact operands_of_splitTop hsplit
  | cons q qs =>
    rw [glue_cons (List.cons_ne_nil q qs)] at hsplit
    rw [operands_of_splitTop hsplit, regroup_append_blank h]

theorem map_trim_glue_blank {trail : Text} (h : Blank trail) {ps : List Text} (hps : ps ≠ []) :
    (glue ps [trail]).map trim = ps.map trim := by
  induction ps with
  | nil => contradiction
  | cons p ps ih =>
    by_cases hp : ps = []
    · subst hp
      simp [glue, trim_append_blank h]
    · rw [glue_cons hp, List.map_cons, ih hp, List.map_cons]

/-- Trimming a text is trimming its operands. -/
theorem map_trim_operands_trim (t : Text) :
    (operands t.trim).map trim = (operands t).map trim := by
  obtain ⟨lead, trail, hl, ht, h⟩ := exists_blank_ends t
  conv => rhs; rw [h]
  obtain ⟨p, ps, hp⟩ := List.exists_cons_of_ne_nil (operands_ne_nil t.trim)
  have hlead : operands (lead ++ t.trim) = (lead ++ p) :: ps := by
    rw [operands_blank_append hl, hp, List.modifyHead_cons]
  rw [operands_append_blank ht, map_trim_glue_blank ht (operands_ne_nil _), hlead, hp]
  simp only [List.map_cons, trim_blank_append hl]

/-! ## Reading -/

theorem read_trim (t : Text) : read t.trim = read t := by
  rw [read_eq, read_eq t, trim_trim]

theorem map_read_trim (ts : List Text) : (ts.map trim).map read = ts.map read := by
  rw [List.map_map]
  exact List.map_congr_left fun t _ => read_trim t

/-- A text with several operands is their concatenation, also if there are blanks around it. -/
theorem read_concat {t : Text} (h : 2 ≤ (operands t).length) :
    read t = concat ((operands t).map read) := by
  have htrim := map_trim_operands_trim t
  have hlength : (operands t.trim).length = (operands t).length := by
    simpa only [List.length_map] using congrArg List.length htrim
  have hread := congrArg (List.map read) htrim
  rw [map_read_trim, map_read_trim] at hread
  rw [read_eq, if_pos (hlength ▸ h), hread]

/-- A trimmed text in one operand is read by its first and last characters. -/
theorem read_operand {t : Text} (htrim : t.trim = t) (hone : operands t = [t]) :
    read t =
      match between? '[' ']' t with
      | some inner => array ((splitArguments inner).map read)
      | none =>
        match between? '\x7b' '\x7d' t with
        | some inner =>
          object ((splitEntries inner).map fun (key, value) => (key, read value))
        | none => readAtom t := by
  rw [read_eq, htrim, hone]
  rfl

end LineScript.Expression
