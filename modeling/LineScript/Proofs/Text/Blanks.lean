import LineScript.Nesting

/-! Blanks at the ends of a text. A text is its trimmed form between two runs of blanks
(`exists_blank_ends`), so what holds of a text for any blanks around it holds of its trimmed form.
-/

namespace LineScript

open Unicode

theorem ne_of_isBlank {c d : Char} (h : isBlank c = true) (hd : isBlank d = false) : c ≠ d := by
  rintro rfl
  rw [h] at hd
  contradiction

/-- No digit is a blank. -/
theorem isBlank_of_isDigit {c : Char} (h : c.isDigit = true) : isBlank c = false := by
  have hdigit : 48 ≤ c.toNat ∧ c.toNat ≤ 57 := by
    simpa [Char.isDigit, UInt32.le_iff_toNat_le] using h
  rw [Bool.eq_false_iff]
  intro hb
  obtain ⟨r, hr, hlow, hhigh⟩ := exists_of_inRanges hb
  have table : ∀ r ∈ blankRanges, r.2 < 48 ∨ 57 < r.1 := by decide
  have hout := table r hr
  omega

namespace Text

/-- Nothing but blanks. -/
def Blank (t : Text) : Prop := ∀ c ∈ t, isBlank c = true

instance (t : Text) : Decidable (Blank t) :=
  decidable_of_iff (t.all isBlank = true) List.all_eq_true

theorem Blank.nil : Blank [] := by
  intro c h
  simp at h

theorem Blank.dropWhile_append {t : Text} (h : Blank t) (s : Text) :
    (t ++ s).dropWhile isBlank = s.dropWhile isBlank :=
  List.dropWhile_append_of_pos h

theorem Blank.trimStart {t : Text} (h : Blank t) : trimStart t = [] := by
  have hd := h.dropWhile_append []
  simpa [Text.trimStart] using hd

theorem Blank.reverse {t : Text} (h : Blank t) : Blank t.reverse := by
  intro c hc
  exact h c (List.mem_reverse.mp hc)

theorem blank_takeWhile (t : Text) : Blank (t.takeWhile isBlank) := by
  intro c hc
  induction t with
  | nil => simp at hc
  | cons d rest ih =>
    simp only [List.takeWhile_cons] at hc
    split at hc
    · next hd =>
      rcases List.mem_cons.mp hc with rfl | hc
      · exact hd
      · exact ih hc
    · simp at hc

/-- Leading blanks are gone after trimming. -/
theorem trimStart_blank_append {lead : Text} (h : Blank lead) (t : Text) :
    trimStart (lead ++ t) = trimStart t :=
  h.dropWhile_append t

/-- Blanks behind a text stay behind what is left of it, unless nothing is left. -/
theorem trimStart_append (t s : Text) :
    trimStart (t ++ s) = if (trimStart t).isEmpty then trimStart s else trimStart t ++ s :=
  List.dropWhile_append

theorem exists_trimStart_append {trail : Text} (h : Blank trail) (t : Text) :
    ∃ s, Blank s ∧ trimStart (t ++ trail) = trimStart t ++ s := by
  rw [trimStart_append]
  split
  · next he => exact ⟨[], .nil, by rw [h.trimStart, List.isEmpty_iff.mp he, List.nil_append]⟩
  · exact ⟨trail, h, rfl⟩

theorem trimEnd_append_blank {trail : Text} (h : Blank trail) (t : Text) :
    trimEnd (t ++ trail) = trimEnd t := by
  simp only [trimEnd, dropEndWhile, List.reverse_append, h.reverse.dropWhile_append]

theorem trim_blank_append {lead : Text} (h : Blank lead) (t : Text) :
    trim (lead ++ t) = trim t := by
  simp only [trim, trimStart_blank_append h]

theorem trim_append_blank {trail : Text} (h : Blank trail) (t : Text) :
    trim (t ++ trail) = trim t := by
  simp only [trim, trimStart_append]
  split
  · next hs => rw [h.trimStart, List.isEmpty_iff.mp hs]
  · exact trimEnd_append_blank h _

/-- Trimming takes no notice of blanks around a text. -/
theorem trim_blank_ends {lead trail : Text} (hl : Blank lead) (ht : Blank trail) (t : Text) :
    trim (lead ++ t ++ trail) = trim t := by
  rw [trim_append_blank ht, trim_blank_append hl]

theorem exists_blank_lead (t : Text) : ∃ lead, Blank lead ∧ t = lead ++ trimStart t :=
  ⟨t.takeWhile isBlank, blank_takeWhile t, List.takeWhile_append_dropWhile.symm⟩

theorem exists_blank_trail (t : Text) : ∃ trail, Blank trail ∧ t = trimEnd t ++ trail := by
  obtain ⟨lead, hl, ht⟩ := exists_blank_lead t.reverse
  refine ⟨lead.reverse, hl.reverse, ?_⟩
  have hr := congrArg List.reverse ht
  simpa [trimStart, trimEnd, dropEndWhile] using hr

/-- A text is its trimmed form with blanks around it. -/
theorem exists_blank_ends (t : Text) :
    ∃ lead trail, Blank lead ∧ Blank trail ∧ t = lead ++ trim t ++ trail := by
  obtain ⟨lead, hl, h₁⟩ := exists_blank_lead t
  obtain ⟨trail, ht, h₂⟩ := exists_blank_trail (trimStart t)
  refine ⟨lead, trail, hl, ht, ?_⟩
  rw [List.append_assoc]
  exact h₁.trans (congrArg (lead ++ ·) h₂)

theorem dropWhile_of_head? {t : Text} (h : ∀ c, t.head? = some c → isBlank c = false) :
    t.dropWhile isBlank = t := by
  cases t with
  | nil => rfl
  | cons c rest => rw [List.dropWhile_cons, h c rfl, if_neg Bool.false_ne_true]

/-- A text that neither begins nor ends with a blank is trimmed. -/
theorem trim_of_ends {t : Text} (hhead : ∀ c, t.head? = some c → isBlank c = false)
    (hlast : ∀ c, t.getLast? = some c → isBlank c = false) : trim t = t := by
  have hend : t.reverse.dropWhile isBlank = t.reverse := by
    apply dropWhile_of_head?
    rwa [List.head?_reverse]
  rw [trim, trimStart, dropWhile_of_head? hhead, trimEnd, dropEndWhile, hend, List.reverse_reverse]

theorem trim_of_not_blank {t : Text} (h : ∀ c ∈ t, isBlank c = false) : trim t = t :=
  trim_of_ends (fun c hc => h c (List.mem_of_mem_head? hc))
    fun c hc => h c (List.mem_of_getLast? hc)

theorem trim_enclosed {first last : Char} (hfirst : isBlank first = false)
    (hlast : isBlank last = false) (t : Text) :
    trim (first :: (t ++ [last])) = first :: (t ++ [last]) := by
  apply trim_of_ends
  · intro c hc
    obtain rfl : first = c := by simpa using hc
    exact hfirst
  · intro c hc
    rw [List.getLast?_cons, List.getLast?_concat] at hc
    obtain rfl : last = c := by simpa using hc
    exact hlast

/-- A trimmed text does not begin with a blank. -/
theorem isBlank_head_of_trim {t : Text} (h : trim t = t) :
    ∀ c, t.head? = some c → isBlank c = false := by
  intro c hc
  obtain ⟨rest, rfl⟩ := List.head?_eq_some_iff.mp hc
  rw [Bool.eq_false_iff]
  intro hb
  have hlead : Blank [c] := by
    intro d hd
    rwa [List.mem_singleton.mp hd]
  have htrim := trim_blank_append hlead rest
  have hlength := length_trim_le rest
  rw [← htrim, List.singleton_append, h, List.length_cons] at hlength
  omega

theorem isBlank_getLast_of_trim {t : Text} (h : trim t = t) :
    ∀ c, t.getLast? = some c → isBlank c = false := by
  intro c hc
  obtain ⟨init, rfl⟩ := List.getLast?_eq_some_iff.mp hc
  rw [Bool.eq_false_iff]
  intro hb
  have htrail : Blank [c] := by
    intro d hd
    rwa [List.mem_singleton.mp hd]
  have htrim := trim_append_blank htrail init
  have hlength := length_trim_le init
  rw [← htrim, h, List.length_append, List.length_singleton] at hlength
  omega

@[simp] theorem trim_trim (t : Text) : trim (trim t) = trim t := by
  obtain ⟨lead, trail, hl, ht, h⟩ := exists_blank_ends t
  have hb := trim_blank_ends hl ht (trim t)
  rw [← h] at hb
  exact hb.symm

end Text

end LineScript
