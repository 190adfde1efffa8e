import LineScript.Proofs.Text.Closed

/-!
The pieces of a text. A piece has no separator of its own (`splitTop_pieces`). Texts without a comma of
their own, with blanks around them and commas in between, are the arguments of the whole
(`splitArguments_padded`).
-/

namespace LineScript.Text

open Nesting Unicode

variable {sep : Char} {n : Nesting} {t : Text}

/-! ## Pieces -/

/-- No piece has a separator of its own. Behind a separator that opens something it would be another
matter: the first piece behind it begins inside what is opened. -/
theorem whole_pieces (hsep : sep ∉ marks) {first : Text} {rest : List Text}
    (h : splitFrom sep n t = first :: rest) :
    Whole sep n first ∧ ∀ piece ∈ rest, Whole sep top piece := by
  induction t generalizing n first rest with
  | nil =>
    cases h
    exact ⟨rfl, by simp⟩
  | cons c t ih =>
    obtain ⟨p, ps, hp⟩ := List.exists_cons_of_ne_nil (splitFrom_ne_nil sep (n.step c) t)
    obtain ⟨hfirst, hrest⟩ := ih hp
    rw [splitFrom, hp] at h
    split at h
    · next hcuts =>
      obtain ⟨rfl, rfl⟩ := cuts_iff.mp hcuts
      rw [step_of_not_mark rfl hsep] at hfirst
      cases h
      exact ⟨rfl, List.forall_mem_cons.mpr ⟨hfirst, hrest⟩⟩
    · next hcuts =>
      cases h
      exact ⟨hfirst.cons (Classical.not_and_iff_not_or_not.mp (mt cuts_iff.mpr hcuts)), hrest⟩

/-- The pieces of a text, joined with the separator, are the text. A search finds the separator behind
the first piece, if there is another one. A separator that does not move the walk splits no piece
again. -/
theorem splitTop_pieces (sep : Char) (t : Text) :
    ∃ first rest, splitTop sep t = first :: rest ∧
      joinWith [sep] (first :: rest) = t ∧
      findTop? sep t = (if rest = [] then none else some first.byteSize) ∧
      (sep ∉ marks → ∀ piece ∈ first :: rest, splitTop sep piece = [piece]) := by
  obtain ⟨first, rest, hsplit⟩ := List.exists_cons_of_ne_nil (splitFrom_ne_nil sep top t)
  refine ⟨first, rest, hsplit, hsplit ▸ joinWith_splitTop sep t, ?_, ?_⟩
  · have heq := splitFrom_eq sep top t
    rw [hsplit] at heq
    rw [findTop?, cutTop?]
    cases hcut : cutFrom? sep top t with
    | none =>
      rw [hcut] at heq
      cases heq
      rfl
    | some cut =>
      rw [hcut] at heq
      cases heq
      rw [if_neg (splitFrom_ne_nil _ _ _)]
      rfl
  · intro hsep
    obtain ⟨hfirst, hrest⟩ := whole_pieces hsep hsplit
    exact List.forall_mem_cons.mpr ⟨hfirst, hrest⟩

/-- A wide character, and a closing parenthesis that closes nothing. -/
theorem splitTop_pieces_wide :
    let t := "é), \"a,b\"".toList
    ',' ∉ marks ∧ findTop? ',' t = some 3 ∧
      splitTop ',' t = ["é)".toList, " \"a,b\"".toList] ∧
      splitTop ',' "é)".toList = ["é)".toList] ∧
      splitTop ',' " \"a,b\"".toList = [" \"a,b\"".toList] := by
  intro t
  have hsep : ',' ∉ marks := by decide
  have hpieces : splitTop ',' t = ["é)".toList, " \"a,b\"".toList] := by decide
  obtain ⟨first, rest, hsplit, -, hfind, hwhole⟩ := splitTop_pieces ',' t
  obtain ⟨rfl, rfl⟩ := List.cons.inj (hpieces.symm.trans hsplit)
  exact ⟨hsep, hfind, hpieces, hwhole hsep _ (by simp), hwhole hsep _ (by simp)⟩

/-! ## Arguments -/

/-- A text that can stand between two commas: a walk over it comes back to the top level, and no comma
in it is met there. -/
structure IsArgument (t : Text) : Prop where
  trimmed : t.trim = t
  nonempty : t ≠ []
  closed : top.after t = top
  uncut : ∀ before behind, t = before ++ ',' :: behind → top.after before ≠ top

/-- Segments with these texts in them, in this order. There may be blanks around a text, and segments of
nothing but blanks anywhere. -/
inductive Padded : List Text → List Text → Prop where
  | nil : Padded [] []
  | text {t lead trail : Text} {ts segments : List Text} (hlead : Blank lead)
      (htrail : Blank trail) (rest : Padded ts segments) :
      Padded (t :: ts) ((lead ++ t ++ trail) :: segments)
  | blank {gap : Text} {ts segments : List Text} (hgap : Blank gap) (rest : Padded ts segments) :
      Padded ts (gap :: segments)

theorem after_blank {gap : Text} (h : Blank gap) : top.after gap = top :=
  after_of_no_mark rfl fun c hc => not_mark_of_isBlank (h c hc)

theorem Blank.whole {gap : Text} (h : Blank gap) (hsep : isBlank sep = false) (n : Nesting) :
    Whole sep n gap :=
  whole_of_not_mem (h.not_mem hsep) n

theorem Padded.whole {ts segments : List Text} (h : Padded ts segments)
    (hts : ∀ t ∈ ts, IsArgument t) :
    ∀ s ∈ segments, top.after s = top ∧ Whole ',' top s := by
  induction h with
  | nil => simp
  | @text t lead trail ts segments hlead htrail rest ih =>
    obtain ⟨ht, hts⟩ := List.forall_mem_cons.mp hts
    have hwhole : Whole ',' top t := whole_iff_cutFrom?.mpr (cutFrom?_eq_none_iff.mpr ht.uncut)
    have hfront : top.after (lead ++ t) = top := by rw [after_append, after_blank hlead, ht.closed]
    refine List.forall_mem_cons.mpr ⟨⟨?_, ?_⟩, ih hts⟩
    · rw [after_append, hfront, after_blank htrail]
    · apply Whole.append _ (htrail.whole (by decide) _)
      apply (hlead.whole (by decide) _).append
      rwa [after_blank hlead]
  | blank hgap rest ih =>
    exact List.forall_mem_cons.mpr ⟨⟨after_blank hgap, hgap.whole (by decide) _⟩, ih hts⟩

theorem Padded.filter_trim {ts segments : List Text} (h : Padded ts segments)
    (hts : ∀ t ∈ ts, IsArgument t) : (segments.map trim).filter (!·.isEmpty) = ts := by
  induction h with
  | nil => rfl
  | @text t lead trail ts segments hlead htrail rest ih =>
    obtain ⟨ht, hts⟩ := List.forall_mem_cons.mp hts
    rw [List.map_cons, trim_blank_ends hlead htrail, ht.trimmed, List.filter_cons_of_pos, ih hts]
    simpa using ht.nonempty
  | @blank gap ts segments hgap rest ih =>
    have htrim : trim gap = [] := by
      rw [trim, hgap.trimStart]
      rfl
    rw [List.map_cons, htrim, List.filter_cons_of_neg (by simp), ih hts]

/-- Arguments with commas between them, blanks around them and empty segments among them are what
splitting finds. -/
theorem splitArguments_padded {ts segments : List Text} (hts : ∀ t ∈ ts, IsArgument t)
    (h : Padded ts segments) : splitArguments (joinWith [','] segments) = ts := by
  by_cases hne : segments = []
  · subst hne
    cases h
    rfl
  · rw [splitArguments, splitTop_joinWith (by decide) hne (h.whole hts),
      h.filter_trim hts]

/-- Nested commas, a closing parenthesis that closes nothing, and two segments without an argument. -/
theorem splitArguments_padded_nested :
    let ts := ["f(1, 2)".toList, "'a,b'".toList, "x)".toList]
    let segments := [[], " f(1, 2)\t".toList, "'a,b'".toList, "  ".toList, "x) ".toList]
    (∀ t ∈ ts, IsArgument t) ∧ Padded ts segments ∧
      joinWith [','] segments = ", f(1, 2)\t,'a,b',  ,x) ".toList ∧
      splitArguments (joinWith [','] segments) = ts := by
  intro ts segments
  have hargument : ∀ t : Text, t.trim = t → t ≠ [] → top.after t = top →
      cutFrom? ',' top t = none → IsArgument t :=
    fun t htrim hne hclosed huncut => ⟨htrim, hne, hclosed, cutFrom?_eq_none_iff.mp huncut⟩
  have hts : ∀ t ∈ ts, IsArgument t := by
    simp only [ts, List.forall_mem_cons]
    refine ⟨hargument _ ?_ ?_ ?_ ?_, hargument _ ?_ ?_ ?_ ?_, hargument _ ?_ ?_ ?_ ?_, by simp⟩
    all_goals decide
  have hpadded : Padded ts segments := by
    have hnone : Blank [] := Blank.nil
    have hspace : Blank [' '] := by decide
    have htab : Blank ['\t'] := by decide
    have hspaces : Blank [' ', ' '] := by decide
    exact .blank hnone (.text hspace htab (.text hnone hnone
      (.blank hspaces (.text hnone hspace .nil))))
  exact ⟨hts, hpadded, by decide, splitArguments_padded hts hpadded⟩

end LineScript.Text
