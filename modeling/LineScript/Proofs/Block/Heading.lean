import LineScript.Proofs.Block.Scan

/-! The headings of regions as they are written: a block keyword, for a handler perhaps a name in
parentheses, and an opening brace. Reading a heading gives its kind, the closing braces before it,
and its name (`Heading.read?_text`, `Heading.binding?_rest`), and leaves one brace open
(`Heading.past_rest`). -/

namespace LineScript

open Unicode Text

/-! ## Words -/

/-- A nonempty text of letters, numbers and underscores. -/
def IsWord (t : Text) : Prop := t ≠ [] ∧ ∀ c ∈ t, isWordChar c = true

instance (t : Text) : Decidable (IsWord t) :=
  decidable_of_iff (t ≠ [] ∧ t.all isWordChar = true) (and_congr_right' List.all_eq_true)

theorem isPlain_of_isWordChar {c : Char} (h : isWordChar c = true) : IsPlain c := by
  refine ⟨?_, ?_, ?_, ?_⟩ <;> rintro rfl <;> revert h <;> decide

theorem isBlank_of_isWordChar {c : Char} (h : isWordChar c = true) : isBlank c = false := by
  cases hb : isBlank c with
  | false => rfl
  | true =>
    rw [isWordChar_of_isBlank hb] at h
    contradiction

theorem Text.trimStart_cons {c : Char} (h : isBlank c = false) (t : Text) :
    trimStart (c :: t) = c :: t := by
  simp [trimStart, h]

/-- A word ends where something else than a letter, a number or an underscore stands. -/
theorem IsWord.takeWhile_append {name : Text} (h : IsWord name) {c : Char}
    (hc : isWordChar c = false) (t : Text) : (name ++ c :: t).takeWhile isWordChar = name := by
  rw [List.takeWhile_append_of_pos h.2, List.takeWhile_cons_of_neg (by simp [hc]), List.append_nil]

theorem IsWord.trimStart_append {name : Text} (h : IsWord name) (t : Text) :
    trimStart (name ++ t) = name ++ t := by
  obtain ⟨hne, hword⟩ := h
  cases name with
  | nil => contradiction
  | cons c name => exact trimStart_cons (isBlank_of_isWordChar (hword c (by simp))) (name ++ t)

/-! ## Keywords -/

namespace Opener

/-- Behind closing braces and blanks a keyword is read as it stands, since no two keywords begin
with the same character. -/
theorem read?_keyword {lead word rest : Text} {kind : BlockKind}
    (hl : ∀ c ∈ lead, isLead c = true) (hw : (word, kind) ∈ keywords)
    (he : endsKeyword rest = true) :
    read? (lead ++ (word ++ rest)) = some ⟨kind, lead.count '\x7d', rest⟩ := by
  have hfirst : ∀ k ∈ keywords, ∃ c t, k.1 = c :: t ∧ isLead c = false := by
    have table : keywords.all (·.1.head?.any (!isLead ·)) = true := by decide
    intro k hk
    have hhead := List.all_eq_true.mp table k hk
    cases hword : k.1 with
    | nil => simp [hword] at hhead
    | cons c t => exact ⟨c, t, rfl, by simpa [hword] using hhead⟩
  obtain ⟨c, t, rfl, hc⟩ := hfirst _ hw
  have hdrop : (lead ++ (c :: t ++ rest)).dropWhile isLead = c :: t ++ rest := by
    rw [List.dropWhile_append_of_pos hl, List.cons_append,
      List.dropWhile_cons_of_neg (by simp [hc])]
  have htake : (lead ++ (c :: t ++ rest)).takeWhile isLead = lead := by
    rw [List.takeWhile_append_of_pos hl, List.cons_append,
      List.takeWhile_cons_of_neg (by simp [hc]), List.append_nil]
  have hof : ofKeyword? (lead ++ (c :: t ++ rest)) = fun k =>
      (stripKeyword? k.1 (c :: t ++ rest)).map fun behind =>
        ⟨k.2, lead.count '\x7d', behind⟩ := by
    funext k
    rw [ofKeyword?, hdrop, htake]
  rw [read?_eq, hof]
  simp only [keywords, List.mem_cons, Prod.mk.injEq, List.not_mem_nil, or_false] at hw
  rcases hw with ⟨hw, rfl⟩ | ⟨hw, rfl⟩ | ⟨hw, rfl⟩ | ⟨hw, rfl⟩ | ⟨hw, rfl⟩ | ⟨hw, rfl⟩ <;>
    simp [hw, keywords, stripKeyword?, stripPrefix?, he]

end Opener

/-! ## Headings -/

/-- A heading of a region of the given kind, with blanks where they may stand. -/
structure Heading (kind : BlockKind) where
  word : Text
  /-- The blanks behind the keyword. -/
  gap : Text
  /-- The name in parentheses, and the blanks behind it. -/
  name : Option (Text × Text)
  /-- The blanks behind the brace. -/
  trail : Text
  isKeyword : (word, kind) ∈ Opener.keywords
  blankGap : Blank gap
  blankTrail : Blank trail
  named : ∀ n ∈ name, kind = .catchBlock ∧ IsWord n.1 ∧ Blank n.2

namespace Heading

variable {kind : BlockKind} (h : Heading kind)

/-- The text of a heading between its keyword and its brace. -/
def front : Text :=
  h.gap ++ (h.name.map fun (name, gap) => '(' :: name ++ ')' :: gap).getD []

/-- The text of a heading behind its keyword. -/
def rest : Text := h.front ++ '\x7b' :: h.trail

/-- The text of a heading. -/
def text : Text := h.word ++ h.rest

theorem isPlain_front : ∀ c ∈ h.front, IsPlain c := by
  intro c hc
  cases hn : h.name with
  | none =>
    simp only [front, hn, Option.map_none, Option.getD_none, List.append_nil] at hc
    exact h.blankGap.isPlain c hc
  | some n =>
    obtain ⟨_, hword, hblank⟩ := h.named n (by simp [hn])
    simp only [front, hn, Option.map_some, Option.getD_some, List.mem_append, List.cons_append,
      List.mem_cons] at hc
    rcases hc with hc | rfl | hc | rfl | hc
    · exact h.blankGap.isPlain c hc
    · exact ⟨by decide, by decide, by decide, by decide⟩
    · exact isPlain_of_isWordChar (hword.2 c hc)
    · exact ⟨by decide, by decide, by decide, by decide⟩
    · exact hblank.isPlain c hc

/-- A heading leaves its brace open. -/
theorem past_rest : BraceDepth.start.past h.rest = ⟨1, true⟩ := by
  have hcounts : braceCounts none h.rest = (1, 0) := by
    rw [rest, braceCounts_plain_append h.isPlain_front]
    simp [braceCounts, braceCounts_plain h.blankTrail.isPlain]
  simp [BraceDepth.past, BraceDepth.start, hcounts]

/-- Behind the blanks of a heading stands a parenthesis or the brace. -/
theorem exists_trimStart_rest : ∃ c t, h.rest.trimStart = c :: t ∧ (c = '(' ∨ c = '\x7b') := by
  cases hn : h.name with
  | none =>
    refine ⟨'\x7b', h.trail, ?_, Or.inr rfl⟩
    simp only [rest, front, hn, Option.map_none, Option.getD_none, List.append_nil,
      trimStart_blank_append h.blankGap]
    exact trimStart_cons (by decide) _
  | some n =>
    refine ⟨'(', n.1 ++ ')' :: n.2 ++ '\x7b' :: h.trail, ?_, Or.inl rfl⟩
    simp only [rest, front, hn, Option.map_some, Option.getD_some, List.append_assoc,
      trimStart_blank_append h.blankGap]
    exact trimStart_cons (by decide) _

theorem endsKeyword_rest : Opener.endsKeyword h.rest = true := by
  obtain ⟨c, t, htrim, hc⟩ := h.exists_trimStart_rest
  have hassigned : c ≠ '=' := by rcases hc with rfl | rfl <;> decide
  have hword : isWordChar c = false := by rcases hc with rfl | rfl <;> decide
  -- The character behind the keyword is a blank, or the first one behind all blanks.
  have hhead : h.rest.head?.any isWordChar = false := by
    cases hr : h.rest with
    | nil => rfl
    | cons d s =>
      cases hd : isBlank d with
      | true => exact isWordChar_of_isBlank hd
      | false =>
        rw [hr, trimStart_cons hd] at htrim
        obtain ⟨rfl, _⟩ := List.cons.inj htrim
        exact hword
  simp [Opener.endsKeyword, hhead, htrim, hassigned]

/-- A heading is read as the opener of its kind, behind any closing braces and blanks. -/
theorem read?_text {lead : Text} (hl : ∀ c ∈ lead, Opener.isLead c = true) :
    Opener.read? (lead ++ h.text) = some ⟨kind, lead.count '\x7d', h.rest⟩ :=
  Opener.read?_keyword hl h.isKeyword h.endsKeyword_rest

/-- A heading binds its name. -/
theorem binding?_rest : Opener.binding? h.rest = h.name.map Prod.fst := by
  cases hn : h.name with
  | none =>
    have htrim : h.rest.trimStart = '\x7b' :: h.trail := by
      simp only [rest, front, hn, Option.map_none, Option.getD_none, List.append_nil,
        trimStart_blank_append h.blankGap]
      exact trimStart_cons (by decide) _
    have hword : isWordChar '\x7b' = false := by decide
    have hblank : isBlank '\x7b' = false := by decide
    simp [Opener.binding?, htrim, stripPrefix?, trimStart_cons hblank, hword]
  | some n =>
    obtain ⟨_, hword, _⟩ := h.named n (by simp [hn])
    have htrim : h.rest.trimStart = '(' :: (n.1 ++ ')' :: (n.2 ++ '\x7b' :: h.trail)) := by
      simp only [rest, front, hn, Option.map_some, Option.getD_some, List.append_assoc,
        trimStart_blank_append h.blankGap, List.cons_append]
      exact trimStart_cons (by decide) _
    have hparen : isWordChar ')' = false := by decide
    have htake := hword.takeWhile_append hparen (n.2 ++ '\x7b' :: h.trail)
    simp [Opener.binding?, htrim, stripPrefix?, hword.trimStart_append, htake, hword.1]

end Heading

end LineScript
