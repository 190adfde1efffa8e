import LineScript.Proofs.Block.Opening
import LineScript.Proofs.Expression.Identifier

/-!
Which rule a line falls to. A line that reads as an opener falls to the rule for blocks, since neither
imports nor declarations begin as an opener does (`classify_of_read?`). A line that says nothing falls
to no rule that asks for anything: it is structural or an expression (`classify_of_isSkippable`).
-/

namespace LineScript

open Unicode Text

/-! ## What is in front of a cut -/

namespace Text

theorem stripWord?_eq_none {word t : Text} (h : ¬ word <+: t) : stripWord? word t = none := by
  have hnone : stripPrefix? word t = none := by
    rw [Option.eq_none_iff_forall_ne_some]
    intro rest hrest
    exact h ⟨rest, (stripPrefix?_eq_some.mp hrest).symm⟩
  rw [stripWord?, hnone]

theorem findSome?_stripWord? {words : List Text} {t : Text} (h : ∀ word ∈ words, ¬ word <+: t) :
    words.findSome? (stripWord? · t) = none :=
  List.findSome?_eq_none_iff.mpr fun word hw => stripWord?_eq_none (h word hw)

/-- Trimming takes nothing but blanks away. -/
theorem mem_trim {t : Text} {c : Char} (h : c ∈ t) (hc : isBlank c = false) : c ∈ t.trim := by
  obtain ⟨lead, trail, hl, ht, heq⟩ := exists_blank_ends t
  rw [heq, List.mem_append, List.mem_append] at h
  rcases h with (h | h) | h
  · exact absurd h (hl.not_mem hc)
  · exact h
  · exact absurd h (ht.not_mem hc)

end Text

namespace Statement

/-- A cut at an equals sign leaves nothing out. -/
theorem cutAssignment?_append {before t left right : Text}
    (h : cutAssignment? before t = some (left, right)) :
    before.reverse ++ t = left ++ '=' :: right := by
  fun_induction cutAssignment? before t with
  | case1 => cases h
  | case2 before t left' right' hcut ih =>
    rw [← ih h, Text.cutTop?_append hcut]
    simp
  | case3 before t left' right' _ hcut before' hoperator ih =>
    rw [← ih h, Text.cutTop?_append hcut]
    simp [before']
  | case4 before t left' right' _ hcut before' hoperator =>
    obtain ⟨rfl, rfl⟩ := Prod.mk.inj (Option.some.inj h)
    rw [Text.cutTop?_append hcut]
    simp [before']

/-- A line that begins with no word for imports and declarations, and is not of braces alone, falls to
one of the last three rules or is an expression. -/
theorem classify_of_refused {line : Text} {c : Char}
    (hwords : ∀ word ∈ importWords ++ declarationWords, ¬ word <+: line) (hmem : c ∈ line)
    (hc : (c == '\x7b' || c == '\x7d' || c == ';' || isBlank c) = false) :
    classify line =
      ((block? line).or ((assignment? line).or (call? line))).getD (.expression line) := by
  have hstructural : structural? line = none := by
    rw [structural?, if_neg]
    intro hall
    rw [List.all_eq_true.mp hall c hmem] at hc
    contradiction
  have himports : importLine? line = none := by
    rw [importLine?, findSome?_stripWord? fun word hw => hwords word (List.mem_append_left _ hw)]
  have hdeclarations : declaration? line = none := by
    rw [declaration?, List.findSome?_eq_none_iff]
    intro word hw
    rw [declarationBy?, stripWord?_eq_none (hwords word (List.mem_append_right _ hw))]
  simp only [classify, Rule.all, Rule.accept?, List.findSome?_cons, hstructural, himports,
    hdeclarations]
  cases block? line with
  | some statement => rfl
  | none =>
    cases assignment? line with
    | some statement => rfl
    | none => cases call? line <;> rfl

/-! ## Lines that say nothing -/

/-- What is in front of a cut of a comment is no name. -/
theorem isIdentifier_of_comment {rest before behind : Text} {c : Char} (hc : c ≠ '#')
    (h : '#' :: rest = before ++ c :: behind) : isIdentifier before.trim = false := by
  cases before with
  | nil => exact absurd (List.cons.inj h).1.symm hc
  | cons d before =>
    obtain ⟨rfl, -⟩ := List.cons.inj h
    rw [Bool.eq_false_iff]
    intro hname
    have hblank : isBlank '#' = false := by decide
    have hmem : '#' ∈ trim ('#' :: before) := mem_trim List.mem_cons_self hblank
    have hword := (isWord_of_isIdentifier hname).2 '#' hmem
    exact absurd hword (by decide)

theorem classify_comment {rest : Text} (htrim : trim ('#' :: rest) = '#' :: rest) :
    classify ('#' :: rest) = .expression ('#' :: rest) := by
  have hwords : ∀ word ∈ importWords ++ declarationWords ++ variableWords,
      ¬ word <+: '#' :: rest := by
    have table : (importWords ++ declarationWords ++ variableWords).all
        (·.head?.any (· != '#')) = true := by decide
    rintro (_ | ⟨c, word⟩) hw hstart
    · exact absurd (List.all_eq_true.mp table [] hw) (by decide)
    · have hne := List.all_eq_true.mp table _ hw
      obtain ⟨rfl, -⟩ := List.cons_prefix_cons.mp hstart
      simp at hne
  have hblock : block? ('#' :: rest) = none := by rw [block?, Opener.read?_comment, Option.map_none]
  have hassignment : assignment? ('#' :: rest) = none := by
    rw [assignment?, findSome?_stripWord? fun word hw => hwords word (List.mem_append_right _ hw),
      Option.getD_none]
    cases hcut : cutAssignment? [] ('#' :: rest) with
    | none => rfl
    | some cut =>
      have hname := isIdentifier_of_comment (by decide) (cutAssignment?_append hcut)
      simp only [hname, Bool.false_and, Bool.false_eq_true, ↓reduceIte]
  have hcall : call? ('#' :: rest) = none := by
    rw [call?, splitCall?, htrim]
    cases hcut : cutAt? (· == '(') ('#' :: rest) with
    | none => rfl
    | some cut =>
      obtain ⟨c, hc, -, heq⟩ := cutAt?_eq_some.mp hcut
      have hname := isIdentifier_of_comment (by rintro rfl; simp at hc) heq
      simp only [hname, Bool.false_eq_true, ↓reduceIte, Option.map_none]
  have hplain : ('#' == '\x7b' || '#' == '\x7d' || '#' == ';' || isBlank '#') = false := by decide
  rw [classify_of_refused (fun word hw => hwords word (List.mem_append_left _ hw))
    List.mem_cons_self hplain, hblock, hassignment, hcall]
  rfl

/-- A line that says nothing asks for nothing but its value. -/
theorem classify_of_isSkippable {line : Text} (h : isSkippable line = true) :
    classify line.trim = .structural ∨ classify line.trim = .expression line.trim := by
  have htrim := trim_trim line
  simp only [isSkippable] at h
  split at h
  · next heq =>
    rw [heq]
    exact Or.inl (by decide)
  · next c rest heq =>
    rw [heq] at htrim ⊢
    obtain rfl := eq_of_beq h
    exact Or.inr (classify_comment htrim)

/-- A line that is taken for neither says something. -/
theorem isSkippable_of_classify {line : Text} (hs : classify line.trim ≠ .structural)
    (he : ∀ t, classify line.trim ≠ .expression t) : isSkippable line = false := by
  rw [Bool.eq_false_iff]
  intro h
  rcases classify_of_isSkippable h with hc | hc
  · exact hs hc
  · exact he _ hc

/-! ## Openers -/

/-- No word that begins an import or a declaration begins a line that reads as an opener. -/
theorem not_prefix_of_opener {word keyword lead rest : Text} {kind : BlockKind}
    (hw : word ∈ importWords ++ declarationWords) (hk : (keyword, kind) ∈ Opener.keywords)
    (hlead : ∀ c ∈ lead, Opener.isLead c = true) : ¬ word <+: lead ++ (keyword ++ rest) := by
  have table : (importWords ++ declarationWords).all (fun word => word.head?.any (!Opener.isLead ·) &&
      Opener.keywords.all fun k => !word.isPrefixOf k.1 && !k.1.isPrefixOf word) = true := by
    decide
  have hword := List.all_eq_true.mp table word hw
  rw [Bool.and_eq_true] at hword
  obtain ⟨hfirst, hkeywords⟩ := hword
  have hapart := List.all_eq_true.mp hkeywords _ hk
  simp only [Bool.and_eq_true, Bool.not_eq_true', ← Bool.not_eq_true,
    List.isPrefixOf_iff_prefix] at hapart
  intro hstart
  cases lead with
  | nil =>
    rcases List.prefix_or_prefix_of_prefix hstart (List.prefix_append keyword rest) with h | h
    · exact hapart.1 h
    · exact hapart.2 h
  | cons d lead =>
    cases word with
    | nil => cases hfirst
    | cons c word =>
      obtain ⟨rfl, -⟩ := List.cons_prefix_cons.mp hstart
      simp [hlead c List.mem_cons_self] at hfirst

/-- A line that reads as an opener falls to the rule for blocks. -/
theorem classify_of_read? {line : Text} {o : Opener} (h : Opener.read? line = some o) :
    classify line = if o.kind = .tryBlock then .tryOpener else .orphan o.kind := by
  obtain ⟨⟨keyword, kind⟩, hmem, hk⟩ := List.exists_of_findSome?_eq_some (Opener.read?_eq line ▸ h)
  obtain ⟨rest, hrest, -⟩ := Option.map_eq_some_iff.mp hk
  have hline : line = line.takeWhile Opener.isLead ++ (keyword ++ rest) := by
    rw [← stripPrefix?_eq_some.mp (Option.filter_eq_some_iff.mp hrest).1,
      List.takeWhile_append_dropWhile]
  have hwords : ∀ word ∈ importWords ++ declarationWords, ¬ word <+: line := by
    intro word hw
    rw [hline]
    exact not_prefix_of_opener hw hmem (List.all_eq_true.mp List.all_takeWhile)
  have table : Opener.keywords.all (·.1.any fun c =>
      !(c == '\x7b' || c == '\x7d' || c == ';' || isBlank c)) = true := by decide
  obtain ⟨c, hc, hplain⟩ := List.any_eq_true.mp (List.all_eq_true.mp table _ hmem)
  rw [Bool.not_eq_true'] at hplain
  have hin : c ∈ line := by
    rw [hline]
    exact List.mem_append_right _ (List.mem_append_left rest hc)
  rw [classify_of_refused hwords hin hplain, block?, h, Option.map_some, Option.some_or,
    Option.getD_some]
  cases o.kind <;> rfl

end Statement

end LineScript
