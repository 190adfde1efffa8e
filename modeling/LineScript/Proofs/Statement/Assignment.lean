import LineScript.Proofs.Expression.Call
import LineScript.Statement

/-!
Lines that assign. A line with a name, an equals sign between spaces and an expression falls to the rule
for assignments and to no other, whatever the name and the expression look like: the other rules leave a
keyword alone that is assigned to (`classify_assigns`). The words that may stand in front of an
assignment are the exception. The rule for assignments takes such a word away without looking at what is
behind it, so it cannot be assigned to itself.
-/

namespace LineScript

open Unicode Text Nesting

/-! ## The first word of a line -/

theorem isWordChar_space : isWordChar ' ' = false := isWordChar_eq_false (by decide)

theorem isWordChar_equals : isWordChar '=' = false := isWordChar_eq_false (by decide)

theorem isIdentifier_equals : isIdentifier ['='] = false := by
  have halphabetic : isAlphabetic '=' = false := isAlphabetic_of_lt (by decide)
  simp [isIdentifier, halphabetic]

section

variable {word first rest : Text}

/-- If another word is in front of a line than its first, the first is longer. -/
theorem IsWord.goes_on (hword : IsWord word) (hfirst : IsWord first) (hne : word ≠ first)
    {behind : Text} (h : stripPrefix? word (first ++ ' ' :: rest) = some behind) :
    ∃ c more, behind = c :: more ∧ isWordChar c = true := by
  have heq := stripPrefix?_eq_some.mp h
  cases behind with
  | nil =>
    have hmem : ' ' ∈ word := by
      rw [← List.append_nil word, ← heq]
      simp
    exact absurd (hword.2 ' ' hmem) (Bool.eq_false_iff.mp isWordChar_space)
  | cons c more =>
    refine ⟨c, more, rfl, ?_⟩
    cases hc : isWordChar c with
    | true => rfl
    | false =>
      have htake := congrArg (List.takeWhile isWordChar) heq
      rw [hfirst.takeWhile_append isWordChar_space, hword.takeWhile_append hc] at htake
      exact absurd htake.symm hne

theorem IsWord.stripWord?_eq (hword : IsWord word) (hfirst : IsWord first) (rest : Text) :
    stripWord? word (first ++ ' ' :: rest) =
      if word = first then some (trimStart rest) else none := by
  split
  · next heq =>
    subst heq
    rw [stripWord?, stripPrefix?_eq_some.mpr rfl]
    rfl
  · next hne =>
    rw [stripWord?]
    cases h : stripPrefix? word (first ++ ' ' :: rest) with
    | none => rfl
    | some behind =>
      obtain ⟨c, more, rfl, hc⟩ := hword.goes_on hfirst hne h
      simp only [isBlank_of_isWordChar hc, Bool.false_eq_true, ↓reduceIte]

/-- Of some words, only the first word of a line can be taken away from the line. -/
theorem IsWord.findSome?_stripWord?_eq {words : List Text} (hwords : ∀ word ∈ words, IsWord word)
    (hfirst : IsWord first) (rest : Text) :
    words.findSome? (stripWord? · (first ++ ' ' :: rest)) =
      if first ∈ words then some (trimStart rest) else none := by
  induction words with
  | nil => rfl
  | cons word words ih =>
    obtain ⟨hword, hwords⟩ := List.forall_mem_cons.mp hwords
    rw [List.findSome?_cons, hword.stripWord?_eq hfirst]
    by_cases heq : word = first
    · simp [heq]
    · simp [heq, Ne.symm heq, ih hwords]

theorem IsWord.stripKeyword?_eq (hword : IsWord word) (hfirst : IsWord first) (rest : Text) :
    Opener.stripKeyword? word (first ++ ' ' :: rest) =
      if word = first ∧ Opener.endsKeyword (' ' :: rest) = true then some (' ' :: rest)
      else none := by
  by_cases heq : word = first
  · subst heq
    rw [Opener.stripKeyword?, stripPrefix?_eq_some.mpr rfl, Option.filter_some]
    simp
  · rw [Opener.stripKeyword?, if_neg fun h => heq h.1]
    cases h : stripPrefix? word (first ++ ' ' :: rest) with
    | none => rfl
    | some behind =>
      obtain ⟨c, more, rfl, hc⟩ := hword.goes_on hfirst heq h
      simp [Opener.endsKeyword, hc]

end

/-! ## Words and blanks -/

/-- Words and the blanks between them. -/
def OfWords (t : Text) : Prop := ∀ c ∈ t, isWordChar c = true ∨ isBlank c = true

theorem IsWord.ofWords {t : Text} (h : IsWord t) : OfWords t := fun c hc => Or.inl (h.2 c hc)

theorem Text.Blank.ofWords {t : Text} (h : Blank t) : OfWords t := fun c hc => Or.inr (h c hc)

theorem OfWords.append {s t : Text} (hs : OfWords s) (ht : OfWords t) : OfWords (s ++ t) := by
  intro c hc
  rcases List.mem_append.mp hc with hc | hc
  · exact hs c hc
  · exact ht c hc

theorem IsWord.ofWords_space {t : Text} (h : IsWord t) : OfWords (t ++ [' ']) := by
  have hspace : Blank [' '] := by decide
  exact h.ofWords.append hspace.ofWords

theorem OfWords.not_mark {t : Text} (h : OfWords t) {c : Char} (hc : c ∈ t) :
    c ∉ marks ∧ c ≠ '=' := by
  have hclass := h c hc
  constructor
  · rcases hclass with hclass | hclass
    · exact (not_mark_of_isWordChar hclass).2
    · exact not_mark_of_isBlank hclass
  · rintro rfl
    rcases hclass with hword | hblank
    · exact absurd hword (Bool.eq_false_iff.mp isWordChar_equals)
    · exact absurd hblank (by decide)

/-- Words and blanks go up to the first parenthesis or equals sign. -/
theorem OfWords.cutAt?_eq {s : Text} (h : OfWords s) {c : Char} (hc : c = '(' ∨ c = '=')
    (t : Text) : cutAt? (fun d => d == '(' || d == '=') (s ++ c :: t) = some (s, t) := by
  refine cutAt?_eq_some.mpr ⟨c, by simpa using hc, fun d hd => ?_, rfl⟩
  obtain ⟨hmark, hequals⟩ := h.not_mark hd
  have hparen : d ≠ '(' := by
    rintro rfl
    exact hmark (by decide)
  simp [hparen, hequals]

theorem trimStart_equals (t : Text) : trimStart ('=' :: t) = '=' :: t :=
  trimStart_cons (by decide) t

namespace Statement

/-- The words in front of a line that other rules than the one for assignments look for. -/
def frontWords : List Text := importWords ++ declarationWords ++ Opener.keywords.map (·.1)

theorem isWord_of_mem {word : Text} (h : word ∈ frontWords ++ variableWords) : IsWord word := by
  have table : ∀ word ∈ frontWords ++ variableWords, IsWord word := by decide +kernel
  exact table word h

theorem isWord_of_frontWord {word : Text} (h : word ∈ frontWords) : IsWord word :=
  isWord_of_mem (List.mem_append_left _ h)

theorem isWord_of_variableWord {word : Text} (h : word ∈ variableWords) : IsWord word :=
  isWord_of_mem (List.mem_append_right _ h)

theorem not_frontWord_of_variableWord {word : Text} (h : word ∈ variableWords) :
    word ∉ frontWords := by
  have table : ∀ word ∈ variableWords, word ∉ frontWords := by decide
  exact table word h

/-! ## Rules that leave assignments alone -/

/-- What is behind the first word of a line that assigns to it. -/
def Assigns (rest : Text) : Prop := ∃ expression, rest = '=' :: ' ' :: expression

section

variable {first rest : Text}

theorem structural?_eq_none (hfirst : IsWord first) (rest : Text) :
    structural? (first ++ rest) = none := by
  obtain ⟨hne, hchars⟩ := hfirst
  obtain ⟨c, more, rfl⟩ := List.exists_cons_of_ne_nil hne
  have hc := hchars c List.mem_cons_self
  have hbrace := isPlain_of_isWordChar hc
  have hsemicolon : c ≠ ';' := by
    rintro rfl
    exact absurd hc (Bool.eq_false_iff.mp (isWordChar_eq_false (by decide)))
  simp [structural?, hbrace.2.2.1, hbrace.2.2.2, hsemicolon, isBlank_of_isWordChar hc]

/-- The first word behind the keyword is the equals sign, which is no name. -/
theorem importLine?_eq_none (hfirst : IsWord first) (h : first ∈ importWords → Assigns rest) :
    importLine? (first ++ ' ' :: rest) = none := by
  have hwords : ∀ word ∈ importWords, IsWord word := fun word hw =>
    isWord_of_frontWord (by simp [frontWords, hw])
  rw [importLine?, IsWord.findSome?_stripWord?_eq hwords hfirst]
  by_cases hmem : first ∈ importWords
  · obtain ⟨e, rfl⟩ := h hmem
    have hsplit : words ('=' :: ' ' :: e) = ['='] :: words e := by
      have hequals : isBlank '=' = false := by decide
      have hspace : isBlank ' ' = true := by decide
      simp [words, pieces, hequals, hspace]
    have hdrop : dropEndWhile (· == ';') ['='] = ['='] := by decide
    simp only [if_pos hmem, trimStart_equals, hsplit, hdrop, isIdentifier_equals,
      Bool.false_eq_true, ↓reduceIte]
  · rw [if_neg hmem]

/-- No name is declared, since an equals sign is behind the keyword. -/
theorem declaration?_eq_none (hfirst : IsWord first)
    (h : first ∈ declarationWords → Assigns rest) :
    declaration? (first ++ ' ' :: rest) = none := by
  rw [declaration?, List.findSome?_eq_none_iff]
  intro word hw
  have hword : IsWord word := isWord_of_frontWord (by simp [frontWords, hw])
  rw [declarationBy?, hword.stripWord?_eq hfirst]
  by_cases heq : word = first
  · obtain ⟨e, rfl⟩ := h (heq ▸ hw)
    simp [heq, trimStart_equals, isWordChar_equals, isIdentifier]
  · rw [if_neg heq]

theorem block?_eq_none (hfirst : IsWord first)
    (h : first ∈ Opener.keywords.map (·.1) → Assigns rest) :
    block? (first ++ ' ' :: rest) = none := by
  have hdrop : (first ++ ' ' :: rest).dropWhile Opener.isLead = first ++ ' ' :: rest := by
    obtain ⟨c, more, rfl⟩ := List.exists_cons_of_ne_nil hfirst.1
    have hc := hfirst.2 c List.mem_cons_self
    have hlead : Opener.isLead c = false := by
      simp [Opener.isLead, (isPlain_of_isWordChar hc).2.2.2, isBlank_of_isWordChar hc]
    rw [List.cons_append, List.dropWhile_cons_of_neg (by simp [hlead])]
  rw [block?, Option.map_eq_none_iff, Opener.read?_eq, List.findSome?_eq_none_iff]
  intro k hk
  have hmem : k.1 ∈ Opener.keywords.map (·.1) := List.mem_map_of_mem hk
  have hword : IsWord k.1 := isWord_of_frontWord (List.mem_append_right _ hmem)
  rw [Opener.ofKeyword?, Option.map_eq_none_iff, hdrop, hword.stripKeyword?_eq hfirst, if_neg]
  rintro ⟨heq, hends⟩
  obtain ⟨e, rfl⟩ := h (heq ▸ hmem)
  have hspace : Blank [' '] := by decide
  have hbehind : trimStart (' ' :: '=' :: ' ' :: e) = '=' :: ' ' :: e :=
    (trimStart_blank_append hspace _).trans (trimStart_equals _)
  simp [Opener.endsKeyword, hbehind] at hends

/-- Where an equals sign is in front of any parenthesis there is no call. -/
theorem call?_eq_none {before behind : Text} (hbefore : OfWords before)
    (htrim : trim (before ++ '=' :: behind) = before ++ '=' :: behind) :
    call? (before ++ '=' :: behind) = none := by
  rw [call?, Option.map_eq_none_iff, Option.eq_none_iff_forall_ne_some]
  rintro ⟨name, args⟩ hsplit
  obtain ⟨hname, -, gap, hgap, hshape⟩ := splitCall?_eq_some.mp hsplit
  rw [htrim] at hshape
  have hfront : OfWords (name ++ gap) := (isWord_of_isIdentifier hname).ofWords.append hgap.ofWords
  have hcut := hbefore.cutAt?_eq (Or.inr rfl) behind
  rw [hshape, hfront.cutAt?_eq (Or.inl rfl)] at hcut
  obtain ⟨rfl, -⟩ := Prod.mk.inj (Option.some.inj hcut)
  cases List.append_cancel_left hshape

end

/-! ## The rule for assignments -/

section

variable {name expression line : Text}

/-- A first equals sign that is no part of another operator cuts the text. -/
theorem cutAssignment?_of_words {left right : Text} (hleft : OfWords left)
    (hlast : left = [] ∨ left.getLast? = some ' ') (hright : right.head? ≠ some '=') :
    cutAssignment? [] (left ++ '=' :: right) = some (left, right) := by
  have hcut : cutTop? '=' (left ++ '=' :: right) = some (left, right) :=
    Expression.cutFrom?_of_plain (fun _ => hleft.not_mark) right
  rw [cutAssignment?]
  split
  · next h =>
    rw [hcut] at h
    cases h
  · next h =>
    rw [hcut] at h
    cases h
    exact absurd rfl hright
  · next h =>
    rw [hcut] at h
    obtain ⟨rfl, rfl⟩ := Prod.mk.inj (Option.some.inj h)
    simp only [List.append_nil, List.head?_reverse, List.reverse_reverse]
    rw [if_neg]
    rcases hlast with rfl | hlast
    · decide
    · rw [hlast]
      decide

/-- The line that assigns an expression to a name. -/
def assignmentLine (name expression : Text) : Text := name ++ " = ".toList ++ expression

theorem assignmentLine_eq (name expression : Text) :
    assignmentLine name expression = name ++ ' ' :: '=' :: ' ' :: expression := by
  rw [assignmentLine, List.append_assoc]
  rfl

/-- The rule cuts what is left of a line when a word for variables in front of it is taken away. -/
theorem assignment?_of_name (hname : isIdentifier name = true)
    (htrim : expression.trim = expression) (hne : expression ≠ [])
    (hline : (variableWords.findSome? (stripWord? · line)).getD line =
      assignmentLine name expression) :
    assignment? line = some (.assignment name expression) := by
  have hword := isWord_of_isIdentifier hname
  have hspace : Blank [' '] := by decide
  have hcut : cutAssignment? [] (assignmentLine name expression) =
      some (name ++ [' '], ' ' :: expression) := by
    rw [assignmentLine_eq, List.append_cons]
    exact cutAssignment?_of_words hword.ofWords_space (Or.inr List.getLast?_concat) (by simp)
  have hleft : trim (name ++ [' ']) = name := by
    rw [trim_append_blank hspace]
    exact trim_of_not_blank fun c hc => isBlank_of_isWordChar (hword.2 c hc)
  have hright : trim (' ' :: expression) = expression :=
    (trim_blank_append hspace expression).trans htrim
  simp only [assignment?, hline, hcut, hleft, hright, hname]
  simp [hne]

/-- A word for variables that is taken away leaves no name in front of the equals sign. -/
theorem assignment?_of_variableWord (hmem : name ∈ variableWords) :
    assignment? (assignmentLine name expression) = none := by
  have hfind := IsWord.findSome?_stripWord?_eq (fun _ => isWord_of_variableWord)
    (isWord_of_variableWord hmem) ('=' :: ' ' :: expression)
  have hcut : cutAssignment? [] ('=' :: ' ' :: expression) = some ([], ' ' :: expression) :=
    cutAssignment?_of_words Blank.nil.ofWords (Or.inl rfl) (by simp)
  rw [if_pos hmem, trimStart_equals, ← assignmentLine_eq] at hfind
  simp only [assignment?, hfind, Option.getD_some, hcut]
  rfl

/-! ## Lines for the rule for assignments alone -/

/-- No rule but the one for assignments takes the line. -/
def OnlyForAssignments (line : Text) : Prop :=
  ∀ rule : Rule, rule ≠ .assignment → rule.accept? line = none

/-- The line is taken by the rule for assignments, for this assignment, and by no other rule. -/
structure OnlyAssigns (line name expression : Text) : Prop where
  classified : classify line = .assignment name expression
  accepted : ∀ rule : Rule,
    rule.accept? line = if rule = .assignment then some (.assignment name expression) else none

theorem OnlyForAssignments.classify_eq (h : OnlyForAssignments line) :
    classify line = (assignment? line).getD (.expression line) := by
  have hstructural : structural? line = none := h .structural nofun
  have himports : importLine? line = none := h .imports nofun
  have hdeclaration : declaration? line = none := h .declaration nofun
  have hblock : block? line = none := h .block nofun
  have hcall : call? line = none := h .call nofun
  simp only [classify, Rule.all, Rule.accept?, List.findSome?_cons, hstructural, himports,
    hdeclaration, hblock, hcall]
  cases assignment? line <;> rfl

theorem OnlyForAssignments.onlyAssigns (h : OnlyForAssignments line)
    (hassignment : assignment? line = some (.assignment name expression)) :
    OnlyAssigns line name expression := by
  refine ⟨by rw [h.classify_eq, hassignment]; rfl, fun rule => ?_⟩
  split
  · next heq => rw [heq, Rule.accept?, hassignment]
  · next hne => exact h rule hne

theorem trim_of_word {first : Text} (hfirst : IsWord first) (mid : Text)
    (htrim : expression.trim = expression) (hne : expression ≠ []) :
    trim (first ++ mid ++ expression) = first ++ mid ++ expression := by
  obtain ⟨c, more, rfl⟩ := List.exists_cons_of_ne_nil hfirst.1
  apply trim_of_ends
  · rintro d ⟨⟩
    exact isBlank_of_isWordChar (hfirst.2 c List.mem_cons_self)
  · intro d hd
    have hlast := List.getLast?_eq_some_getLast hne
    rw [List.getLast?_append, hlast, Option.some_or] at hd
    exact isBlank_getLast_of_trim htrim d (hlast.trans hd)

/-- Of a line with words in front of an equals sign no other rule takes anything, unless the first of
the words is a keyword and is not what is assigned to. -/
theorem onlyForAssignments {first rest before behind : Text} (hfirst : IsWord first)
    (hfront : first ∈ frontWords → Assigns rest)
    (hline : line = first ++ ' ' :: rest) (hequals : line = before ++ '=' :: behind)
    (hbefore : OfWords before) (htrim : trim line = line) : OnlyForAssignments line := by
  simp only [frontWords, List.mem_append, or_imp] at hfront
  obtain ⟨⟨himport, hdeclaration⟩, hblock⟩ := hfront
  intro rule hrule
  cases rule with
  | structural => exact hline ▸ structural?_eq_none hfirst _
  | imports => exact hline ▸ importLine?_eq_none hfirst himport
  | declaration => exact hline ▸ declaration?_eq_none hfirst hdeclaration
  | block => exact hline ▸ block?_eq_none hfirst hblock
  | assignment => contradiction
  | call =>
    rw [hequals] at htrim ⊢
    exact call?_eq_none hbefore htrim

theorem onlyForAssignments_line (hname : IsWord name) (htrim : expression.trim = expression)
    (hne : expression ≠ []) : OnlyForAssignments (assignmentLine name expression) := by
  have hline := assignmentLine_eq name expression
  have hequals : assignmentLine name expression = (name ++ [' ']) ++ '=' :: ' ' :: expression := by
    rw [hline, List.append_cons]
  exact onlyForAssignments hname (fun _ => ⟨expression, rfl⟩) hline hequals hname.ofWords_space
    (trim_of_word hname _ htrim hne)

theorem onlyForAssignments_variable {word : Text} (hw : word ∈ variableWords)
    (hname : IsWord name) (htrim : expression.trim = expression) (hne : expression ≠ []) :
    OnlyForAssignments (word ++ ' ' :: assignmentLine name expression) := by
  have hword := isWord_of_variableWord hw
  have hsplit : word ++ ' ' :: assignmentLine name expression =
      word ++ ' ' :: (name ++ " = ".toList) ++ expression := by
    simp [assignmentLine]
  have hequals : word ++ ' ' :: assignmentLine name expression =
      (word ++ [' '] ++ (name ++ [' '])) ++ '=' :: ' ' :: expression := by
    simp [assignmentLine_eq]
  apply onlyForAssignments hword (fun h => absurd h (not_frontWord_of_variableWord hw)) rfl hequals
    (hword.ofWords_space.append hname.ofWords_space)
  rw [hsplit]
  exact trim_of_word hword _ htrim hne

/-- Any name may be assigned any expression, but for the words that may stand in front of an
assignment: a line that assigns to one of them is an expression. With such a word in front, any name may
be assigned any expression. -/
theorem classify_assigns (hname : isIdentifier name = true) (htrim : expression.trim = expression)
    (hne : expression ≠ []) :
    let line := assignmentLine name expression
    (name ∉ variableWords → OnlyAssigns line name expression) ∧
    (name ∈ variableWords →
      classify line = .expression line ∧ ∀ rule : Rule, rule.accept? line = none) ∧
    ∀ word ∈ variableWords, OnlyAssigns (word ++ ' ' :: line) name expression := by
  intro line
  have hword := isWord_of_isIdentifier hname
  have honly : OnlyForAssignments line := onlyForAssignments_line hword htrim hne
  refine ⟨fun hnot => ?_, fun hmem => ?_, fun word hw => ?_⟩
  · have hfind := IsWord.findSome?_stripWord?_eq (fun _ => isWord_of_variableWord) hword
      ('=' :: ' ' :: expression)
    rw [if_neg hnot, ← assignmentLine_eq] at hfind
    apply honly.onlyAssigns (assignment?_of_name hname htrim hne _)
    rw [hfind, Option.getD_none]
  · have hrefused : assignment? line = none := assignment?_of_variableWord hmem
    refine ⟨by rw [honly.classify_eq, hrefused]; rfl, fun rule => ?_⟩
    by_cases hrule : rule = .assignment
    · rw [hrule]
      exact hrefused
    · exact honly rule hrule
  · have hfind := IsWord.findSome?_stripWord?_eq (fun _ => isWord_of_variableWord)
      (isWord_of_variableWord hw) line
    have hrest : trimStart (assignmentLine name expression) = assignmentLine name expression := by
      rw [assignmentLine_eq]
      exact hword.trimStart_append _
    apply (onlyForAssignments_variable hw hword htrim hne).onlyAssigns
      (assignment?_of_name hname htrim hne _)
    rw [hfind, if_pos hw, Option.getD_some, hrest]

/-- A block keyword as a name, and an expression with operators, an import and an open quote in it. -/
theorem classify_assigns_keyword :
    let name : Text := "try".toList
    let expression : Text := "= x == [import y, \"a".toList
    isIdentifier name = true ∧ expression.trim = expression ∧ expression ≠ [] ∧
      name ∉ variableWords ∧ "let".toList ∈ variableWords ∧
      OnlyAssigns "try = = x == [import y, \"a".toList name expression ∧
      OnlyAssigns "let try = = x == [import y, \"a".toList name expression := by
  intro name expression
  have hname : isIdentifier name = true := by decide
  have htrim : expression.trim = expression := by decide
  have hne : expression ≠ [] := by decide
  have hnot : name ∉ variableWords := by decide
  have hlet : "let".toList ∈ variableWords := by decide
  obtain ⟨hplain, -, hvariable⟩ := classify_assigns hname htrim hne
  exact ⟨hname, htrim, hne, hnot, hlet, hplain hnot, hvariable _ hlet⟩

/-- Not every name can be assigned to. -/
theorem variableWord_not_assigned :
    ¬ ∀ name expression : Text, isIdentifier name = true → expression.trim = expression →
      expression ≠ [] →
      classify (assignmentLine name expression) = .assignment name expression := by
  intro h
  have hassigned := h "var".toList "1".toList (by decide) (by decide) (by decide)
  exact absurd hassigned (by decide +kernel)

end

end Statement

end LineScript
