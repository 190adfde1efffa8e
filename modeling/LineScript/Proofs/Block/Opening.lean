import LineScript.Proofs.Text.Splitting
import LineScript.Statement

/-! What lines look like to the scan of a construct. Blanks around a line change nothing: neither
the braces that are counted, nor the opener and the inline body that are read. So the scan, which
reads a line as it stands, and a statement, which reads it trimmed, agree on the lines that open a
try. -/

namespace LineScript

open Unicode Text

/-! ## Characters -/

theorem Text.Blank.count_eq_zero {t : Text} (h : Blank t) {c : Char} (hc : isBlank c = false) :
    t.count c = 0 :=
  List.count_eq_zero.mpr (h.not_mem hc)

/-- No blank is a letter or a number. -/
theorem isAlphanumeric_of_isBlank {c : Char} (h : isBlank c = true) : isAlphanumeric c = false := by
  have table : ∀ r ∈ blankRanges, ∀ k < r.2 - r.1 + 1,
      (inRanges alphabeticRanges (r.1 + k) || inRanges numericRanges (r.1 + k)) = false := by
    decide +kernel
  obtain ⟨r, hr, hlow, hhigh⟩ := exists_of_inRanges h
  have hk := table r hr (c.toNat - r.1) (by omega)
  rw [show r.1 + (c.toNat - r.1) = c.toNat from by omega] at hk
  exact hk

theorem isWordChar_of_isBlank {c : Char} (h : isBlank c = true) : isWordChar c = false := by
  have hne : c ≠ '_' := ne_of_isBlank h (by decide)
  simp [isWordChar, isAlphanumeric_of_isBlank h, hne]

/-- Characters that no count of braces takes notice of. -/
def IsPlain (c : Char) : Prop := c ≠ '"' ∧ c ≠ '\'' ∧ c ≠ '\x7b' ∧ c ≠ '\x7d'

theorem isPlain_of_isBlank {c : Char} (h : isBlank c = true) : IsPlain c :=
  ⟨ne_of_isBlank h (by decide), ne_of_isBlank h (by decide), ne_of_isBlank h (by decide),
    ne_of_isBlank h (by decide)⟩

/-! ## Braces -/

theorem braceCounts_plain_append {s : Text} (h : ∀ c ∈ s, IsPlain c) (t : Text) :
    braceCounts none (s ++ t) = braceCounts none t := by
  induction s with
  | nil => rfl
  | cons c s ih =>
    obtain ⟨h₁, h₂, h₃, h₄⟩ := h c (by simp)
    simp [braceCounts, h₁, h₂, h₃, h₄, ih (fun d hd => h d (by simp [hd]))]

theorem braceCounts_plain {s : Text} (h : ∀ c ∈ s, IsPlain c) (quote : Option Char) :
    braceCounts quote s = (0, 0) := by
  induction s generalizing quote with
  | nil => rfl
  | cons c s ih =>
    obtain ⟨h₁, h₂, h₃, h₄⟩ := h c (by simp)
    have hs := ih (fun d hd => h d (by simp [hd]))
    cases quote <;> simp [braceCounts, h₁, h₂, h₃, h₄, hs]

theorem braceCounts_append_plain {s : Text} (h : ∀ c ∈ s, IsPlain c) (quote : Option Char)
    (t : Text) : braceCounts quote (t ++ s) = braceCounts quote t := by
  induction t generalizing quote with
  | nil => rw [List.nil_append, braceCounts_plain h, braceCounts]
  | cons c t ih => cases quote <;> simp [braceCounts, ih]

theorem Text.Blank.isPlain {t : Text} (h : Blank t) : ∀ c ∈ t, IsPlain c :=
  fun c hc => isPlain_of_isBlank (h c hc)

theorem BraceDepth.past_append_blank {trail : Text} (h : Blank trail) (d : BraceDepth)
    (t : Text) : d.past (t ++ trail) = d.past t := by
  simp only [BraceDepth.past, braceCounts_append_plain h.isPlain]

theorem BraceDepth.past_blank_ends {lead trail : Text} (hl : Blank lead) (ht : Blank trail)
    (d : BraceDepth) (t : Text) : d.past (lead ++ t ++ trail) = d.past t := by
  rw [past_append_blank ht]
  simp only [BraceDepth.past, braceCounts_plain_append hl.isPlain]

@[simp] theorem BraceDepth.past_trim (d : BraceDepth) (line : Text) :
    d.past line.trim = d.past line := by
  obtain ⟨lead, trail, hl, ht, h⟩ := exists_blank_ends line
  conv => rhs; rw [h]
  exact (past_blank_ends hl ht d line.trim).symm

/-! ## Openers -/

namespace Opener

/-- The opener with more text behind it. -/
def pad (o : Opener) (trail : Text) : Opener := { o with rest := o.rest ++ trail }

theorem isLead_of_isBlank {c : Char} (h : isBlank c = true) : isLead c = true := by
  simp [isLead, h]

/-- A block keyword has a first character, and no blank in it. -/
theorem keyword_shape {word : Text} {kind : BlockKind} (h : (word, kind) ∈ keywords) :
    word ≠ [] ∧ ∀ c ∈ word, isBlank c = false := by
  have table : keywords.all (fun k => !k.1.isEmpty && k.1.all (!isBlank ·)) = true := by
    decide
  have hword := List.all_eq_true.mp table _ h
  simpa using hword

theorem endsKeyword_append_blank {trail : Text} (h : Blank trail) (rest : Text) :
    endsKeyword (rest ++ trail) = endsKeyword rest := by
  have hs : (trimStart (rest ++ trail)).head? = (trimStart rest).head? := by
    rw [trimStart_append, h.trimStart]
    cases trimStart rest <;> simp
  cases rest with
  | nil =>
    cases trail with
    | nil => rfl
    | cons c trail =>
      have hw := isWordChar_of_isBlank (h c (by simp))
      simp only [List.nil_append] at hs ⊢
      simp [endsKeyword, hs, hw]
  | cons c rest => simp only [endsKeyword, List.cons_append, List.head?_cons] at hs ⊢; rw [hs]

theorem stripPrefix?_append_blank {trail word : Text} (h : Blank trail)
    (hw : ∀ c ∈ word, isBlank c = false) (t : Text) :
    stripPrefix? word (t ++ trail) = (stripPrefix? word t).map (· ++ trail) := by
  induction word generalizing t with
  | nil => simp [stripPrefix?]
  | cons c word ih =>
    cases t with
    | cons d t =>
      simp only [List.cons_append, stripPrefix?]
      split
      · exact ih (fun e he => hw e (by simp [he])) t
      · rfl
    | nil =>
      cases trail with
      | nil => rfl
      | cons d trail =>
        have hne : c ≠ d := (ne_of_isBlank (h d (by simp)) (hw c (by simp))).symm
        simp [stripPrefix?, hne]

/-- Blanks behind an opener are not part of the name that it binds. -/
theorem binding?_append_blank {trail : Text} (h : Blank trail) (rest : Text) :
    binding? (rest ++ trail) = binding? rest := by
  have htake : ∀ s t : Text, Blank s → (t ++ s).takeWhile isWordChar = t.takeWhile isWordChar := by
    intro s t hs
    have hnil : s.takeWhile isWordChar = [] := by
      cases s with
      | nil => rfl
      | cons c s => simp [isWordChar_of_isBlank (hs c (by simp))]
    rw [List.takeWhile_append, hnil, List.append_nil]
    split
    · next hl => exact (List.takeWhile_prefix _).eq_of_length hl |>.symm
    · rfl
  have hparen : ∀ c ∈ ['('], isBlank c = false := by
    intro c hc
    obtain rfl := List.mem_singleton.mp hc
    decide
  obtain ⟨s, hs, heq⟩ := exists_trimStart_append h rest
  have hstrip : (stripPrefix? ['('] (trimStart rest ++ s)).getD (trimStart rest ++ s) =
      (stripPrefix? ['('] (trimStart rest)).getD (trimStart rest) ++ s := by
    rw [stripPrefix?_append_blank hs hparen]
    cases stripPrefix? ['('] (trimStart rest) <;> rfl
  obtain ⟨s', hs', heq'⟩ :=
    exists_trimStart_append hs ((stripPrefix? ['('] (trimStart rest)).getD (trimStart rest))
  simp only [binding?, heq, hstrip, heq', htake s' _ hs']

theorem stripKeyword?_append_blank {trail word : Text} (h : Blank trail)
    (hw : ∀ c ∈ word, isBlank c = false) (t : Text) :
    stripKeyword? word (t ++ trail) = (stripKeyword? word t).map (· ++ trail) := by
  simp only [stripKeyword?, stripPrefix?_append_blank h hw]
  cases stripPrefix? word t with
  | none => rfl
  | some rest =>
    simp only [Option.map_some, Option.filter_some, endsKeyword_append_blank h]
    split <;> rfl

theorem stripKeyword?_nil {word : Text} (h : word ≠ []) : stripKeyword? word [] = none := by
  cases word with
  | nil => contradiction
  | cons c word => rfl

/-- The opener that a keyword makes of a line. -/
def ofKeyword? (line : Text) (k : Text × BlockKind) : Option Opener :=
  (stripKeyword? k.1 (line.dropWhile isLead)).map fun rest =>
    ⟨k.2, (line.takeWhile isLead).count '\x7d', rest⟩

theorem read?_eq (line : Text) : read? line = keywords.findSome? (ofKeyword? line) := rfl

theorem read?_congr {line line' : Text} {f : Opener → Opener}
    (h : ∀ k ∈ keywords, ofKeyword? line' k = (ofKeyword? line k).map f) :
    read? line' = (read? line).map f := by
  simp only [read?_eq, List.map_findSome?]
  generalize keywords = ks at h
  induction ks with
  | nil => rfl
  | cons k rest ih =>
    have hk := h k (by simp)
    have hrest := ih (fun l hl => h l (by simp [hl]))
    simp only [List.findSome?, hk, hrest, Function.comp_apply]

/-- Blanks in front of a line are not part of what its opener says. -/
theorem read?_blank_append {lead : Text} (h : Blank lead) (line : Text) :
    read? (lead ++ line) = read? line := by
  have hlead : ∀ c ∈ lead, isLead c = true := fun c hc => isLead_of_isBlank (h c hc)
  have hcount : lead.count '\x7d' = 0 := h.count_eq_zero (by decide)
  have hk : ∀ k ∈ keywords, ofKeyword? (lead ++ line) k = (ofKeyword? line k).map id := by
    intro k _
    simp only [ofKeyword?, List.dropWhile_append_of_pos hlead, List.takeWhile_append_of_pos hlead,
      List.count_append, hcount, Nat.zero_add, Option.map_id, id_eq]
  simpa using read?_congr hk

/-- Blanks behind a line stand behind its keyword. -/
theorem read?_append_blank {trail : Text} (h : Blank trail) (line : Text) :
    read? (line ++ trail) = (read? line).map (·.pad trail) := by
  have htrail : ∀ c ∈ trail, isLead c = true := fun c hc => isLead_of_isBlank (h c hc)
  apply read?_congr
  rintro ⟨word, kind⟩ hk
  obtain ⟨hne, hw⟩ := keyword_shape hk
  by_cases hd : line.dropWhile isLead = []
  · have hd' : (line ++ trail).dropWhile isLead = [] := by
      rw [List.dropWhile_append, hd, ← List.append_nil trail,
        List.dropWhile_append_of_pos htrail]
      rfl
    simp only [ofKeyword?, hd, hd', stripKeyword?_nil hne, Option.map_none]
  · have hd' : (line ++ trail).dropWhile isLead = line.dropWhile isLead ++ trail := by
      rw [List.dropWhile_append]
      simp [hd]
    have ht' : (line ++ trail).takeWhile isLead = line.takeWhile isLead := by
      rw [List.takeWhile_append, if_neg]
      intro hl
      have hlen := congrArg List.length (List.takeWhile_append_dropWhile (p := isLead) (l := line))
      rw [List.length_append] at hlen
      exact hd (List.eq_nil_of_length_eq_zero (by omega))
    simp only [ofKeyword?, hd', ht', stripKeyword?_append_blank h hw, Option.map_map]
    rfl

theorem read?_blank_ends {lead trail : Text} (hl : Blank lead) (ht : Blank trail) (line : Text) :
    read? (lead ++ line ++ trail) = (read? line).map (·.pad trail) := by
  rw [read?_append_blank ht, read?_blank_append hl]

/-- A trimmed line has the opener of the line, but for blanks behind the keyword. -/
theorem exists_pad_read?_trim (line : Text) :
    ∃ trail, Blank trail ∧ read? line = (read? line.trim).map (·.pad trail) := by
  obtain ⟨lead, trail, hl, ht, h⟩ := exists_blank_ends line
  refine ⟨trail, ht, ?_⟩
  conv => lhs; rw [h]
  exact read?_blank_ends hl ht line.trim

theorem exists_read?_trim {line : Text} {o : Opener} (h : read? line = some o) :
    ∃ o' trail, Blank trail ∧ read? line.trim = some o' ∧ o = o'.pad trail := by
  obtain ⟨trail, ht, hr⟩ := exists_pad_read?_trim line
  rw [h] at hr
  obtain ⟨o', ho, hpad⟩ := Option.map_eq_some_iff.mp hr.symm
  exact ⟨o', trail, ht, ho, hpad.symm⟩

end Opener

/-! ## Inline bodies -/

namespace Text

theorem cutFrom?_append_blank {trail : Text} (h : Blank trail) {sep : Char}
    (hs : isBlank sep = false) (n : Nesting) (t : Text) :
    cutFrom? sep n (t ++ trail) =
      (cutFrom? sep n t).map fun (before, behind) => (before, behind ++ trail) := by
  induction t generalizing n with
  | nil => rw [List.nil_append, cutFrom?_of_not_mem (h.not_mem hs), cutFrom?, Option.map_none]
  | cons c t ih =>
    simp only [List.cons_append, cutFrom?]
    split
    · rfl
    · rw [ih, Option.map_map, Option.map_map]
      rfl

theorem cutTop?_append_blank {trail : Text} (h : Blank trail) (sep : Char)
    (hs : isBlank sep = false) (t : Text) :
    cutTop? sep (t ++ trail) =
      (cutTop? sep t).map fun (before, behind) => (before, behind ++ trail) :=
  cutFrom?_append_blank h hs .top t

end Text

@[simp] theorem inlineBody?_trim (line : Text) : inlineBody? line.trim = inlineBody? line := by
  obtain ⟨trail, ht, hr⟩ := Opener.exists_pad_read?_trim line
  simp only [inlineBody?, hr]
  cases Opener.read? line.trim with
  | none => rfl
  | some o =>
    simp only [Option.map_some, Opener.pad, cutTop?_append_blank ht '\x7b' (by decide)]
    cases cutTop? '\x7b' o.rest with
    | none => rfl
    | some cut =>
      simp only [Option.map_some, cutTop?_append_blank ht '\x7d' (by decide),
        Option.map_map]
      rfl

/-! ## Lines that say something, and lines that open a try -/

@[simp] theorem isSkippable_trim (line : Text) : isSkippable line.trim = isSkippable line := by
  simp only [isSkippable, trim_trim]

theorem Opener.read?_nil : read? [] = none := by decide

theorem Opener.read?_comment (rest : Text) : read? ('#' :: rest) = none := by
  have hl : isLead '#' = false := by decide
  simp [read?, keywords, stripKeyword?, stripPrefix?, hl]

/-- A line that says nothing is no opener. -/
theorem Opener.read?_of_isSkippable {line : Text} (h : isSkippable line = true) :
    read? line = none := by
  obtain ⟨trail, _, hr⟩ := exists_pad_read?_trim line
  rw [hr, Option.map_eq_none_iff]
  simp only [isSkippable] at h
  split at h
  · next ht => rw [ht, read?_nil]
  · next c rest ht =>
    rw [ht, eq_of_beq h, read?_comment]

theorem isSkippable_of_read? {line : Text} {o : Opener} (h : Opener.read? line = some o) :
    isSkippable line = false := by
  cases hs : isSkippable line with
  | false => rfl
  | true =>
    rw [Opener.read?_of_isSkippable hs] at h
    contradiction

/-- Whether a line opens a try. -/
def opensTry (line : Text) : Bool := (Opener.read? line).any (·.kind = .tryBlock)

theorem opensTry_iff {line : Text} :
    opensTry line = true ↔ ∃ o, Opener.read? line = some o ∧ o.kind = .tryBlock := by
  simp [opensTry, Option.any_eq_true]

@[simp] theorem opensTry_trim (line : Text) : opensTry line.trim = opensTry line := by
  obtain ⟨trail, _, hr⟩ := Opener.exists_pad_read?_trim line
  simp only [opensTry, hr]
  cases Opener.read? line.trim <;> rfl

theorem opensTry_of_isSkippable {line : Text} (h : isSkippable line = true) :
    opensTry line = false := by
  simp [opensTry, Opener.read?_of_isSkippable h]

theorem isSkippable_of_opensTry {line : Text} (h : opensTry line = true) :
    isSkippable line = false := by
  obtain ⟨o, ho, _⟩ := opensTry_iff.mp h
  exact isSkippable_of_read? ho

namespace Statement

/-- What the rules can make of a line. -/
inductive Made (line : Text) : Statement → Prop where
  | structural : Made line .structural
  | importModule {name : Text} (named : isIdentifier name = true) : Made line (.importModule name)
  | declaration (keyword signature : Text) : Made line (.declaration keyword signature)
  | tryOpener (opens : opensTry line = true) : Made line .tryOpener
  | orphan {o : Opener} (opens : Opener.read? line = some o) (kind : o.kind ≠ .tryBlock) :
      Made line (.orphan o.kind)
  | assignment {name expression : Text} (named : isIdentifier name = true) :
      Made line (.assignment name expression)
  | call {name args : Text} (splits : splitCall? line = some (name, args)) :
      Made line (.call name args)

theorem made_of_accept? {rule : Rule} {line : Text} {statement : Statement}
    (h : rule.accept? line = some statement) : Made line statement := by
  cases rule with
  | structural =>
    simp only [Rule.accept?, structural?, Option.ite_none_right_eq_some, Option.some.injEq] at h
    obtain ⟨-, rfl⟩ := h
    exact .structural
  | imports =>
    simp only [Rule.accept?, importLine?] at h
    split at h
    · cases h
    · split at h
      · cases h
      · split at h
        · next named =>
          obtain rfl := Option.some.inj h
          exact .importModule named
        · cases h
  | declaration =>
    obtain ⟨keyword, _, hk⟩ := List.exists_of_findSome?_eq_some h
    simp only [declarationBy?] at hk
    split at hk
    · cases hk
    · split at hk
      · obtain rfl := Option.some.inj hk
        exact .declaration keyword _
      · cases hk
  | block =>
    obtain ⟨o, ho, rfl⟩ := Option.map_eq_some_iff.mp h
    by_cases hkind : o.kind = .tryBlock
    · rw [hkind]
      exact .tryOpener (opensTry_iff.mpr ⟨o, ho, hkind⟩)
    · have horphan := Made.orphan ho hkind
      split
      · contradiction
      · exact horphan
  | assignment =>
    simp only [Rule.accept?, assignment?] at h
    split at h
    · cases h
    · split at h
      · next named =>
        obtain rfl := Option.some.inj h
        exact .assignment (Bool.and_eq_true_iff.mp named).1
      · cases h
  | call =>
    obtain ⟨⟨name, args⟩, splits, rfl⟩ := Option.map_eq_some_iff.mp h
    exact .call splits

/-- A line that is no expression is what a rule has made of it. -/
theorem made_of_classify {line : Text} {statement : Statement} (h : classify line = statement)
    (hne : ∀ t, statement ≠ .expression t) : Made line statement := by
  rw [classify] at h
  cases hf : Rule.all.findSome? (·.accept? line) with
  | none =>
    rw [hf] at h
    exact absurd h.symm (hne line)
  | some found =>
    rw [hf, Option.getD_some] at h
    obtain ⟨rule, _, hr⟩ := List.exists_of_findSome?_eq_some hf
    exact made_of_accept? (h ▸ hr)

theorem opensTry_of_classify {line : Text} (h : classify line = .tryOpener) :
    opensTry line = true := by
  cases made_of_classify h (by simp) with
  | tryOpener opens => exact opens

/-- Only a name is assigned to. -/
theorem isIdentifier_of_classify {line name expression : Text}
    (h : classify line = .assignment name expression) : isIdentifier name = true := by
  cases made_of_classify h (by simp) with
  | assignment named => exact named

/-- Whether a statement does what it asks for where it stands. -/
def isPlain : Statement → Bool
  | .importModule _ => true
  | .assignment .. => true
  | .call .. => true
  | .expression _ => true
  | _ => false

end Statement

end LineScript
