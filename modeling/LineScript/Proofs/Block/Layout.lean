import LineScript.Proofs.Block.Heading

/-! Layouts of try constructs. A `Layout` says how a construct is written, and `Layout.construct`
where its parts are then. The scan finds these parts behind any lines, and before any lines that do
not go on with the construct (`scan_layout`). -/

namespace LineScript

open Unicode Text

/-! ## Bodies -/

/-- Whether lines that begin at a depth in braces end at 0 and never get below it, neither behind a
line nor behind the closing braces in front of a heading that may close a region. -/
def bracesClose (depth : Int) : List Text → Bool
  | [] => depth == 0
  | line :: rest =>
    if isSkippable line then bracesClose depth rest
    else
      let behind := depth + (braceCounts none line).1 - (braceCounts none line).2
      !((Opener.read? line).any fun o => o.kind ≠ .tryBlock && depth < o.closers) &&
        decide (0 ≤ behind) && bracesClose behind rest

/-- The lines of a body. -/
structure Body where
  lines : List Text
  closed : bracesClose 0 lines = true

/-- The first of the lines that opens a try, where the lines begin with the one numbered `i`. -/
def firstTry (i : Nat) (lines : List Text) : Option Nat :=
  (lines.findIdx? opensTry).map (i + ·)

theorem firstTry_cons (i : Nat) (line : Text) (rest : List Text) :
    firstTry i (line :: rest) = if opensTry line then some i else firstTry (i + 1) rest := by
  simp only [firstTry, List.findIdx?_cons]
  split
  · simp
  · rw [Option.map_map]
    congr 1
    funext k
    simp only [Function.comp_apply]
    omega

namespace Construct

/-- The construct with a nested try noted, unless there is one already. -/
def noteFirst (c : Construct) (first : Option Nat) : Construct :=
  { c with nestedTry := c.nestedTry.or first }

theorem noteFirst_none (c : Construct) : c.noteFirst none = c := by
  simp [noteFirst]

theorem noteFirst_firstTry_cons (c : Construct) (i : Nat) (line : Text) (rest : List Text) :
    (c.noteTry i (Opener.read? line)).noteFirst (firstTry (i + 1) rest) =
      c.noteFirst (firstTry i (line :: rest)) := by
  rw [noteTry_read?, firstTry_cons]
  cases hn : c.nestedTry <;> split <;> simp [noteFirst, hn]

variable {kind : BlockKind} {start i : Nat}

/-- The scan of a region passes a body, whatever is in it, and notes a try. -/
theorem scanLines_bracesClose {depth : Int} {lines : List Text} (hd : 0 ≤ depth)
    (h : bracesClose depth lines = true) (c : Construct) (behind : List Text) :
    scanLines c (.close ⟨kind, start, ⟨1 + depth, true⟩⟩) i (lines ++ behind) =
      scanLines (c.noteFirst (firstTry i lines)) (.close ⟨kind, start, ⟨1, true⟩⟩)
        (i + lines.length) behind := by
  induction lines generalizing i depth c with
  | nil =>
    simp only [bracesClose, beq_iff_eq] at h
    subst h
    rw [show firstTry i [] = none from rfl, noteFirst_none]
    rfl
  | cons line rest ih =>
    have hlength : i + (line :: rest).length = i + 1 + rest.length := by
      rw [List.length_cons]
      omega
    rw [List.cons_append, hlength]
    by_cases hs : isSkippable line = true
    · simp only [bracesClose, hs, ↓reduceIte] at h
      rw [(ScanStep.skip hs).scanLines_eq]
      simp only [proceed]
      rw [ih hd h, firstTry_cons, opensTry_of_isSkippable hs, if_neg (by simp)]
    · have hs' : isSkippable line = false := by simpa using hs
      simp only [bracesClose, hs, Bool.false_eq_true, ↓reduceIte, Bool.and_eq_true,
        decide_eq_true_eq, Bool.not_eq_true'] at h
      obtain ⟨⟨hopener, hbehind⟩, hrest⟩ := h
      have hpast : (⟨1 + depth, true⟩ : BraceDepth).past line =
          ⟨1 + (depth + (braceCounts none line).1 - (braceCounts none line).2), true⟩ := by
        simp only [BraceDepth.past, Bool.true_or, BraceDepth.mk.injEq, and_true]
        omega
      -- An opener that closed the region would have more closing braces than the body has open.
      have hinside : closingOpener? ⟨kind, start, ⟨1 + depth, true⟩⟩ (Opener.read? line) =
          none := by
        cases hc : closingOpener? ⟨kind, start, ⟨1 + depth, true⟩⟩ (Opener.read? line) with
        | none => rfl
        | some o =>
          obtain ⟨ho, ht, hclose⟩ := closingOpener?_eq_some.mp hc
          simp only [ho, Option.any_some, ne_eq, ht, not_false_eq_true, decide_true,
            Bool.true_and, decide_eq_false_iff_not] at hopener
          simp only at hclose
          omega
      have hopen : ((⟨1 + depth, true⟩ : BraceDepth).past line).isClosed = false := by
        rw [hpast]
        simp only [BraceDepth.isClosed, Bool.true_and, decide_eq_false_iff_not]
        omega
      rw [(ScanStep.inside hs' hinside hopen).scanLines_eq]
      simp only [proceed, hpast]
      rw [ih hbehind hrest, noteFirst_firstTry_cons]

theorem scanLines_body (body : Body) (c : Construct) (behind : List Text) :
    scanLines c (.close ⟨kind, start, ⟨1, true⟩⟩) i (body.lines ++ behind) =
      scanLines (c.noteFirst (firstTry i body.lines)) (.close ⟨kind, start, ⟨1, true⟩⟩)
        (i + body.lines.length) behind :=
  scanLines_bracesClose (Int.le_refl 0) body.closed c behind

end Construct

/-! ## Between bodies -/

/-- A line with the brace that closes a region. -/
structure Closing where
  indent : Text
  trail : Text
  blankIndent : Blank indent
  blankTrail : Blank trail

namespace Closing

variable (e : Closing)

/-- The text of a closing line, or of what is before a heading on it. -/
def text : Text := e.indent ++ '\x7d' :: e.trail

theorem text_isLead : ∀ c ∈ e.text, Opener.isLead c = true := by
  intro c hc
  simp only [text, List.mem_append, List.mem_cons] at hc
  rcases hc with hc | rfl | hc
  · exact Opener.isLead_of_isBlank (e.blankIndent c hc)
  · rfl
  · exact Opener.isLead_of_isBlank (e.blankTrail c hc)

theorem count_text : e.text.count '\x7d' = 1 := by
  have hbrace : isBlank '\x7d' = false := by decide
  rw [text, List.count_append, List.count_cons_self, e.blankIndent.count_eq_zero hbrace,
    e.blankTrail.count_eq_zero hbrace]

theorem text_eq : e.text = e.indent ++ ['\x7d'] ++ e.trail := by
  rw [text, List.append_assoc]
  rfl

theorem isSkippable_text : isSkippable e.text = false := by
  rw [← isSkippable_trim, e.text_eq, trim_blank_ends e.blankIndent e.blankTrail, isSkippable_trim]
  decide

theorem read?_text : Opener.read? e.text = none := by
  have hbrace : Opener.read? ['\x7d'] = none := by decide
  rw [e.text_eq, Opener.read?_blank_ends e.blankIndent e.blankTrail, hbrace, Option.map_none]

theorem past_text : (⟨1, true⟩ : BraceDepth).past e.text = ⟨0, true⟩ := by
  rw [e.text_eq, BraceDepth.past_blank_ends e.blankIndent e.blankTrail]
  rfl

end Closing

/-- How a region is closed and the next one begun: with the next heading on the closing line, or on
a line of its own behind lines that say nothing. -/
inductive Joint where
  | sameLine (closing : Closing)
  | ownLine (closing : Closing) (between : List Text) (indent : Text)
      (skippable : ∀ line ∈ between, isSkippable line = true) (blankIndent : Blank indent)

/-- The lines from the closing brace of a region to the heading of the next. -/
def Joint.lines (heading : Text) : Joint → List Text
  | .sameLine closing => [closing.text ++ heading]
  | .ownLine closing between indent _ _ => closing.text :: between ++ [indent ++ heading]

/-- A region behind another one. -/
structure Section (kind : BlockKind) where
  joint : Joint
  heading : Heading kind
  body : Body

namespace Section

variable {kind : BlockKind} (s : Section kind)

/-- The lines from the joint to the heading. -/
def front : List Text := s.joint.lines s.heading.text

/-- All lines but the closing one. -/
def lines : List Text := s.front ++ s.body.lines

/-- The first line of the body, if the lines begin with the one numbered `i`. -/
def start (i : Nat) : Nat := i + s.front.length

/-- The line behind the body. -/
def stop (i : Nat) : Nat := s.start i + s.body.lines.length

theorem start_le_stop (i : Nat) : s.start i ≤ s.stop i := Nat.le_add_right _ _

/-- The region that the body is. -/
def region (i : Nat) : Region := ⟨kind, s.start i, s.stop i, false⟩

/-- The first line of the body that opens a try. -/
def nested (i : Nat) : Option Nat := firstTry (s.start i) s.body.lines

end Section

/-- Whether lines do not go on with a construct whose last region is of kind `before`: the first
that says something is no heading, or one that may not follow. -/
def BlockKind.EndsBefore (before : BlockKind) (lines : List Text) : Prop :=
  ∀ line, lines.find? (!isSkippable ·) = some line →
    ∀ o, Opener.read? line = some o → o.closers = 0 → before.next? o.kind = none

namespace Construct

variable {before kind : BlockKind} {start i : Nat}

theorem scanLines_skippable {between : List Text}
    (h : ∀ line ∈ between, isSkippable line = true) (c : Construct) (search : Search)
    (behind : List Text) :
    scanLines c search i (between ++ behind) = scanLines c search (i + between.length) behind := by
  induction between generalizing i with
  | nil => rfl
  | cons line rest ih =>
    rw [List.cons_append, (ScanStep.skip (h line (by simp))).scanLines_eq]
    simp only [proceed]
    rw [ih fun l hl => h l (by simp [hl])]
    congr 1
    simp only [List.length_cons]
    omega

/-- A heading leaves its region open. -/
theorem openRegion_heading (heading : Heading kind) (c : Construct) (line : Text) :
    c.openRegion kind i line heading.rest =
      (c.name kind heading.rest, .close ⟨kind, i + 1, ⟨1, true⟩⟩) := by
  have hopen : (BraceDepth.start.past heading.rest).isClosed = false := by
    rw [heading.past_rest]
    rfl
  rw [openRegion_open hopen, heading.past_rest]

theorem shut_closing (closing : Closing) (c : Construct) :
    ScanStep i closing.text c (.close ⟨kind, start, ⟨1, true⟩⟩)
      (c.close ⟨kind, start, ⟨1, true⟩⟩ i) (some (.continuation kind (i + 1))) := by
  have hnone : closingOpener? ⟨kind, start, ⟨1, true⟩⟩ (Opener.read? closing.text) = none := by
    rw [closing.read?_text]
    rfl
  have hclosed : ((⟨1, true⟩ : BraceDepth).past closing.text).isClosed = true := by
    rw [closing.past_text]
    rfl
  have hstep := ScanStep.shut (i := i) (c := c) closing.isSkippable_text hnone hclosed
  rw [closing.read?_text] at hstep
  exact hstep

/-- The scan passes a joint: one region is closed there, and the next is opened. -/
theorem scanLines_front (hk : before.next? kind = some kind) (s : Section kind) (c : Construct)
    (behind : List Text) :
    scanLines c (.close ⟨before, start, ⟨1, true⟩⟩) i (s.front ++ behind) =
      scanLines ((c.close ⟨before, start, ⟨1, true⟩⟩ i).name kind s.heading.rest)
        (.close ⟨kind, s.start i, ⟨1, true⟩⟩) (s.start i) behind := by
  rw [Section.start, Section.front]
  cases s.joint with
  | sameLine closing =>
    have hread := s.heading.read?_text closing.text_isLead
    rw [closing.count_text] at hread
    rw [Joint.lines, List.singleton_append, List.length_singleton,
      (ScanStep.chain hread (by simp) hk).scanLines_eq]
    simp only [proceed, openRegion_heading]
  | ownLine closing between indent skippable blankIndent =>
    have hread := s.heading.read?_text fun c hc => Opener.isLead_of_isBlank (blankIndent c hc)
    rw [blankIndent.count_eq_zero (by decide)] at hread
    rw [Joint.lines, List.cons_append, List.cons_append, List.append_assoc,
      (shut_closing closing c).scanLines_eq]
    simp only [proceed]
    rw [scanLines_skippable skippable, List.singleton_append,
      (ScanStep.follow hread rfl hk).scanLines_eq]
    simp only [proceed, openRegion_heading]
    have hlength : i + 1 + between.length + 1 =
        i + (closing.text :: (between ++ [indent ++ s.heading.text])).length := by
      simp only [List.length_cons, List.length_append, List.length_nil]
      omega
    rw [hlength]

theorem close_of_le (h : start ≤ i) (c : Construct) (braces : BraceDepth) :
    c.close ⟨kind, start, braces⟩ i = c.record ⟨kind, start, i, false⟩ := by
  rw [close, Nat.max_eq_left h]

/-- The scan passes a section, and leaves its region open behind its body. -/
theorem scanLines_section (hk : before.next? kind = some kind) (hi : start ≤ i)
    (s : Section kind) (c : Construct) (behind : List Text) :
    scanLines c (.close ⟨before, start, ⟨1, true⟩⟩) i (s.lines ++ behind) =
      scanLines (((c.record ⟨before, start, i, false⟩).name kind s.heading.rest).noteFirst
        (s.nested i)) (.close ⟨kind, s.start i, ⟨1, true⟩⟩) (s.stop i) behind := by
  rw [Section.lines, List.append_assoc, scanLines_front hk, scanLines_body, close_of_le hi]
  rfl

theorem scanLines_endsBefore {after : List Text} (h : kind.EndsBefore after) (c : Construct)
    (resume : Nat) :
    scanLines c (.continuation kind resume) i after = { c with resumeAt := resume } := by
  induction after generalizing i with
  | nil => rfl
  | cons line rest ih =>
    cases hs : isSkippable line with
    | true =>
      rw [(ScanStep.skip hs).scanLines_eq]
      refine ih fun l hl => h l ?_
      rw [List.find?_cons_of_neg (by simp [hs])]
      exact hl
    | false =>
      have hfirst : (line :: rest).find? (!isSkippable ·) = some line :=
        List.find?_cons_of_pos (by simp [hs])
      rw [(ScanStep.leave hs fun o ho hz => h line hfirst o ho hz).scanLines_eq]
      rfl

/-- The scan ends behind the closing line of the last region. -/
theorem scanLines_closing {after : List Text} (h : kind.EndsBefore after) (hi : start ≤ i)
    (closing : Closing) (c : Construct) :
    scanLines c (.close ⟨kind, start, ⟨1, true⟩⟩) i (closing.text :: after) =
      { c.record ⟨kind, start, i, false⟩ with resumeAt := i + 1 } := by
  rw [(shut_closing closing c).scanLines_eq, close_of_le hi]
  exact scanLines_endsBefore h _ (i + 1)

end Construct

/-! ## Layouts -/

namespace Construct

variable {before : BlockKind} {start i : Nat}

/-- The end of a construct behind its first body or its handler: perhaps a cleanup, and the closing
line. -/
theorem scanLines_tail (hk : before.next? .finallyBlock = some .finallyBlock) (hi : start ≤ i)
    (cleanup : Option (Section .finallyBlock)) (closing : Closing) {after : List Text}
    (h : BlockKind.EndsBefore (if cleanup.isSome then .finallyBlock else before) after)
    {c : Construct} (hc : c.finallyRegion = none) :
    scanLines c (.close ⟨before, start, ⟨1, true⟩⟩) i
        ((cleanup.map Section.lines).getD [] ++ closing.text :: after) =
      { c.record ⟨before, start, i, false⟩ with
        finallyRegion := cleanup.map (·.region i)
        nestedTry := c.nestedTry.or (cleanup.bind (·.nested i))
        resumeAt := (cleanup.map (·.stop i)).getD i + 1 } := by
  have hrecord : (c.record ⟨before, start, i, false⟩).finallyRegion = none := by
    cases before with
    | finallyBlock => contradiction
    | _ => exact hc
  cases cleanup with
  | none =>
    simp only [Option.map_none, Option.getD_none, List.nil_append, Option.bind_none,
      Option.or_none]
    have hend : before.EndsBefore after := h
    rw [scanLines_closing hend hi, ← hrecord, ← nestedTry_record c ⟨before, start, i, false⟩]
  | some s =>
    have hend : BlockKind.finallyBlock.EndsBefore after := h
    simp only [Option.map_some, Option.getD_some, Option.bind_some]
    rw [scanLines_section hk hi, scanLines_closing hend (s.start_le_stop i),
      ← nestedTry_record c ⟨before, start, i, false⟩]
    generalize c.record ⟨before, start, i, false⟩ = d
    simp [record, name, noteFirst, Section.region]

end Construct

/-- How a construct is written. -/
structure Layout where
  indent : Text
  blankIndent : Blank indent
  heading : Heading .tryBlock
  body : Body
  handler : Option (Section .catchBlock)
  cleanup : Option (Section .finallyBlock)
  closing : Closing

namespace Layout

variable (l : Layout)

/-- The lines of a construct. -/
def lines : List Text :=
  (l.indent ++ l.heading.text) :: (l.body.lines ++ ((l.handler.map Section.lines).getD [] ++
    ((l.cleanup.map Section.lines).getD [] ++ [l.closing.text])))

/-- The line behind the first body, if the construct begins on the line numbered `i`. -/
def bodyStop (i : Nat) : Nat := i + 1 + l.body.lines.length

/-- The line behind the handler, or behind the first body if there is none. -/
def handlerStop (i : Nat) : Nat := (l.handler.map (·.stop (l.bodyStop i))).getD (l.bodyStop i)

/-- The line behind the last body, which is the closing one. -/
def lastStop (i : Nat) : Nat := (l.cleanup.map (·.stop (l.handlerStop i))).getD (l.handlerStop i)

/-- The kind of the last region. -/
def last : BlockKind :=
  if l.cleanup.isSome then .finallyBlock else if l.handler.isSome then .catchBlock else .tryBlock

/-- What a scan is to find, if the construct begins on the line numbered `i`. -/
def construct (i : Nat) : Construct where
  tryRegion := ⟨.tryBlock, i + 1, l.bodyStop i, false⟩
  catchRegion := l.handler.map (·.region (l.bodyStop i))
  finallyRegion := l.cleanup.map (·.region (l.handlerStop i))
  binding := l.handler.bind fun s => s.heading.name.map Prod.fst
  resumeAt := l.lastStop i + 1
  nestedTry := (firstTry (i + 1) l.body.lines).or
    ((l.handler.bind (·.nested (l.bodyStop i))).or (l.cleanup.bind (·.nested (l.handlerStop i))))

end Layout

namespace Construct

/-- The scan of a construct finds what its layout says. -/
theorem scan_layout (l : Layout) (before after : List Text) (h : l.last.EndsBefore after) :
    scan (before ++ l.lines ++ after) before.length = l.construct before.length := by
  have hread : Opener.read? (l.indent ++ l.heading.text) =
      some ⟨.tryBlock, l.indent.count '\x7d', l.heading.rest⟩ :=
    l.heading.read?_text fun c hc => Opener.isLead_of_isBlank (l.blankIndent c hc)
  rw [scan, List.append_assoc, List.drop_left]
  generalize before.length = i
  simp only [Layout.lines, List.cons_append, List.append_assoc, List.nil_append, scanFrom, hread,
    Option.map_some, Option.getD_some, openRegion_heading]
  rw [scanLines_body]
  cases hh : l.handler with
  | none =>
    have hafter : BlockKind.EndsBefore (if l.cleanup.isSome then .finallyBlock else .tryBlock)
        after := by
      simpa only [Layout.last, hh, Option.isSome_none, Bool.false_eq_true, ↓reduceIte] using h
    simp only [Option.map_none, Option.getD_none, List.nil_append]
    rw [scanLines_tail rfl (Nat.le_add_right _ _) l.cleanup l.closing hafter rfl]
    simp [Layout.construct, Layout.lastStop, Layout.handlerStop, Layout.bodyStop, hh, openedAt,
      name, noteFirst, record]
  | some s =>
    have hafter : BlockKind.EndsBefore (if l.cleanup.isSome then .finallyBlock else .catchBlock)
        after := by
      simpa only [Layout.last, hh, Option.isSome_some, ↓reduceIte] using h
    simp only [Option.map_some, Option.getD_some]
    rw [scanLines_section rfl (Nat.le_add_right _ _),
      scanLines_tail rfl (s.start_le_stop _) l.cleanup l.closing hafter rfl]
    simp [Layout.construct, Layout.lastStop, Layout.handlerStop, Layout.bodyStop, hh, openedAt,
      name, noteFirst, record, Section.region, s.heading.binding?_rest, Option.or_assoc]

/-- A handler with its heading on the closing line, and a cleanup behind a comment. -/
theorem scan_layout_both :
    scan (["try \x7b".toList, "f() \x7b".toList, "\x7d".toList, "\x7d catch (e) \x7b".toList,
      "print(e)".toList, "\x7d".toList, "# clean".toList, "finally \x7b".toList,
      "try \x7b g() \x7d".toList, "\x7d".toList] ++ ["print(1)".toList]) 0 =
    ⟨⟨.tryBlock, 1, 3, false⟩, some ⟨.catchBlock, 4, 5, false⟩, some ⟨.finallyBlock, 8, 9, false⟩,
      some "e".toList, 10, some 8⟩ := by
  have hblank : Blank [' '] := by decide
  have hafter : BlockKind.finallyBlock.EndsBefore ["print(1)".toList] := by
    intro line hline o ho
    have hfirst : ["print(1)".toList].find? (!isSkippable ·) = some "print(1)".toList := by
      decide
    have hnone : Opener.read? "print(1)".toList = none := by decide
    obtain rfl := Option.some.inj (hfirst.symm.trans hline)
    rw [hnone] at ho
    contradiction
  exact scan_layout
    { indent := []
      blankIndent := .nil
      heading := ⟨"try".toList, [' '], none, [], by decide, hblank, .nil, by simp⟩
      body := ⟨["f() \x7b".toList, "\x7d".toList], by decide⟩
      handler := some
        { joint := .sameLine ⟨[], [' '], .nil, hblank⟩
          heading := ⟨"catch".toList, [' '], some ("e".toList, [' ']), [], by decide, hblank, .nil,
            by decide⟩
          body := ⟨["print(e)".toList], by decide⟩ }
      cleanup := some
        { joint := .ownLine ⟨[], [], .nil, .nil⟩ ["# clean".toList] [] (by decide) .nil
          heading := ⟨"finally".toList, [' '], none, [], by decide, hblank, .nil, by simp⟩
          body := ⟨["try \x7b g() \x7d".toList], by decide⟩ }
      closing := ⟨[], [], .nil, .nil⟩ }
    [] ["print(1)".toList] hafter

end Construct

end LineScript
