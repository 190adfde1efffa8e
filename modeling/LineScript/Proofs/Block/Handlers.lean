import LineScript.Proofs.Block.Braces
import LineScript.Proofs.Block.Recorded

/-!
Handlers on the lines on which regions are closed. What the scan of a construct records of a region is
settled on the line where its braces are closed (`Entered.between`). If nothing but closing braces and
blanks is in front of the closing brace, and an opener that goes on with the construct is behind it, the
scan enters the region of that opener (`Entered.chain`).

A scan counts braces line by line, so a handler behind a brace with other text in front of it is lost,
as behind a region that is opened and closed on one line: `scan_handler` is what holds of all lines, and
`scan_handler_lost` a line of the other kind.
-/

namespace LineScript

open Text

/-! ## Where the braces of a region are closed -/

/-- The braces of a region are closed on the line numbered `stop`; `d` is how deep the region is before
the line numbered `i`. Lines that say nothing are passed over. As long as no brace is opened, an opener
of another kind than try would end the region. -/
inductive BraceDepth.ClosesOn (lines : List Text) (stop : Nat) (before behind : Text) :
    BraceDepth → Nat → Prop where
  | here {d : BraceDepth} {line : Text} (hline : lines[stop]? = some line)
      (speaks : isSkippable line = false) (closes : d.Closes line before behind) :
      ClosesOn lines stop before behind d stop
  | skip {d : BraceDepth} {i : Nat} {line : Text} (hline : lines[i]? = some line)
      (silent : isSkippable line = true) (later : ClosesOn lines stop before behind d (i + 1)) :
      ClosesOn lines stop before behind d i
  | past {d : BraceDepth} {i : Nat} {line : Text} (hline : lines[i]? = some line)
      (speaks : isSkippable line = false)
      (opened : d.opened = true ∨ ∀ o, Opener.read? line = some o → o.kind = .tryBlock)
      (stays : d.Stays line) (later : ClosesOn lines stop before behind (d.past line) (i + 1)) :
      ClosesOn lines stop before behind d i

/-- The braces of a region that is opened on the line numbered `i`, with `rest` behind the keyword, are
closed on the line numbered `stop`, by the brace between `before` and `behind`. -/
def ClosedAt (lines : List Text) (i : Nat) (rest : Text) (stop : Nat) (before behind : Text) : Prop :=
  stop = i ∧ BraceDepth.start.Closes rest before behind ∨
    BraceDepth.start.Stays rest ∧
      BraceDepth.ClosesOn lines stop before behind (BraceDepth.start.past rest) (i + 1)

/-- Nothing but closing braces and blanks is in front of a brace, and an opener of another kind than try
is behind it. -/
def Handover (before behind : Text) : Prop :=
  (∀ c ∈ before, Opener.isLead c = true) ∧ ∃ o, Opener.read? behind = some o ∧ o.kind ≠ .tryBlock

/-- The line on which a region is closed shows that it is. -/
def EndShows (before behind : Text) : Prop :=
  Handover before behind ∨ (braceCounts none behind).1 ≤ (braceCounts none behind).2

namespace Region

/-- The region that is opened on one line and closed on another, or on the same. -/
def between (kind : BlockKind) (opener stop : Nat) : Region :=
  if stop = opener then ⟨kind, opener, opener + 1, true⟩ else ⟨kind, opener + 1, stop, false⟩

/-- A region fits an opener of its kind on the line numbered `opener`, with `rest` behind the keyword: its
body is what the braces of this opener enclose. -/
structure Fits (lines : List Text) (kind : BlockKind) (opener : Nat) (rest : Text) (r : Region) :
    Prop where
  openerLine_eq : r.openerLine = opener
  /-- The body ends where the braces are closed, if the line there shows it. -/
  eq_between : ∀ stop before behind, ClosedAt lines opener rest stop before behind →
    EndShows before behind → r = between kind opener stop
  /-- Balanced text between braces that are closed on the line of the opener is the inline body. -/
  inlineBody_eq : ∀ front inside behind line : Text,
    BraceDepth.start.Closes rest (front ++ '\x7b' :: inside) behind →
    (BraceDepth.start.past front).opened = false → Nesting.top.after front = .top →
    Nesting.top.after inside = .top → lines[opener]? = some line → inlineBody? line = some inside.trim

end Region

namespace Construct

variable {lines : List Text} {start i : Nat} {kind : BlockKind} {r : Region}

/-! ## Leaving a region where its braces are closed -/

/-- The scan stays in a region up to the line on which its braces are closed. -/
theorem scanLines_closesOn {stop : Nat} {before behind : Text} {d : BraceDepth}
    (h : BraceDepth.ClosesOn lines stop before behind d i) (c : Construct) (kind : BlockKind)
    (s : Nat) :
    i ≤ stop ∧ ∃ c' d' line, lines[stop]? = some line ∧ isSkippable line = false ∧
      d'.Closes line before behind ∧ scanLines c (.close ⟨kind, s, d⟩) i (lines.drop i) =
        scanLines c' (.close ⟨kind, s, d'⟩) stop (lines.drop stop) := by
  induction h generalizing c with
  | @here d line hline speaks closes =>
    exact ⟨Nat.le_refl stop, c, d, line, hline, speaks, closes, rfl⟩
  | @skip d i line hline silent later ih =>
    obtain ⟨hle, c', d', line', hline', hspeaks, hcloses, hscan⟩ := ih c
    refine ⟨by omega, c', d', line', hline', hspeaks, hcloses, ?_⟩
    rw [drop_of_getElem? hline, (ScanStep.skip silent).scanLines_eq]
    exact hscan
  | @past d i line hline speaks opened stays later ih =>
    have hnone : closingOpener? ⟨kind, s, d⟩ (Opener.read? line) = none :=
      closingOpener?_of_stays ⟨kind, s, d⟩ opened stays
    have hopen : (d.past line).isClosed = false := stays line (List.prefix_refl line)
    obtain ⟨hle, c', d', line', hline', hspeaks, hcloses, hscan⟩ :=
      ih (c.noteTry i (Opener.read? line))
    have hstep : ScanStep i line c (.close ⟨kind, s, d⟩) (c.noteTry i (Opener.read? line))
        (some (.close ⟨kind, s, d.past line⟩)) := .inside speaks hnone hopen
    refine ⟨by omega, c', d', line', hline', hspeaks, hcloses, ?_⟩
    rw [drop_of_getElem? hline, hstep.scanLines_eq]
    exact hscan

/-- A brace that closes a region on the line of its opener has an opening one in front. -/
theorem not_lead_of_closes {rest before behind : Text}
    (h : BraceDepth.start.Closes rest before behind) : ¬ ∀ c ∈ before, Opener.isLead c = true := by
  intro hlead
  have hopened := congrArg BraceDepth.opened h.past_before
  rw [Opener.past_lead hlead] at hopened
  contradiction

section

variable {line : Text} {o : Opener} {stop : Nat} {before behind : Text}

theorem Entered.scan_eq (h : Entered lines start kind i) (hline : lines[i]? = some line)
    (ho : Opener.read? line = some o) : ∃ c : Construct,
      scan lines start = scanLines (c.openRegion kind i line o.rest).1
        (c.openRegion kind i line o.rest).2 (i + 1) (lines.drop (i + 1)) := by
  obtain ⟨c, line', o', hline', ho', hscan⟩ := h
  obtain rfl : line = line' := Option.some.inj (hline.symm.trans hline')
  obtain rfl : o = o' := Option.some.inj (ho.symm.trans ho')
  exact ⟨c, hscan⟩

/-- A region that is not closed on the line of its opener is open up to the line on which it is. -/
theorem Entered.scan_closesOn (h : Entered lines start kind i) (hline : lines[i]? = some line)
    (ho : Opener.read? line = some o) (hstays : BraceDepth.start.Stays o.rest)
    (hon : BraceDepth.ClosesOn lines stop before behind (BraceDepth.start.past o.rest) (i + 1)) :
    i < stop ∧ ∃ c d line', lines[stop]? = some line' ∧ isSkippable line' = false ∧
      d.Closes line' before behind ∧
      scan lines start = scanLines c (.close ⟨kind, i + 1, d⟩) stop (lines.drop stop) := by
  obtain ⟨c, hscan⟩ := h.scan_eq hline ho
  have hb : (BraceDepth.start.past o.rest).isClosed = false := hstays o.rest (List.prefix_refl _)
  obtain ⟨hle, c', d, line', hline', hspeaks, hcloses, hreach⟩ :=
    scanLines_closesOn hon (c.name kind o.rest) kind (i + 1)
  rw [openRegion_open hb, hreach] at hscan
  exact ⟨hle, c', d, line', hline', hspeaks, hcloses, hscan⟩

/-- A region whose end shows lies between its opener and the line on which its braces are closed. -/
theorem Entered.between (h : Entered lines start kind i) (hline : lines[i]? = some line)
    (ho : Opener.read? line = some o) (hclosed : ClosedAt lines i o.rest stop before behind)
    (hshows : EndShows before behind) :
    (scan lines start).region? kind = some (Region.between kind i stop) := by
  rcases hclosed with ⟨rfl, hcloses⟩ | ⟨hstays, hon⟩
  · obtain ⟨c, hscan⟩ := h.scan_eq hline ho
    have hb : (BraceDepth.start.past o.rest).isClosed = true := by
      rcases hshows with ⟨hlead, -⟩ | hcounts
      · exact absurd hlead (not_lead_of_closes hcloses)
      · exact hcloses.isClosed_past.mpr hcounts
    obtain ⟨hlt, _⟩ := List.getElem?_eq_some_iff.mp hline
    rw [hscan, openRegion_inline hb, Region.between, if_pos rfl]
    apply region?_of_passed hlt _ (Nat.le_refl _)
    rw [region?_record, if_pos rfl]
  · obtain ⟨hlt, c, d, line', hline', hspeaks, hcloses, hscan⟩ :=
      h.scan_closesOn hline ho hstays hon
    -- The opener ends the region, or the braces of the whole line do.
    have hends : (closingOpener? ⟨kind, i + 1, d⟩ (Opener.read? line')).isSome = true ∨
        (d.past line').isClosed = true := by
      rcases hshows with ⟨hlead, handler, hread, ht⟩ | hcounts
      · have hopener := closingOpener?_of_closes ⟨kind, i + 1, d⟩ hcloses hlead hread ht
        exact Or.inl (by rw [hopener]; rfl)
      · exact Or.inr (hcloses.isClosed_past.mpr hcounts)
    rw [hscan, region?_of_ended hline' hspeaks hends, Region.between,
      if_neg (Nat.ne_of_gt hlt), Nat.max_eq_left hlt]

/-- An opener that goes on with the construct behind the brace that closes a region is entered. -/
theorem Entered.chain (h : Entered lines start kind i) (hline : lines[i]? = some line)
    (ho : Opener.read? line = some o) (hclosed : ClosedAt lines i o.rest stop before behind)
    (hlead : ∀ c ∈ before, Opener.isLead c = true) {handler : Opener} {next : BlockKind}
    (hread : Opener.read? behind = some handler) (hnext : kind.next? handler.kind = some next) :
    Entered lines start next stop ∧ ∃ line' o', lines[stop]? = some line' ∧
      Opener.read? line' = some o' ∧ o'.rest = handler.rest := by
  rcases hclosed with ⟨rfl, hcloses⟩ | ⟨hstays, hon⟩
  · exact absurd hlead (not_lead_of_closes hcloses)
  · obtain ⟨hlt, c, d, line', hline', hspeaks, hcloses, hscan⟩ :=
      h.scan_closesOn hline ho hstays hon
    have hopener := closingOpener?_of_closes ⟨kind, i + 1, d⟩ hcloses hlead hread
      (BlockKind.next?_ne_try hnext)
    obtain ⟨hread', -, hdepth⟩ := closingOpener?_eq_some.mp hopener
    have hstep := ScanStep.chain (i := stop) (c := c) hread' hdepth hnext
    rw [drop_of_getElem? hline', hstep.scanLines_eq] at hscan
    exact ⟨⟨_, line', _, hline', hread', hscan⟩, line', _, hline', hread', rfl⟩

theorem Entered.fits (h : Entered lines start kind i) (hline : lines[i]? = some line)
    (ho : Opener.read? line = some o) (hr : (scan lines start).region? kind = some r) :
    r.Fits lines kind i o.rest where
  openerLine_eq := by
    obtain ⟨r', hr', hopener⟩ := h.exists_region?
    obtain rfl : r = r' := Option.some.inj (hr.symm.trans hr')
    exact hopener
  eq_between := by
    intro stop before behind hclosed hshows
    exact Option.some.inj (hr.symm.trans (h.between hline ho hclosed hshows))
  inlineBody_eq := by
    intro front inside behind line' hcloses hunopened hfront hinside hline'
    obtain rfl : line = line' := Option.some.inj (hline.symm.trans hline')
    obtain ⟨hopen, hclose⟩ := hcloses.cut rfl hunopened hfront hinside
    simp only [inlineBody?, ho, hopen, hclose, Option.map_some]

end

/-- Every region of the construct of a try fits its opener. If an opener that goes on with the construct
stands behind the brace that closes the region, and only closing braces and blanks in front of that
brace, then the construct has the region of this opener as well, and it fits. -/
theorem scan_handler {first : Text} (hfirst : lines[start]? = some first)
    (htry : opensTry first = true) (hr : (scan lines start).region? kind = some r) :
    ∃ line o, lines[r.openerLine]? = some line ∧ Opener.read? line = some o ∧
      r.Fits lines kind r.openerLine o.rest ∧
      ∀ stop before behind handler next, ClosedAt lines r.openerLine o.rest stop before behind →
        (∀ c ∈ before, Opener.isLead c = true) → Opener.read? behind = some handler →
        kind.next? handler.kind = some next →
        ∃ region, (scan lines start).region? next = some region ∧
          region.Fits lines next stop handler.rest := by
  have hentered : Entered lines start kind r.openerLine := entered_of_region? hfirst htry hr
  have ⟨_, line, o, hline, ho, _⟩ := hentered
  refine ⟨line, o, hline, ho, hentered.fits hline ho hr, ?_⟩
  intro stop before behind handler next hclosed hlead hread hnext
  obtain ⟨hnextEntered, line', o', hline', ho', hrest⟩ :=
    hentered.chain hline ho hclosed hlead hread hnext
  obtain ⟨region, hregion, -⟩ := hnextEntered.exists_region?
  refine ⟨region, hregion, ?_⟩
  rw [← hrest]
  exact hnextEntered.fits hline' ho' hregion

/-- A handler on one line, behind the brace that closes the try on that line. -/
theorem scan_handler_inline :
    let lines := ["try \x7b".toList, "  a()".toList, "\x7d catch (e) \x7b b() \x7d".toList]
    (scan lines 0).region? .tryBlock = some ⟨.tryBlock, 1, 2, false⟩ ∧
      (scan lines 0).region? .catchBlock = some ⟨.catchBlock, 2, 3, true⟩ ∧
      inlineBody? "\x7d catch (e) \x7b b() \x7d".toList = some "b()".toList := by
  intro lines
  have hr : (scan lines 0).region? .tryBlock = some ⟨.tryBlock, 1, 2, false⟩ := by decide
  have hfirst : lines[0]? = some "try \x7b".toList := rfl
  obtain ⟨line, o, hline, ho, -, hhandler⟩ := scan_handler hfirst (by decide) hr
  obtain rfl : "try \x7b".toList = line := Option.some.inj hline
  obtain rfl : ⟨.tryBlock, 0, " \x7b".toList⟩ = o := Option.some.inj ho
  have hclosed : ClosedAt lines 0 " \x7b".toList 2 [] " catch (e) \x7b b() \x7d".toList := by
    have hsecond : lines[1]? = some "  a()".toList := rfl
    have hthird : lines[2]? = some "\x7d catch (e) \x7b b() \x7d".toList := rfl
    refine Or.inr ⟨by decide, ?_⟩
    apply BraceDepth.ClosesOn.past hsecond (by decide) (Or.inl (by decide))
      (by decide)
    exact .here hthird (by decide) (by decide)
  obtain ⟨region, hregion, hfits⟩ := hhandler 2 [] _ ⟨.catchBlock, 0, " (e) \x7b b() \x7d".toList⟩
    .catchBlock hclosed (by simp) rfl rfl
  have hown : ClosedAt lines 2 " (e) \x7b b() \x7d".toList 2 " (e) \x7b b() ".toList [] :=
    Or.inl ⟨rfl, by decide⟩
  have hbetween := hfits.eq_between 2 _ [] hown (Or.inr (by decide))
  rw [hbetween] at hregion
  refine ⟨hr, hregion, ?_⟩
  exact hfits.inlineBody_eq " (e) ".toList " b() ".toList [] _ (by decide) (by decide)
    (by decide) (by decide) rfl

/-- A handler behind a try on one line is lost, although it follows the brace that closes the try. -/
theorem scan_handler_lost :
    let line := "try \x7b a() \x7d catch (e) \x7b b() \x7d".toList
    Opener.read? line = some ⟨.tryBlock, 0, " \x7b a() \x7d catch (e) \x7b b() \x7d".toList⟩ ∧
      ClosedAt [line] 0 " \x7b a() \x7d catch (e) \x7b b() \x7d".toList 0 " \x7b a() ".toList
        " catch (e) \x7b b() \x7d".toList ∧
      Opener.read? " catch (e) \x7b b() \x7d".toList =
        some ⟨.catchBlock, 0, " (e) \x7b b() \x7d".toList⟩ ∧
      BlockKind.tryBlock.next? .catchBlock = some .catchBlock ∧
      (scan [line] 0).region? .catchBlock = none := by
  refine ⟨by rfl, Or.inl ⟨rfl, by decide⟩, by rfl, rfl, by decide⟩

end Construct

end LineScript
