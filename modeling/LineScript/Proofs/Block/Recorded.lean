import LineScript.Proofs.Block.Regions

/-!
What the scan of a construct records. A region is recorded when the scan gets past it, and at the end of
the lines (`region?_of_ended`, `exists_region?_close`), and stays as it was recorded, since no kind of
region is opened twice (`region?_of_passed`). So the regions of a construct are the ones that the scan
has entered, each on the line of its opener (`entered_of_region?`, `Entered.exists_region?`).
-/

namespace LineScript

/-- The line of the opener of a region. -/
def Region.openerLine (r : Region) : Nat := if r.inline then r.start else r.start - 1

namespace Construct

/-! ## The region of a kind -/

/-- The region of a kind, if it has been recorded. -/
def region? (c : Construct) : BlockKind → Option Region
  | .tryBlock => some c.tryRegion
  | .catchBlock => c.catchRegion
  | .finallyBlock => c.finallyRegion

theorem region?_record (c : Construct) (r : Region) (kind : BlockKind) :
    (c.record r).region? kind = if r.kind = kind then some r else c.region? kind := by
  obtain ⟨k, start, stop, inline⟩ := r
  cases k <;> cases kind <;> rfl

@[simp] theorem region?_noteTry (c : Construct) (i : Nat) (opener : Option Opener)
    (kind : BlockKind) : (c.noteTry i opener).region? kind = c.region? kind := by
  rw [noteTry_eq]
  split
  · cases kind <;> rfl
  · rfl

@[simp] theorem region?_name (c : Construct) (k : BlockKind) (rest : Text) (kind : BlockKind) :
    (c.name k rest).region? kind = c.region? kind := by
  unfold name
  split
  · cases kind <;> rfl
  · rfl

@[simp] theorem region?_resume (c : Construct) (resumeAt : Nat) (kind : BlockKind) :
    { c with resumeAt }.region? kind = c.region? kind := by
  cases kind <;> rfl

end Construct

/-! ## What has been recorded stays -/

/-- The order of the regions of a construct. -/
def BlockKind.rank : BlockKind → Nat
  | tryBlock => 0
  | catchBlock => 1
  | finallyBlock => 2

theorem BlockKind.rank_lt_of_next? {before opener kind : BlockKind}
    (h : before.next? opener = some kind) : before.rank < kind.rank := by
  cases before <;> cases opener <;> cases h <;> decide

/-- A search that is past the region of a kind. -/
def Search.Passed (kind : BlockKind) : Search → Prop
  | close region => kind.rank < region.kind.rank
  | continuation before _ => kind.rank ≤ before.rank

namespace Construct

variable {lines : List Text} {start i : Nat} {kind : BlockKind} {r : Region}

/-- Past the region of a kind no other one of this kind is closed. -/
theorem region?_close {c : Construct} {region : OpenRegion}
    (hs : (Search.close region).Passed kind) (stop : Nat) :
    (c.close region stop).region? kind = c.region? kind := by
  have hne : region.kind ≠ kind := by
    rintro rfl
    exact Nat.lt_irrefl _ hs
  rw [close, region?_record, if_neg hne]

theorem openRegion_passed {c : Construct} {k : BlockKind} {line rest : Text}
    (hr : c.region? kind = some r) (hk : kind.rank < k.rank) :
    (c.openRegion k i line rest).1.region? kind = some r ∧
      (c.openRegion k i line rest).2.Passed kind := by
  have hne : k ≠ kind := by
    rintro rfl
    exact Nat.lt_irrefl _ hk
  cases hb : (BraceDepth.start.past rest).isClosed with
  | false =>
    rw [openRegion_open hb]
    exact ⟨by rw [region?_name, hr], hk⟩
  | true =>
    rw [openRegion_inline hb]
    exact ⟨by rw [region?_record, if_neg hne, region?_noteTry, region?_name, hr],
      Nat.le_of_lt hk⟩

/-- A search that is past a region leaves it as it was recorded. -/
theorem region?_of_passed {c : Construct} {search : Search} (hi : i ≤ lines.length)
    (hr : c.region? kind = some r) (hs : search.Passed kind) :
    (scanLines c search i (lines.drop i)).region? kind = some r := by
  refine scanLines_invariant (P := fun _ c search => c.region? kind = some r ∧ search.Passed kind)
    (Q := fun c => c.region? kind = some r) ?_ ?_ ?_ hi ⟨hr, hs⟩
  · intro i line c search c' _ ⟨hr, hs⟩ hstep
    cases hstep with
    | cutOff => rw [region?_resume, region?_close hs, hr]
    | leave => rw [region?_resume, hr]
  · intro i line c search c' search' _ ⟨hr, hs⟩ hstep
    cases hstep with
    | skip => exact ⟨hr, hs⟩
    | chain ho hd hk =>
      apply openRegion_passed
      · rw [region?_close hs, hr]
      · exact Nat.lt_trans hs (BlockKind.rank_lt_of_next? hk)
    | shut => exact ⟨by rw [region?_close hs, region?_noteTry, hr], Nat.le_of_lt hs⟩
    | inside => exact ⟨by rw [region?_noteTry, hr], hs⟩
    | follow ho hz hk =>
      exact openRegion_passed hr (Nat.lt_of_le_of_lt hs (BlockKind.rank_lt_of_next? hk))
  · intro c search ⟨hr, hs⟩
    cases search with
    | close region => rw [scanLines, region?_resume, region?_close hs, hr]
    | continuation => rw [scanLines, region?_resume, hr]

/-! ## Entering a region -/

/-- The scan of the construct at `start` comes to open a region of a kind on the line numbered `i`. -/
def Entered (lines : List Text) (start : Nat) (kind : BlockKind) (i : Nat) : Prop :=
  ∃ (c : Construct) (line : Text) (o : Opener),
    lines[i]? = some line ∧ Opener.read? line = some o ∧
    scan lines start = scanLines (c.openRegion kind i line o.rest).1
      (c.openRegion kind i line o.rest).2 (i + 1) (lines.drop (i + 1))

theorem drop_of_getElem? {line : Text} (h : lines[i]? = some line) :
    lines.drop i = line :: lines.drop (i + 1) := by
  obtain ⟨hlt, rfl⟩ := List.getElem?_eq_some_iff.mp h
  exact List.drop_eq_getElem_cons hlt

/-- What is known while the scan is at the line `i`: every region that is recorded or open was entered on
the line of its opener. -/
structure Arrived (lines : List Text) (start i : Nat) (c : Construct) (search : Search) : Prop where
  scan_eq : scan lines start = scanLines c search i (lines.drop i)
  recorded : ∀ kind r, c.region? kind = some r → Entered lines start kind r.openerLine
  opened : ∀ region, search = .close region →
    0 < region.start ∧ Entered lines start region.kind (region.start - 1)

/-- An open region is recorded as one that was entered where it was. -/
theorem entered_of_close {c : Construct} {region : OpenRegion} {stop : Nat}
    (hrecorded : ∀ kind r, c.region? kind = some r → Entered lines start kind r.openerLine)
    (hopened : Entered lines start region.kind (region.start - 1)) (kind : BlockKind) (r : Region)
    (hr : (c.close region stop).region? kind = some r) : Entered lines start kind r.openerLine := by
  rw [close, region?_record] at hr
  split at hr
  · next hkind =>
    cases hr
    subst hkind
    exact hopened
  · exact hrecorded kind r hr

theorem Arrived.openRegion {c : Construct} {line : Text} {o : Opener}
    (hline : lines[i]? = some line) (ho : Opener.read? line = some o)
    (hrecorded : ∀ kind r, c.region? kind = some r → Entered lines start kind r.openerLine)
    (hscan : scan lines start = scanLines (c.openRegion kind i line o.rest).1
      (c.openRegion kind i line o.rest).2 (i + 1) (lines.drop (i + 1))) :
    Arrived lines start (i + 1) (c.openRegion kind i line o.rest).1
      (c.openRegion kind i line o.rest).2 := by
  have hentered : Entered lines start kind i := ⟨c, line, o, hline, ho, hscan⟩
  refine ⟨hscan, ?_, ?_⟩
  · intro k r hr
    cases hb : (BraceDepth.start.past o.rest).isClosed with
    | false =>
      rw [openRegion_open hb, region?_name] at hr
      exact hrecorded k r hr
    | true =>
      rw [openRegion_inline hb, region?_record] at hr
      split at hr
      · next hkind =>
        cases hr
        subst hkind
        exact hentered
      · rw [region?_noteTry, region?_name] at hr
        exact hrecorded k r hr
  · intro region hregion
    cases hb : (BraceDepth.start.past o.rest).isClosed with
    | false =>
      rw [openRegion_open hb] at hregion
      cases hregion
      exact ⟨Nat.succ_pos i, hentered⟩
    | true =>
      rw [openRegion_inline hb] at hregion
      cases hregion

theorem Arrived.step {line : Text} {c c' : Construct} {search search' : Search}
    (h : Arrived lines start i c search) (hline : lines[i]? = some line)
    (hstep : ScanStep i line c search c' (some search')) :
    Arrived lines start (i + 1) c' search' := by
  have hscan := h.scan_eq
  rw [drop_of_getElem? hline, hstep.scanLines_eq] at hscan
  cases hstep with
  | skip => exact ⟨hscan, h.recorded, h.opened⟩
  | @chain region o next ho hd hk =>
    exact .openRegion hline ho (entered_of_close h.recorded (h.opened region rfl).2) hscan
  | @shut region hsay ho hb =>
    refine ⟨hscan, ?_, fun _ hregion => by cases hregion⟩
    apply entered_of_close _ (h.opened region rfl).2
    intro k r hr
    rw [region?_noteTry] at hr
    exact h.recorded k r hr
  | @inside region hsay ho hb =>
    refine ⟨hscan, ?_, ?_⟩
    · intro k r hr
      rw [region?_noteTry] at hr
      exact h.recorded k r hr
    · intro region' hregion
      cases hregion
      exact h.opened region rfl
  | @follow before resume o next ho hz hk => exact .openRegion hline ho h.recorded hscan

theorem Arrived.complete {line : Text} {c c' : Construct} {search : Search}
    (h : Arrived lines start i c search) (hstep : ScanStep i line c search c' none)
    (kind : BlockKind) (r : Region) (hr : c'.region? kind = some r) :
    Entered lines start kind r.openerLine := by
  cases hstep with
  | @cutOff region o ho ht hd hk =>
    rw [region?_resume] at hr
    exact entered_of_close h.recorded (h.opened region rfl).2 kind r hr
  | leave =>
    rw [region?_resume] at hr
    exact h.recorded kind r hr

/-- Every region of a construct was entered on the line of its opener. -/
theorem entered_of_region? {first : Text} (hfirst : lines[start]? = some first)
    (htry : opensTry first = true) (hr : (scan lines start).region? kind = some r) :
    Entered lines start kind r.openerLine := by
  obtain ⟨hlt, _⟩ := List.getElem?_eq_some_iff.mp hfirst
  obtain ⟨o, ho⟩ : ∃ o, Opener.read? first = some o := by
    cases ho : Opener.read? first with
    | some o => exact ⟨o, rfl⟩
    | none => simp [opensTry, ho] at htry
  have hscan : scan lines start = scanLines ((openedAt start).openRegion .tryBlock start first o.rest).1
      ((openedAt start).openRegion .tryBlock start first o.rest).2 (start + 1)
      (lines.drop (start + 1)) := by
    rw [scan_eq_scanFrom hfirst, scanFrom, ho]
    rfl
  have harrived : Arrived lines start (start + 1)
      ((openedAt start).openRegion .tryBlock start first o.rest).1
      ((openedAt start).openRegion .tryBlock start first o.rest).2 := by
    apply Arrived.openRegion hfirst ho _ hscan
    intro k r hr
    cases k with
    | tryBlock =>
      cases hr
      exact ⟨_, first, o, hfirst, ho, hscan⟩
    | catchBlock => cases hr
    | finallyBlock => cases hr
  have hall : ∀ kind r, (scan lines start).region? kind = some r →
      Entered lines start kind r.openerLine := by
    rw [hscan]
    apply scanLines_invariant (P := Arrived lines start)
      (Q := fun c => ∀ kind r, c.region? kind = some r → Entered lines start kind r.openerLine) _ _ _
      hlt harrived
    · intro i line c search c' _ h hstep
      exact h.complete hstep
    · intro i line c search c' search' hline h hstep
      exact h.step hline hstep
    · intro c search h k r hr
      cases search with
      | close region =>
        rw [scanLines, region?_resume] at hr
        exact entered_of_close h.recorded (h.opened region rfl).2 k r hr
      | continuation before resume =>
        rw [scanLines, region?_resume] at hr
        exact h.recorded k r hr
  exact hall kind r hr

/-! ## Leaving a region -/

/-- The line on which the scan gets past an open region settles what is recorded of it. -/
theorem region?_of_ended {region : OpenRegion} {line : Text} (hline : lines[i]? = some line)
    (hspeaks : isSkippable line = false)
    (hends : (closingOpener? region (Opener.read? line)).isSome = true ∨
      (region.braces.past line).isClosed = true) (c : Construct) :
    (scanLines c (.close region) i (lines.drop i)).region? region.kind =
      some ⟨region.kind, region.start, max i region.start, false⟩ := by
  obtain ⟨hlt, _⟩ := List.getElem?_eq_some_iff.mp hline
  have hclose : ∀ c : Construct, (c.close region i).region? region.kind =
      some ⟨region.kind, region.start, max i region.start, false⟩ := by
    intro c
    rw [close, region?_record, if_pos rfl]
  obtain ⟨c', search', hstep⟩ := exists_scanStep i line c (.close region)
  rw [drop_of_getElem? hline, hstep.scanLines_eq]
  cases hstep with
  | skip hs =>
    rw [hspeaks] at hs
    contradiction
  | chain ho hd hk =>
    have hrank := BlockKind.rank_lt_of_next? hk
    apply region?_of_passed hlt
    · exact (openRegion_passed (hclose c) hrank).1
    · exact (openRegion_passed (hclose c) hrank).2
  | cutOff ho ht hd hk =>
    rw [proceed, region?_resume]
    exact hclose c
  | shut hs ho hb => exact region?_of_passed hlt (hclose _) (Nat.le_refl _)
  | inside hs ho hb =>
    rw [ho, hb] at hends
    simp at hends

/-- An open region is recorded in the end. -/
theorem exists_region?_close (region : OpenRegion) (c : Construct) (hi : i ≤ lines.length) :
    ∃ stop, (scanLines c (.close region) i (lines.drop i)).region? region.kind =
      some ⟨region.kind, region.start, stop, false⟩ := by
  induction hn : lines.length - i generalizing i c region with
  | zero =>
    have hlen : i = lines.length := by omega
    subst hlen
    refine ⟨max lines.length region.start, ?_⟩
    rw [List.drop_length, scanLines, region?_resume, close, region?_record, if_pos rfl]
  | succ n ih =>
    have hlt : i < lines.length := by omega
    have hline : lines[i]? = some lines[i] := List.getElem?_eq_getElem hlt
    obtain ⟨c', search', hstep⟩ := exists_scanStep i lines[i] c (.close region)
    have hscan : scanLines c (.close region) i (lines.drop i) =
        proceed c' search' (i + 1) (lines.drop (i + 1)) := by
      rw [drop_of_getElem? hline, hstep.scanLines_eq]
    -- A line leaves the region open, or ends it, which records it.
    cases hstep with
    | skip hs =>
      rw [hscan]
      exact ih region c hlt (by omega)
    | inside hs ho hb =>
      rw [hscan]
      exact ih _ _ hlt (by omega)
    | chain ho hd hk =>
      have hc := closingOpener?_eq_some.mpr ⟨ho, BlockKind.next?_ne_try hk, hd⟩
      exact ⟨_, region?_of_ended hline (isSkippable_of_read? ho) (Or.inl (by rw [hc]; rfl)) c⟩
    | cutOff ho ht hd hk =>
      have hc := closingOpener?_eq_some.mpr ⟨ho, ht, hd⟩
      exact ⟨_, region?_of_ended hline (isSkippable_of_read? ho) (Or.inl (by rw [hc]; rfl)) c⟩
    | shut hs ho hb => exact ⟨_, region?_of_ended hline hs (Or.inr hb) c⟩

/-- A region that was entered is recorded with the line of its opener. -/
theorem Entered.exists_region? (h : Entered lines start kind i) :
    ∃ r, (scan lines start).region? kind = some r ∧ r.openerLine = i := by
  obtain ⟨c, line, o, hline, ho, hscan⟩ := h
  obtain ⟨hlt, _⟩ := List.getElem?_eq_some_iff.mp hline
  rw [hscan]
  cases hb : (BraceDepth.start.past o.rest).isClosed with
  | false =>
    rw [openRegion_open hb]
    obtain ⟨stop, hr⟩ := exists_region?_close ⟨kind, i + 1, BraceDepth.start.past o.rest⟩
      (c.name kind o.rest) (Nat.succ_le_of_lt hlt)
    exact ⟨_, hr, rfl⟩
  | true =>
    rw [openRegion_inline hb]
    refine ⟨⟨kind, i, i + 1, true⟩, region?_of_passed hlt ?_ (Nat.le_refl _), rfl⟩
    rw [region?_record, if_pos rfl]

end Construct

end LineScript
