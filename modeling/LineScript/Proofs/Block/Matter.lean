import LineScript.Proofs.Block.Scan

/-! The matter of a text: its lines that say something, without blanks around them. A `Ranking`
counts these lines. Scans of a text and scans of its matter find the same, up to the count
(`scanFrom_matter`, `bodyEndAfter_matter`). -/

namespace LineScript

open Unicode Text

/-- The lines that say something, without blanks around them. -/
def matter (lines : List Text) : List Text := (lines.filter (!isSkippable ·)).map trim

theorem matter_nil : matter [] = [] := rfl

theorem matter_cons_skippable {line : Text} (h : isSkippable line = true) (rest : List Text) :
    matter (line :: rest) = matter rest := by
  simp [matter, h]

theorem matter_cons {line : Text} (h : isSkippable line = false) (rest : List Text) :
    matter (line :: rest) = line.trim :: matter rest := by
  simp [matter, h]

theorem matter_append (before behind : List Text) :
    matter (before ++ behind) = matter before ++ matter behind := by
  simp [matter]

/-! ## Rankings -/

/-- A count of the lines that say something, from the line numbered `i` on. -/
structure Ranking (rank : Nat → Nat) (i : Nat) (lines : List Text) : Prop where
  mono : ∀ m n, m ≤ n → rank m ≤ rank n
  counts : ∀ k, rank (i + k) = rank i + (matter (lines.take k)).length

namespace Ranking

variable {rank : Nat → Nat} {i : Nat} {line : Text} {lines rest : List Text}

theorem map_max (h : Ranking rank i lines) (m n : Nat) :
    rank (max m n) = max (rank m) (rank n) := by
  rcases Nat.le_total m n with hle | hle
  · rw [Nat.max_eq_right hle, Nat.max_eq_right (h.mono m n hle)]
  · rw [Nat.max_eq_left hle, Nat.max_eq_left (h.mono n m hle)]

theorem drop (h : Ranking rank i lines) (k : Nat) : Ranking rank (i + k) (lines.drop k) := by
  refine ⟨h.mono, fun n => ?_⟩
  rw [Nat.add_assoc, h.counts, h.counts, List.take_add, matter_append, List.length_append]
  omega

theorem tail (h : Ranking rank i (line :: rest)) : Ranking rank (i + 1) rest := h.drop 1

theorem succ_of_skippable (h : Ranking rank i (line :: rest)) (hs : isSkippable line = true) :
    rank (i + 1) = rank i := by
  rw [h.counts, List.take_succ_cons, matter_cons_skippable hs]
  rfl

theorem succ (h : Ranking rank i (line :: rest)) (hs : isSkippable line = false) :
    rank (i + 1) = rank i + 1 := by
  rw [h.counts, List.take_succ_cons, matter_cons hs]
  rfl

/-- Leaving lines of a text out leaves as many lines of its matter out as the ranking counts. -/
theorem drop_matter (h : Ranking rank i lines) (k : Nat) :
    (matter lines).drop (rank (i + k) - rank i) = matter (lines.drop k) := by
  have hsplit : matter lines = matter (lines.take k) ++ matter (lines.drop k) := by
    rw [← matter_append, List.take_append_drop]
  rw [h.counts, Nat.add_sub_cancel_left, hsplit, List.drop_left]

end Ranking

/-- The number of lines that say something among the first lines of a text. -/
def rank (lines : List Text) (n : Nat) : Nat := (matter (lines.take n)).length

theorem ranking_rank (lines : List Text) : Ranking (rank lines) 0 lines := by
  refine ⟨fun m n h => ?_, fun k => ?_⟩
  · have hsplit : lines.take n = lines.take m ++ (lines.drop m).take (n - m) := by
      rw [← List.take_add, Nat.add_sub_cancel' h]
    rw [rank, rank, hsplit, matter_append, List.length_append]
    exact Nat.le_add_right _ _
  · rw [Nat.zero_add, rank, rank, List.take_zero, matter_nil, List.length_nil, Nat.zero_add]

theorem ranking_drop (lines : List Text) (i : Nat) : Ranking (rank lines) i (lines.drop i) := by
  have h := (ranking_rank lines).drop i
  rwa [Nat.zero_add] at h

/-! ## Scans -/

/-- The region with other numbers for its lines. -/
def Region.renumber (f : Nat → Nat) (r : Region) : Region :=
  { r with start := f r.start, stop := f r.stop }

/-- The open region with another number for its first line. -/
def OpenRegion.renumber (f : Nat → Nat) (r : OpenRegion) : OpenRegion :=
  { r with start := f r.start }

/-- The search with other numbers for its lines. -/
def Search.renumber (f : Nat → Nat) : Search → Search
  | .close region => .close (region.renumber f)
  | .continuation before resume => .continuation before (f resume)

/-- The construct with other numbers for its lines. -/
def Construct.renumber (f : Nat → Nat) (c : Construct) : Construct where
  tryRegion := c.tryRegion.renumber f
  catchRegion := c.catchRegion.map (·.renumber f)
  finallyRegion := c.finallyRegion.map (·.renumber f)
  binding := c.binding
  resumeAt := f c.resumeAt
  nestedTry := c.nestedTry.map f

namespace Construct

variable {rank : Nat → Nat} {i : Nat} {line : Text} {lines rest : List Text}

theorem renumber_record (f : Nat → Nat) (c : Construct) (region : Region) :
    (c.record region).renumber f = (c.renumber f).record (region.renumber f) := by
  cases hk : region.kind <;> simp [record, hk, renumber, Region.renumber]

theorem renumber_close (h : Ranking rank i lines) (c : Construct) (region : OpenRegion)
    (stop : Nat) :
    (c.close region stop).renumber rank =
      (c.renumber rank).close (region.renumber rank) (rank stop) := by
  rw [close, renumber_record, Region.renumber, h.map_max]
  rfl

theorem renumber_noteTry (f : Nat → Nat) (c : Construct) (i : Nat) (opener : Option Opener) :
    (c.noteTry i opener).renumber f = (c.renumber f).noteTry (f i) opener := by
  rw [noteTry_eq, noteTry_eq]
  split
  · cases hn : c.nestedTry <;> simp [renumber, hn]
  · rfl

theorem renumber_name (f : Nat → Nat) (c : Construct) (kind : BlockKind) (rest : Text) :
    (c.name kind rest).renumber f = (c.renumber f).name kind rest := by
  unfold name
  split <;> rfl

/-- A trimmed line is noted as the line is. -/
theorem noteTry_trim (c : Construct) (i : Nat) (line : Text) :
    c.noteTry i (Opener.read? line.trim) = c.noteTry i (Opener.read? line) := by
  rw [noteTry_read?, noteTry_read?, opensTry_trim]

/-- Opening a region on a line and on the trimmed line comes to the same, up to the count. -/
theorem openRegion_renumber (h : rank (i + 1) = rank i + 1) {trail : Text} (ht : Blank trail)
    (c : Construct) (kind : BlockKind) (line rest : Text) :
    (c.renumber rank).openRegion kind (rank i) line.trim rest =
      ((c.openRegion kind i line (rest ++ trail)).1.renumber rank,
        (c.openRegion kind i line (rest ++ trail)).2.renumber rank) := by
  have hpast := BraceDepth.start.past_append_blank ht rest
  have hname : (c.renumber rank).name kind rest = (c.name kind (rest ++ trail)).renumber rank := by
    rw [renumber_name]
    simp only [name, Opener.binding?_append_blank ht]
  cases hb : (BraceDepth.start.past rest).isClosed with
  | true =>
    rw [openRegion_inline hb, openRegion_inline (hpast ▸ hb), hname, inlineBody?_trim]
    simp only [renumber_record, renumber_noteTry, Region.renumber, Search.renumber, h]
  | false =>
    rw [openRegion_open hb, openRegion_open (hpast ▸ hb), hname, hpast]
    simp only [Search.renumber, OpenRegion.renumber, h]

/-- A line closes a region with its opener as the trimmed line does. -/
theorem closingOpener?_trim (region : OpenRegion) (line : Text)
    (h : closingOpener? region (Opener.read? line) = none) :
    closingOpener? region (Opener.read? line.trim) = none := by
  obtain ⟨trail, _, hr⟩ := Opener.exists_pad_read?_trim line
  cases hc : closingOpener? region (Opener.read? line.trim) with
  | none => rfl
  | some o =>
    obtain ⟨ho, hkind, hdepth⟩ := closingOpener?_eq_some.mp hc
    rw [ho, Option.map_some] at hr
    rw [closingOpener?_eq_some.mpr ⟨hr, hkind, hdepth⟩] at h
    contradiction

/-- A line that says something makes the step that the trimmed line makes, up to the count. -/
theorem ScanStep.renumber (hrank : Ranking rank i (line :: rest)) (hs : isSkippable line = false)
    {c c' : Construct} {search : Search} {search' : Option Search}
    (h : ScanStep i line c search c' search') :
    ScanStep (rank i) line.trim (c.renumber rank) (search.renumber rank) (c'.renumber rank)
      (search'.map (·.renumber rank)) := by
  have hs' : isSkippable line.trim = false := by rwa [isSkippable_trim]
  have hsucc := hrank.succ hs
  -- Every case makes the step of the trimmed line with the same guards; what is left is that the
  -- parts of the construct are renumbered alike.
  cases h with
  | skip hskip =>
    rw [hs] at hskip
    contradiction
  | @chain region _ kind ho hd hk =>
    obtain ⟨o, trail, ht, ho', rfl⟩ := Opener.exists_read?_trim ho
    have hstep : ScanStep (rank i) line.trim (c.renumber rank)
        (.close (region.renumber rank)) _ _ := .chain ho' hd hk
    rw [← renumber_close hrank, openRegion_renumber hsucc ht] at hstep
    exact hstep
  | @cutOff region _ ho hkind hd hk =>
    obtain ⟨o, _, _, ho', rfl⟩ := Opener.exists_read?_trim ho
    have hstep : ScanStep (rank i) line.trim (c.renumber rank)
        (.close (region.renumber rank)) _ _ := .cutOff ho' hkind hd hk
    rw [← renumber_close hrank] at hstep
    exact hstep
  | @shut region _ ho hb =>
    have hstep : ScanStep (rank i) line.trim (c.renumber rank)
        (.close (region.renumber rank)) _ _ :=
      .shut hs' (closingOpener?_trim region line ho) (by rwa [BraceDepth.past_trim])
    rw [noteTry_trim, ← renumber_noteTry, ← renumber_close hrank, ← hsucc] at hstep
    exact hstep
  | @inside region _ ho hb =>
    have hstep : ScanStep (rank i) line.trim (c.renumber rank)
        (.close (region.renumber rank)) _ _ :=
      .inside hs' (closingOpener?_trim region line ho) (by rwa [BraceDepth.past_trim])
    rw [noteTry_trim, ← renumber_noteTry, BraceDepth.past_trim] at hstep
    exact hstep
  | @follow before resume _ kind ho hz hk =>
    obtain ⟨o, trail, ht, ho', rfl⟩ := Opener.exists_read?_trim ho
    have hstep : ScanStep (rank i) line.trim (c.renumber rank) (.continuation before (rank resume))
        _ _ := .follow ho' hz hk
    rw [openRegion_renumber hsucc ht] at hstep
    exact hstep
  | @leave before resume _ ho =>
    obtain ⟨trail, _, hr⟩ := Opener.exists_pad_read?_trim line
    refine .leave hs' fun o ho' hz => ?_
    rw [ho', Option.map_some] at hr
    exact ho (o.pad trail) hr hz

/-- The scan of a text finds what the scan of its matter finds, up to the count. -/
theorem scanLines_matter (h : Ranking rank i lines) (c : Construct) (search : Search) :
    scanLines (c.renumber rank) (search.renumber rank) (rank i) (matter lines) =
      (scanLines c search i lines).renumber rank := by
  induction lines generalizing i c search with
  | nil =>
    cases search with
    | close region =>
      have hclose := renumber_close h c region i
      simp only [matter_nil, Search.renumber, scanLines, ← hclose]
      rfl
    | continuation before resume => rfl
  | cons line rest ih =>
    cases hs : isSkippable line with
    | true =>
      rw [matter_cons_skippable hs, (ScanStep.skip hs).scanLines_eq, ← h.succ_of_skippable hs]
      exact ih h.tail c search
    | false =>
      obtain ⟨c', search', hstep⟩ := exists_scanStep i line c search
      rw [matter_cons hs, hstep.scanLines_eq, (hstep.renumber h hs).scanLines_eq, ← h.succ hs]
      cases search' with
      | none => rfl
      | some search' => exact ih h.tail c' search'

theorem scanFrom_matter (h : Ranking rank i (line :: rest)) (hs : isSkippable line = false) :
    scanFrom (rank i) line.trim (matter rest) = (scanFrom i line rest).renumber rank := by
  have hsucc := h.succ hs
  obtain ⟨trail, ht, hr⟩ := Opener.exists_pad_read?_trim line
  have hopened : openedAt (rank i) = (openedAt i).renumber rank := by
    simp only [openedAt, renumber, Region.renumber, hsucc, Option.map_none]
  have hbehind : ∃ s, Blank s ∧ ((Opener.read? line).map (·.rest)).getD [] =
      ((Opener.read? line.trim).map (·.rest)).getD [] ++ s := by
    rw [hr]
    cases Opener.read? line.trim with
    | none => exact ⟨[], .nil, rfl⟩
    | some o => exact ⟨trail, ht, rfl⟩
  obtain ⟨s, hblank, heq⟩ := hbehind
  simp only [scanFrom, heq, hopened, openRegion_renumber hsucc hblank]
  rw [← hsucc]
  exact scanLines_matter h.tail _ _

end Construct

/-! ## Bodies that are skipped -/

section

variable {rank : Nat → Nat} {i : Nat} {line : Text} {lines rest : List Text}

/-- A line that says something begins with what the trimmed line begins with. -/
theorem head?_trimStart (h : isSkippable line = false) :
    line.trim.trimStart.head? = line.trimStart.head? := by
  obtain ⟨lead, trail, hl, _, heq⟩ := exists_blank_ends line
  have hne : line.trim ≠ [] := by
    intro hnil
    simp [isSkippable, hnil] at h
  have hstart : (line.trim.trimStart).isEmpty = false := by
    cases hts : line.trim.trimStart with
    | cons c t => rfl
    | nil =>
      have htrim := trim_trim line
      rw [trim, hts] at htrim
      exact absurd htrim.symm hne
  conv => rhs; rw [heq, List.append_assoc, trimStart_blank_append hl, trimStart_append, hstart]
  cases hts : line.trim.trimStart with
  | cons c t => rfl
  | nil => simp [hts] at hstart

theorem past_dropWhile_trim (d : BraceDepth) (line : Text) :
    d.past (line.trim.dropWhile Opener.isLead) = d.past (line.dropWhile Opener.isLead) := by
  obtain ⟨lead, trail, hl, ht, heq⟩ := exists_blank_ends line
  conv => rhs; rw [heq, List.append_assoc,
    List.dropWhile_append_of_pos fun c hc => Opener.isLead_of_isBlank (hl c hc),
    List.dropWhile_append]
  split
  · next he =>
    have htrail : (trail ++ []).dropWhile Opener.isLead = List.dropWhile Opener.isLead [] :=
      List.dropWhile_append_of_pos fun c hc => Opener.isLead_of_isBlank (ht c hc)
    rw [List.append_nil] at htrail
    rw [htrail, List.isEmpty_iff.mp he, List.dropWhile_nil]
  · rw [BraceDepth.past_append_blank ht]

theorem bodyEndFrom_matter (h : Ranking rank i lines) (d : BraceDepth) :
    bodyEndFrom d (rank i) (matter lines) = rank (bodyEndFrom d i lines) := by
  induction lines generalizing i d with
  | nil => rfl
  | cons line rest ih =>
    cases hs : isSkippable line with
    | true =>
      rw [matter_cons_skippable hs, ← h.succ_of_skippable hs, ih h.tail d]
      simp only [bodyEndFrom, hs, ↓reduceIte]
    | false =>
      simp only [matter_cons hs, bodyEndFrom, isSkippable_trim, hs, Bool.false_eq_true, ↓reduceIte,
        head?_trimStart hs, BraceDepth.past_trim, ← h.succ hs]
      split
      · rfl
      · split
        · rfl
        · exact ih h.tail (d.past line)

theorem bodyEndAfter_matter (h : Ranking rank i (line :: rest)) (hs : isSkippable line = false) :
    bodyEndAfter (rank i) line.trim (matter rest) = rank (bodyEndAfter i line rest) := by
  simp only [bodyEndAfter, past_dropWhile_trim, ← h.succ hs]
  split
  · rfl
  · exact bodyEndFrom_matter h.tail _

end

end LineScript
