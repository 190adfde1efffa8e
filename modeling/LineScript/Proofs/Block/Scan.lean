import LineScript.Block.Construct
import LineScript.Proofs.Block.Opening

/-! The scan of a construct, one line at a time. `ScanStep` says what a line can do to the scan;
every line does one of these things (`exists_scanStep`), and each of them settles how the scan goes
on (`ScanStep.scanLines_eq`). What the steps keep therefore holds of every scanned construct
(`scanLines_invariant`). -/

namespace LineScript

/-- What a closing opener says: it stands on the line, begins no try, and its closing braces close
the region. -/
theorem Construct.closingOpener?_eq_some {region : OpenRegion} {opener : Option Opener}
    {o : Opener} : closingOpener? region opener = some o ↔
      opener = some o ∧ o.kind ≠ .tryBlock ∧ region.braces.depth - o.closers ≤ 0 := by
  simp only [closingOpener?, Option.filter_eq_some_iff, decide_eq_true_eq]

theorem BlockKind.next?_ne_try {before opener kind : BlockKind}
    (h : before.next? opener = some kind) : opener ≠ .tryBlock := by
  rintro rfl
  cases before <;> simp [BlockKind.next?] at h

namespace Construct

/-! ## The parts of a construct -/

/-- The regions of a construct. -/
def regions (c : Construct) : List Region :=
  c.tryRegion :: c.catchRegion.toList ++ c.finallyRegion.toList

/-- The construct with the name that the opener of a region binds, which only a catch does. -/
def name (c : Construct) (kind : BlockKind) (rest : Text) : Construct :=
  if kind = .catchBlock then { c with binding := Opener.binding? rest } else c

@[simp] theorem regions_name (c : Construct) (kind : BlockKind) (rest : Text) :
    (c.name kind rest).regions = c.regions := by
  unfold name
  split <;> rfl

@[simp] theorem nestedTry_name (c : Construct) (kind : BlockKind) (rest : Text) :
    (c.name kind rest).nestedTry = c.nestedTry := by
  unfold name
  split <;> rfl

@[simp] theorem nestedTry_record (c : Construct) (region : Region) :
    (c.record region).nestedTry = c.nestedTry := by
  unfold record
  split <;> rfl

/-- Recording a region takes the place of one of its kind at most. -/
theorem mem_regions_record {c : Construct} {region r : Region}
    (h : r ∈ (c.record region).regions) : r = region ∨ r ∈ c.regions := by
  cases hk : region.kind <;> simp [record, hk, regions] at h ⊢ <;> grind

/-- A line is noted when it opens a try and no line before it was. -/
theorem noteTry_eq (c : Construct) (i : Nat) (opener : Option Opener) :
    c.noteTry i opener =
      if opener.any (·.kind = .tryBlock) then { c with nestedTry := some (c.nestedTry.getD i) }
      else c := by
  cases opener with
  | none => rfl
  | some o =>
    obtain ⟨kind, closers, rest⟩ := o
    cases kind <;> rfl

theorem noteTry_read? (c : Construct) (i : Nat) (line : Text) :
    c.noteTry i (Opener.read? line) =
      if opensTry line then { c with nestedTry := some (c.nestedTry.getD i) } else c :=
  noteTry_eq c i _

theorem noteTry_of_ne {c : Construct} {i : Nat} {o : Opener} (h : o.kind ≠ .tryBlock) :
    c.noteTry i (some o) = c := by
  rw [noteTry_eq]
  simp [h]

/-! ## Opening a region -/

/-- An opener whose braces are closed on its line makes an inline region. -/
theorem openRegion_inline {rest : Text} (h : (BraceDepth.start.past rest).isClosed = true)
    (c : Construct) (kind : BlockKind) (i : Nat) (line : Text) :
    c.openRegion kind i line rest =
      (((c.name kind rest).noteTry i ((inlineBody? line).bind Opener.read?)).record
        ⟨kind, i, i + 1, true⟩, .continuation kind (i + 1)) := by
  simp only [openRegion, h, ↓reduceIte, name]

/-- Any other opener begins a region that is to be closed on a later line. -/
theorem openRegion_open {rest : Text} (h : (BraceDepth.start.past rest).isClosed = false)
    (c : Construct) (kind : BlockKind) (i : Nat) (line : Text) :
    c.openRegion kind i line rest =
      (c.name kind rest, .close ⟨kind, i + 1, BraceDepth.start.past rest⟩) := by
  simp only [openRegion, h, Bool.false_eq_true, ↓reduceIte, name]

/-! ## Steps -/

/-- What the scan can do with the line numbered `i`. It ends there if nothing is left to look for.
-/
inductive ScanStep (i : Nat) (line : Text) :
    Construct → Search → Construct → Option Search → Prop where
  | skip {c : Construct} {search : Search} (hs : isSkippable line = true) :
      ScanStep i line c search c (some search)
  /-- The line closes the region and opens the next. -/
  | chain {c : Construct} {region : OpenRegion} {o : Opener} {kind : BlockKind}
      (ho : Opener.read? line = some o) (hd : region.braces.depth - o.closers ≤ 0)
      (hk : region.kind.next? o.kind = some kind) :
      ScanStep i line c (.close region)
        ((c.close region i).openRegion kind i line o.rest).1
        (some ((c.close region i).openRegion kind i line o.rest).2)
  /-- The line closes the region, but what it opens does not belong to the construct. -/
  | cutOff {c : Construct} {region : OpenRegion} {o : Opener}
      (ho : Opener.read? line = some o) (ht : o.kind ≠ .tryBlock)
      (hd : region.braces.depth - o.closers ≤ 0) (hk : region.kind.next? o.kind = none) :
      ScanStep i line c (.close region) { c.close region i with resumeAt := i } none
  /-- The braces of the region are closed on the line. -/
  | shut {c : Construct} {region : OpenRegion} (hs : isSkippable line = false)
      (ho : closingOpener? region (Opener.read? line) = none)
      (hb : (region.braces.past line).isClosed = true) :
      ScanStep i line c (.close region)
        ((c.noteTry i (Opener.read? line)).close region i)
        (some (.continuation region.kind (i + 1)))
  /-- The line belongs to the body of the region. -/
  | inside {c : Construct} {region : OpenRegion} (hs : isSkippable line = false)
      (ho : closingOpener? region (Opener.read? line) = none)
      (hb : (region.braces.past line).isClosed = false) :
      ScanStep i line c (.close region) (c.noteTry i (Opener.read? line))
        (some (.close { region with braces := region.braces.past line }))
  /-- Behind a closed region the line opens the next. -/
  | follow {c : Construct} {before : BlockKind} {resume : Nat} {o : Opener} {kind : BlockKind}
      (ho : Opener.read? line = some o) (hz : o.closers = 0)
      (hk : before.next? o.kind = some kind) :
      ScanStep i line c (.continuation before resume)
        (c.openRegion kind i line o.rest).1 (some (c.openRegion kind i line o.rest).2)
  /-- Behind a closed region the line does not go on with the construct. -/
  | leave {c : Construct} {before : BlockKind} {resume : Nat} (hs : isSkippable line = false)
      (ho : ∀ o, Opener.read? line = some o → o.closers = 0 → before.next? o.kind = none) :
      ScanStep i line c (.continuation before resume) { c with resumeAt := resume } none

/-- The scan of the lines from the one numbered `i` on, if it has not ended. -/
def proceed (c : Construct) (search : Option Search) (i : Nat) (lines : List Text) : Construct :=
  match search with
  | none => c
  | some search => scanLines c search i lines

/-- A step settles how the scan goes on. -/
theorem ScanStep.scanLines_eq {i : Nat} {line : Text} {c c' : Construct} {search : Search}
    {search' : Option Search} (h : ScanStep i line c search c' search') (rest : List Text) :
    scanLines c search i (line :: rest) = proceed c' search' (i + 1) rest := by
  cases h with
  | skip hs => cases search <;> simp [scanLines, hs, proceed]
  | chain ho hd hk =>
    have ht := BlockKind.next?_ne_try hk
    have hc := closingOpener?_eq_some.mpr ⟨rfl, ht, hd⟩
    simp only [scanLines, isSkippable_of_read? ho, Bool.false_eq_true, ↓reduceIte, ho, hc,
      noteTry_of_ne ht, hk, proceed]
  | cutOff ho ht hd hk =>
    have hc := closingOpener?_eq_some.mpr ⟨rfl, ht, hd⟩
    simp only [scanLines, isSkippable_of_read? ho, Bool.false_eq_true, ↓reduceIte, ho, hc,
      noteTry_of_ne ht, hk, proceed]
  | shut hs ho hb => simp [scanLines, hs, ho, hb, proceed]
  | inside hs ho hb => simp [scanLines, hs, ho, hb, proceed]
  | @follow before resume o kind ho hz hk =>
    have hf : (some o).filter (·.closers = 0) = some o := by simp [hz]
    simp only [scanLines, isSkippable_of_read? ho, Bool.false_eq_true, ↓reduceIte, ho, hf, hk,
      proceed]
  | leave hs ho =>
    cases hr : Opener.read? line with
    | none => simp [scanLines, hs, hr, proceed]
    | some o =>
      by_cases hz : o.closers = 0
      · have hf : (some o).filter (·.closers = 0) = some o := by simp [hz]
        simp only [scanLines, hs, Bool.false_eq_true, ↓reduceIte, hr, hf, ho o hr hz, proceed]
      · have hf : (some o).filter (·.closers = 0) = none := by simp [hz]
        simp only [scanLines, hs, Bool.false_eq_true, ↓reduceIte, hr, hf, proceed]

/-- Every line makes a step. -/
theorem exists_scanStep (i : Nat) (line : Text) (c : Construct) (search : Search) :
    ∃ c' search', ScanStep i line c search c' search' := by
  cases hs : isSkippable line with
  | true => exact ⟨_, _, .skip hs⟩
  | false =>
    cases search with
    | close region =>
      cases ho : closingOpener? region (Opener.read? line) with
      | some o =>
        obtain ⟨hr, ht, hd⟩ := closingOpener?_eq_some.mp ho
        cases hk : region.kind.next? o.kind with
        | none => exact ⟨_, _, .cutOff hr ht hd hk⟩
        | some kind => exact ⟨_, _, .chain hr hd hk⟩
      | none =>
        cases hb : (region.braces.past line).isClosed with
        | true => exact ⟨_, _, .shut hs ho hb⟩
        | false => exact ⟨_, _, .inside hs ho hb⟩
    | continuation before resume =>
      by_cases hf : ∃ o kind, Opener.read? line = some o ∧ o.closers = 0 ∧
          before.next? o.kind = some kind
      · obtain ⟨o, kind, hr, hz, hk⟩ := hf
        exact ⟨_, _, .follow hr hz hk⟩
      · refine ⟨_, _, .leave hs fun o hr hz => ?_⟩
        cases hk : before.next? o.kind with
        | none => rfl
        | some kind => exact absurd ⟨o, kind, hr, hz, hk⟩ hf

/-- What every step keeps holds at the end of the scan. -/
theorem scanLines_invariant {lines : List Text} {P : Nat → Construct → Search → Prop}
    {Q : Construct → Prop}
    (ends : ∀ {i line c search c'}, lines[i]? = some line → P i c search →
      ScanStep i line c search c' none → Q c')
    (goesOn : ∀ {i line c search c' search'}, lines[i]? = some line → P i c search →
      ScanStep i line c search c' (some search') → P (i + 1) c' search')
    (runsOut : ∀ {c search}, P lines.length c search →
      Q (scanLines c search lines.length [])) {i : Nat} {c : Construct} {search : Search}
    (hi : i ≤ lines.length) (h : P i c search) :
    Q (scanLines c search i (lines.drop i)) := by
  induction hn : lines.length - i generalizing i c search with
  | zero =>
    have hlen : i = lines.length := by omega
    subst hlen
    rw [List.drop_length]
    exact runsOut h
  | succ n ih =>
    have hlt : i < lines.length := by omega
    rw [List.drop_eq_getElem_cons hlt]
    have hline : lines[i]? = some lines[i] := List.getElem?_eq_getElem hlt
    obtain ⟨c', search', hstep⟩ := exists_scanStep i lines[i] c search
    rw [hstep.scanLines_eq]
    cases search' with
    | none => exact ends hline h hstep
    | some search' => exact ih (by omega) (goesOn hline h hstep) (by omega)

end Construct

end LineScript
