import LineScript.Proofs.Block.Matter
import LineScript.Proofs.Program.Outline

/-! The outline of a text and that of its matter. Both have the same bodies (`itemsUpTo_matter`,
`regionItems_matter`) and the same steps (`read_matter`), but for the numbers of the lines. -/

namespace LineScript

open Text

/-- The statement with another number for its line. -/
def Item.renumber (f : Nat → Nat) (i : Item) : Item := { i with line := f i.line }

/-- The construct with other numbers for its lines. -/
def Attempt.renumber (f : Nat → Nat) (a : Attempt) : Attempt where
  line := f a.line
  nestedTry := a.nestedTry.map f
  body := a.body.map (·.renumber f)
  binding := a.binding
  handler := a.handler.map (·.map (·.renumber f))
  cleanup := a.cleanup.map (·.map (·.renumber f))

/-- The step with other numbers for its lines. -/
def Step.renumber (f : Nat → Nat) : Step → Step
  | .item i => .item (i.renumber f)
  | .attempt a => .attempt (a.renumber f)

/-- A map of lines that are counted from 0, as one of lines that are counted from 1. -/
def ordinal (f : Nat → Nat) (n : Nat) : Nat := f (n - 1) + 1

theorem ordinal_succ (f : Nat → Nat) (i : Nat) : ordinal f (i + 1) = f i + 1 := rfl

namespace Program

variable {f : Nat → Nat} {i stop : Nat} {line : Text} {lines rest : List Text}

theorem next_matter (h : Ranking f i (line :: rest)) (hs : isSkippable line = false)
    (statement : Statement) :
    next (f i) line.trim (matter rest) statement = f (next i line rest statement) := by
  cases statement with
  | tryOpener =>
    rw [next, next, Construct.scanFrom_matter h hs]
    rfl
  | declaration keyword signature => exact bodyEndAfter_matter h hs
  | orphan kind => exact bodyEndAfter_matter h hs
  | _ => exact (h.succ hs).symm

/-- Stepping over lines of a text steps over as many lines of its matter as the ranking counts. -/
theorem skip_matter (h : Ranking f (i + 1) rest) (n : Nat) :
    f n - f (i + 1) = f (i + 1 + (n - (i + 1))) - f (i + 1) := by
  rcases Nat.le_total (i + 1) n with hle | hle
  · rw [Nat.add_sub_cancel' hle]
  · have hmono := h.mono n (i + 1) hle
    rw [Nat.sub_eq_zero_of_le hle, Nat.add_zero]
    omega

/-! ## Bodies -/

/-- What a line that says something puts in front of a body. -/
theorem itemsUpTo_cons (hstop : ¬ stop ≤ i) (hs : isSkippable line = false)
    (hc : Statement.classify line.trim ≠ .structural) :
    itemsUpTo stop i (line :: rest) = ⟨i + 1, Statement.classify line.trim⟩ ::
      itemsUpTo stop (i + 1 + (next i line rest (Statement.classify line.trim) - (i + 1)))
        (rest.drop (next i line rest (Statement.classify line.trim) - (i + 1))) := by
  rw [itemsUpTo, if_neg hstop, if_neg (by simp [hs])]
  split
  · contradiction
  · rfl

theorem itemsUpTo_matter (h : Ranking f i lines) :
    itemsUpTo (f stop) (f i) (matter lines) =
      (itemsUpTo stop i lines).map (·.renumber (ordinal f)) := by
  fun_induction itemsUpTo stop i lines with
  | case1 => rw [matter_nil, itemsUpTo, List.map_nil]
  | case2 i line rest hstop =>
    -- The matter may be used up or not, but the line is not before `stop` in either.
    have hle := h.mono stop i hstop
    cases hm : matter (line :: rest) with
    | nil => rw [itemsUpTo, List.map_nil]
    | cons first others => rw [itemsUpTo, if_pos hle, List.map_nil]
  | case3 i line rest hstop hs ih =>
    rw [matter_cons_skippable hs, ← h.succ_of_skippable hs, ih h.tail]
  | case4 i line rest hstop hs hc ih =>
    have hs' : isSkippable line = false := by simpa using hs
    have hsucc := h.succ hs'
    have hlt : ¬ f stop ≤ f i := by
      have hmono := h.mono (i + 1) stop (by omega)
      omega
    rw [matter_cons hs', itemsUpTo, if_neg hlt, isSkippable_trim, if_neg hs, trim_trim, hc,
      ← hsucc, ih h.tail]
  | case5 i line rest hstop hs hc skipped ih =>
    have hs' : isSkippable line = false := by simpa using hs
    have hsucc := h.succ hs'
    have hlt : ¬ f stop ≤ f i := by
      have hmono := h.mono (i + 1) stop (by omega)
      omega
    -- The matter is stepped over by as many lines as the ranking counts.
    have hskip : next (f i) line.trim (matter rest) (Statement.classify line.trim) -
        (f i + 1) = f (i + 1 + skipped) - f (i + 1) := by
      rw [next_matter h hs', ← hsucc, skip_matter h.tail]
    have hle := h.mono (i + 1) (i + 1 + skipped) (Nat.le_add_right _ _)
    have hc' : Statement.classify line.trim.trim ≠ .structural := by rwa [trim_trim]
    rw [matter_cons hs', itemsUpTo_cons hlt (by rwa [isSkippable_trim]) hc', trim_trim, hskip,
      h.tail.drop_matter, ← hsucc, Nat.add_sub_cancel' hle, ih (h.tail.drop skipped), hsucc,
      List.map_cons]
    rfl

/-- The statement of an inline region has the number of its line. -/
theorem itemsUpTo_singleton (f : Nat → Nat) (i : Nat) (body : Text) :
    itemsUpTo (f i + 1) (f i) [body] =
      (itemsUpTo (i + 1) i [body]).map (·.renumber (ordinal f)) := by
  have hlt : ∀ n : Nat, ¬ n + 1 ≤ n := Nat.not_succ_le_self
  cases hs : isSkippable body with
  | true => simp [itemsUpTo, hs]
  | false =>
    by_cases hc : Statement.classify body.trim = .structural
    · simp [itemsUpTo, hs, hc]
    · rw [itemsUpTo_cons (hlt _) hs hc, itemsUpTo_cons (hlt _) hs hc, List.drop_nil, List.drop_nil,
        itemsUpTo, itemsUpTo]
      rfl

/-- The statements of a region's body are those of the matter, but for the numbers of lines. -/
theorem regionItems_matter {start stop : Nat} {region : Region}
    (hp : region.Placed lines start stop) :
    regionItems (rank lines start) (matter (lines.drop start)) (region.renumber (rank lines)) =
      (regionItems start (lines.drop start) region).map (·.renumber (ordinal (rank lines))) := by
  have hbehind : (lines.drop start).drop (region.start - start) = lines.drop region.start := by
    rw [List.drop_drop, Nat.add_sub_cancel' hp.start_le]
  have hmatter : (matter (lines.drop start)).drop (rank lines region.start - rank lines start) =
      matter (lines.drop region.start) := by
    have hdrop := (ranking_drop lines start).drop_matter (region.start - start)
    rwa [Nat.add_sub_cancel' hp.start_le, hbehind] at hdrop
  simp only [regionItems, Region.renumber, hbehind, hmatter]
  by_cases hinline : region.inline = true
  · obtain ⟨hstop, line, o, hline, ho⟩ := hp.opener hinline
    have hs := isSkippable_of_read? ho
    obtain ⟨hlt, heq⟩ := List.getElem?_eq_some_iff.mp hline
    have hdrop : lines.drop region.start = line :: lines.drop (region.start + 1) := by
      rw [List.drop_eq_getElem_cons hlt, heq]
    have hrank := ranking_drop lines region.start
    rw [hdrop] at hrank
    rw [if_pos hinline, if_pos hinline, hdrop, matter_cons hs, List.head?_cons, List.head?_cons,
      Option.bind_some, Option.bind_some, inlineBody?_trim, hstop, hrank.succ hs]
    cases inlineBody? line with
    | none => rfl
    | some body => exact itemsUpTo_singleton (rank lines) region.start body
  · rw [if_neg hinline, if_neg hinline]
    exact itemsUpTo_matter (ranking_drop lines region.start)

/-! ## Steps -/

/-- A construct as a step of the matter. -/
theorem attemptOf_matter (hi : i < lines.length) :
    attemptOf (rank lines i) (matter (lines.drop i))
        ((Construct.scan lines i).renumber (rank lines)) =
      (attemptOf i (lines.drop i) (Construct.scan lines i)).renumber (ordinal (rank lines)) := by
  obtain ⟨hscanned, _, _⟩ := Construct.complete_scan hi
  have hregion : ∀ region ∈ (Construct.scan lines i).regions,
      regionItems (rank lines i) (matter (lines.drop i)) (region.renumber (rank lines)) =
        (regionItems i (lines.drop i) region).map (·.renumber (ordinal (rank lines))) :=
    fun region hr => regionItems_matter (hscanned.placed region hr)
  generalize Construct.scan lines i = c at hregion
  have hnested : (c.nestedTry.map (rank lines)).map (· + 1) =
      (c.nestedTry.map (· + 1)).map (ordinal (rank lines)) := by
    cases c.nestedTry <;> rfl
  have hbody := hregion c.tryRegion (by simp [Construct.regions])
  have hhandler : (c.catchRegion.map (·.renumber (rank lines))).map
      (regionItems (rank lines i) (matter (lines.drop i))) =
      (c.catchRegion.map (regionItems i (lines.drop i))).map
        (·.map (·.renumber (ordinal (rank lines)))) := by
    cases hr : c.catchRegion with
    | none => rfl
    | some region => exact congrArg some (hregion region (by simp [Construct.regions, hr]))
  have hcleanup : (c.finallyRegion.map (·.renumber (rank lines))).map
      (regionItems (rank lines i) (matter (lines.drop i))) =
      (c.finallyRegion.map (regionItems i (lines.drop i))).map
        (·.map (·.renumber (ordinal (rank lines)))) := by
    cases hr : c.finallyRegion with
    | none => rfl
    | some region => exact congrArg some (hregion region (by simp [Construct.regions, hr]))
  simp only [attemptOf, Attempt.renumber, Construct.renumber, hnested, hbody, hhandler, hcleanup,
    ordinal_succ]

theorem stepAt_matter (hdrop : lines.drop i = line :: rest) (hs : isSkippable line = false) :
    stepAt (rank lines i) line.trim (matter rest) =
      (stepAt i line rest).renumber (ordinal (rank lines)) := by
  have hrank := ranking_drop lines i
  rw [hdrop] at hrank
  obtain ⟨hi, hscan⟩ := Construct.scan_of_drop hdrop
  have hattempt := attemptOf_matter hi
  rw [hscan, hdrop, matter_cons hs, ← Construct.scanFrom_matter hrank hs] at hattempt
  unfold stepAt
  rw [trim_trim]
  split
  · rw [hattempt]
    rfl
  · rfl

theorem readFrom_matter (lines : List Text) (i : Nat) :
    readFrom (rank lines i) (matter (lines.drop i)) =
      (readFrom i (lines.drop i)).map (·.renumber (ordinal (rank lines))) := by
  have hrank := ranking_drop lines i
  generalize hdrop : lines.drop i = behind at hrank ⊢
  fun_induction readFrom i behind with
  | case1 => rw [matter_nil, readFrom, List.map_nil]
  | case2 i line rest hs ih =>
    rw [matter_cons_skippable hs, ← hrank.succ_of_skippable hs,
      ih (drop_of_drop_eq_cons hdrop 0) hrank.tail]
  | case3 i line rest hs hc ih =>
    have hs' : isSkippable line = false := by simpa using hs
    rw [matter_cons hs', readFrom, isSkippable_trim, if_neg hs, trim_trim, hc, ← hrank.succ hs',
      ih (drop_of_drop_eq_cons hdrop 0) hrank.tail]
  | case4 i line rest hs hc skipped step ih =>
    have hs' : isSkippable line = false := by simpa using hs
    have hsucc := hrank.succ hs'
    have htail := drop_of_drop_eq_cons hdrop skipped
    -- The matter is stepped over by as many lines as the ranking counts.
    have hskip : next (rank lines i) line.trim (matter rest) (Statement.classify line.trim) -
        (rank lines i + 1) = rank lines (i + 1 + skipped) - rank lines (i + 1) := by
      rw [next_matter hrank hs', ← hsucc, skip_matter hrank.tail]
    have hle := hrank.mono (i + 1) (i + 1 + skipped) (Nat.le_add_right _ _)
    have hc' : Statement.classify line.trim.trim ≠ .structural := by rwa [trim_trim]
    rw [matter_cons hs', readFrom_cons (by rwa [isSkippable_trim]) hc', trim_trim, hskip,
      hrank.tail.drop_matter, ← hsucc, Nat.add_sub_cancel' hle, ih htail (hrank.tail.drop skipped),
      stepAt_matter hdrop hs', List.map_cons]
    rfl

/-- The steps of a text are those of its matter, but for the numbers of the lines. -/
theorem read_matter (lines : List Text) :
    read (matter lines) = (read lines).map (·.renumber (ordinal (rank lines))) :=
  readFrom_matter lines 0

end Program

end LineScript
