import LineScript.Proofs.Block.Order
import LineScript.Proofs.Program.Append

/-! Reading by the numbers of lines. Here a program is read by asking for one line after the other by
its number: reading comes to nothing if a line is asked for that is not there, or if a statement does
not lead on to a later line. Neither ever happens, and what is read is the outline of the program
(`readNumbered_eq`), since a construct and its regions lie within the lines (`scan_bounds`). -/

namespace LineScript.Program

open Text

/-! ## Reading line by line -/

/-- Where a statement on the line numbered `i` leads. -/
def leadsTo (lines : List Text) (i : Nat) : Statement → Nat
  | .tryOpener => (Construct.scan lines i).resumeAt
  | .declaration .. => bodyEnd lines i
  | .orphan _ => bodyEnd lines i
  | _ => i + 1

/-- What `visit` makes of the statements from the line numbered `i` up to the line `stop`. -/
def walk {α : Type} (lines : List Text) (visit : Nat → Statement → Option α) (stop i : Nat) :
    Option (List α) :=
  if i < stop then
    match lines[i]? with
    | none => none
    | some line =>
      if isSkippable line then walk lines visit stop (i + 1)
      else
        match Statement.classify line.trim with
        | .structural => walk lines visit stop (i + 1)
        | statement =>
          if i < leadsTo lines i statement then do
            let first ← visit i statement
            let others ← walk lines visit stop (leadsTo lines i statement)
            return first :: others
          else none
  else some []
termination_by stop - i

/-- The statements from the line numbered `i` up to the line `stop`. -/
def itemsNumbered (lines : List Text) (stop i : Nat) : Option (List Item) :=
  walk lines (fun i statement => some ⟨i + 1, statement⟩) stop i

/-- The statements of a region's body. The body of an inline region is put in the place of its line. -/
def regionNumbered (lines : List Text) (region : Region) : Option (List Item) :=
  if region.inline then
    lines[region.start]?.bind fun line =>
      match inlineBody? line with
      | some body => itemsNumbered (lines.set region.start body) region.stop region.start
      | none => some []
  else itemsNumbered lines region.stop region.start

/-- The step that the construct at the line numbered `i` is. -/
def attemptNumbered (lines : List Text) (i : Nat) : Option Attempt := do
  let c := Construct.scan lines i
  let body ← regionNumbered lines c.tryRegion
  let handler ← c.catchRegion.mapM (regionNumbered lines)
  let cleanup ← c.finallyRegion.mapM (regionNumbered lines)
  return ⟨i + 1, c.nestedTry.map (· + 1), body, c.binding, handler, cleanup⟩

/-- The step that a statement on the line numbered `i` is. -/
def stepNumbered (lines : List Text) (i : Nat) : Statement → Option Step
  | .tryOpener => (attemptNumbered lines i).map .attempt
  | statement => some (.item ⟨i + 1, statement⟩)

/-- The steps from the line numbered `i` on. -/
def readNumbered (lines : List Text) (i : Nat) : Option (List Step) :=
  walk lines (stepNumbered lines) lines.length i

/-! ## Nothing is missing -/

variable {lines rest : List Text} {i stop : Nat} {line : Text}

theorem itemsUpTo_one (i : Nat) (body : Text) (rest : List Text) :
    itemsUpTo (i + 1) i (body :: rest) = itemsUpTo (i + 1) i [body] := by
  cases hs : isSkippable body with
  | true => simp only [itemsUpTo, hs, ↓reduceIte, itemsUpTo_of_le (Nat.le_refl _)]
  | false =>
    by_cases hc : Statement.classify body.trim = .structural
    · simp only [itemsUpTo, hs, hc, itemsUpTo_of_le (Nat.le_refl _)]
    · rw [itemsUpTo_cons (Nat.not_succ_le_self i) hs hc, itemsUpTo_cons (Nat.not_succ_le_self i) hs hc,
        itemsUpTo_of_le (Nat.le_add_right _ _), itemsUpTo_of_le (Nat.le_add_right _ _)]

theorem leadsTo_eq_next (h : lines.drop i = line :: rest) (statement : Statement) :
    leadsTo lines i statement = next i line rest statement := by
  obtain ⟨_, hscan⟩ := Construct.scan_of_drop h
  have hbody : bodyEnd lines i = bodyEndAfter i line rest := by rw [bodyEnd, h]
  cases statement with
  | tryOpener => exact congrArg Construct.resumeAt hscan
  | declaration => exact hbody
  | orphan => exact hbody
  | _ => rfl

/-- A statement leads on, and not beyond the end of the lines. -/
theorem leadsTo_bounds (h : i < lines.length) (statement : Statement) :
    i < leadsTo lines i statement ∧ leadsTo lines i statement ≤ lines.length := by
  have hdrop := List.drop_eq_getElem_cons h
  rw [leadsTo_eq_next hdrop]
  have hcut := (nextBeforeCut hdrop [] statement).le_length
  exact ⟨lt_next i _ _ statement, hcut⟩

/-- The way from a statement on to where it leads, in the lines and in what is left of them. -/
theorem drop_leadsTo (h : lines.drop i = line :: rest) (statement : Statement) :
    i + 1 + (next i line rest statement - (i + 1)) = leadsTo lines i statement ∧
      rest.drop (next i line rest statement - (i + 1)) =
        lines.drop (leadsTo lines i statement) := by
  have hlt := lt_next i line rest statement
  have hnumber : i + 1 + (next i line rest statement - (i + 1)) = leadsTo lines i statement := by
    rw [leadsTo_eq_next h]
    omega
  exact ⟨hnumber, by rw [← hnumber, drop_of_drop_eq_cons h]⟩

theorem getElem?_of_drop (h : lines.drop i = line :: rest) : lines[i]? = some line := by
  rw [← List.head?_drop, h, List.head?_cons]

section

variable {α : Type} {visit : Nat → Statement → Option α}

theorem walk_of_le (h : stop ≤ i) : walk lines visit stop i = some [] := by
  rw [walk, if_neg (Nat.not_lt.mpr h)]

theorem walk_skip (hi : i < stop) (hdrop : lines.drop i = line :: rest)
    (hs : isSkippable line = true ∨ Statement.classify line.trim = .structural) :
    walk lines visit stop i = walk lines visit stop (i + 1) := by
  rw [walk, if_pos hi, getElem?_of_drop hdrop]
  rcases hs with hs | hs
  · simp only [hs, ↓reduceIte]
  · simp only [hs, ite_self]

theorem walk_visit (hi : i < stop) (hdrop : lines.drop i = line :: rest)
    (hs : isSkippable line = false) (hc : Statement.classify line.trim ≠ .structural) :
    walk lines visit stop i = do
      let first ← visit i (Statement.classify line.trim)
      let others ← walk lines visit stop (leadsTo lines i (Statement.classify line.trim))
      return first :: others := by
  have hlt : i < leadsTo lines i (Statement.classify line.trim) := by
    rw [leadsTo_eq_next hdrop]
    exact lt_next i line rest _
  rw [walk, if_pos hi, getElem?_of_drop hdrop]
  simp only [hs, Bool.false_eq_true, ↓reduceIte, hlt]

end

/-- Up to a line that is there at the most, no line is missing. -/
theorem itemsNumbered_eq (hstop : stop ≤ lines.length) :
    itemsNumbered lines stop i = some (itemsUpTo stop i (lines.drop i)) := by
  unfold itemsNumbered
  generalize hdrop : lines.drop i = behind
  fun_induction itemsUpTo stop i behind with
  | case1 i => exact walk_of_le (Nat.le_trans hstop (List.drop_eq_nil_iff.mp hdrop))
  | case2 i line rest hle => exact walk_of_le hle
  | case3 i line rest hlt hs ih =>
    rw [walk_skip (Nat.lt_of_not_le hlt) hdrop (Or.inl hs)]
    exact ih (drop_of_drop_eq_cons hdrop 0)
  | case4 i line rest hlt hs hc ih =>
    rw [walk_skip (Nat.lt_of_not_le hlt) hdrop (Or.inr hc)]
    exact ih (drop_of_drop_eq_cons hdrop 0)
  | case5 i line rest hlt hs hc skipped ih =>
    obtain ⟨hnumber, hbehind⟩ := drop_leadsTo hdrop (Statement.classify line.trim)
    have hrest := ih (drop_of_drop_eq_cons hdrop skipped)
    rw [hnumber] at hrest
    rw [walk_visit (Nat.lt_of_not_le hlt) hdrop (by simpa using hs) hc, hrest, hnumber]
    rfl

/-- A region that lies within the lines is read as a whole. -/
theorem regionNumbered_eq {start : Nat} {region : Region} (hp : region.Placed lines start stop)
    (hstop : stop ≤ lines.length) :
    regionNumbered lines region = some (regionItems start (lines.drop start) region) := by
  have hbehind : (lines.drop start).drop (region.start - start) = lines.drop region.start := by
    rw [List.drop_drop, Nat.add_sub_cancel' hp.start_le]
  simp only [regionNumbered, regionItems, hbehind]
  cases hinline : region.inline with
  | false =>
    simp only [Bool.false_eq_true, ↓reduceIte]
    exact itemsNumbered_eq (Nat.le_trans hp.stop_le hstop)
  | true =>
    obtain ⟨hone, line, o, hline, _⟩ := hp.opener hinline
    obtain ⟨hlt, _⟩ := List.getElem?_eq_some_iff.mp hline
    simp only [↓reduceIte, hline, List.head?_drop, Option.bind_some]
    cases inlineBody? line with
    | none => rfl
    | some body =>
      have hset : (lines.set region.start body).drop region.start =
          body :: lines.drop (region.start + 1) := by
        rw [List.drop_set, if_neg (Nat.lt_irrefl _), Nat.sub_self, List.drop_eq_getElem_cons hlt,
          List.set_cons_zero]
      have hlength : region.start + 1 ≤ (lines.set region.start body).length := by
        rwa [List.length_set]
      simp only [hone]
      rw [itemsNumbered_eq hlength, hset, itemsUpTo_one]

/-- The statements of a construct are those of the lines of its regions. -/
theorem attemptAt_regions (h : i < lines.length) :
    let c := Construct.scan lines i
    let a := attemptAt lines i
    regionNumbered lines c.tryRegion = some a.body ∧
      c.catchRegion.mapM (regionNumbered lines) = some a.handler ∧
      c.finallyRegion.mapM (regionNumbered lines) = some a.cleanup ∧
      a.binding = c.binding := by
  intro c a
  obtain ⟨hscanned, _, hhigh⟩ := Construct.complete_scan h
  have hregion : ∀ kind region, c.region? kind = some region →
      regionNumbered lines region = some (regionItems i (lines.drop i) region) := fun _ _ hr =>
    regionNumbered_eq (hscanned.placed _ (Construct.mem_regions_iff.mpr ⟨_, hr⟩)) hhigh
  have hbranch : ∀ kind, (c.region? kind).mapM (regionNumbered lines) =
      some ((c.region? kind).map (regionItems i (lines.drop i))) := by
    intro kind
    cases hr : c.region? kind with
    | none => rfl
    | some region => simp [hregion kind region hr]
  exact ⟨hregion .tryBlock _ rfl, hbranch .catchBlock, hbranch .finallyBlock, rfl⟩

theorem attemptNumbered_eq (h : i < lines.length) :
    attemptNumbered lines i = some (attemptAt lines i) := by
  obtain ⟨hbody, hhandler, hcleanup, hbinding⟩ := attemptAt_regions h
  simp only [attemptNumbered, hbody, hhandler, hcleanup, ← hbinding]
  rfl

/-- The line that a step is read from is there, and so are the lines of its regions. -/
theorem stepNumbered_eq (hdrop : lines.drop i = line :: rest) :
    stepNumbered lines i (Statement.classify line.trim) = some (stepAt i line rest) := by
  obtain ⟨hi, hscan⟩ := Construct.scan_of_drop hdrop
  unfold stepNumbered stepAt
  cases Statement.classify line.trim with
  | tryOpener =>
    simp only [attemptNumbered_eq hi, Option.map_some, attemptAt, hdrop, hscan]
  | _ => rfl

/-- No line is missing, and every step leads on: what is read by numbers is the outline. -/
theorem readNumbered_eq (lines : List Text) (i : Nat) :
    readNumbered lines i = some (readFrom i (lines.drop i)) := by
  unfold readNumbered
  generalize hdrop : lines.drop i = behind
  fun_induction readFrom i behind with
  | case1 i => exact walk_of_le (List.drop_eq_nil_iff.mp hdrop)
  | case2 i line rest hs ih =>
    rw [walk_skip (Construct.scan_of_drop hdrop).1 hdrop (Or.inl hs)]
    exact ih (drop_of_drop_eq_cons hdrop 0)
  | case3 i line rest hs hc ih =>
    rw [walk_skip (Construct.scan_of_drop hdrop).1 hdrop (Or.inr hc)]
    exact ih (drop_of_drop_eq_cons hdrop 0)
  | case4 i line rest hs hc skipped step ih =>
    obtain ⟨hnumber, hbehind⟩ := drop_leadsTo hdrop (Statement.classify line.trim)
    have hrest := ih (drop_of_drop_eq_cons hdrop skipped)
    rw [hnumber] at hrest
    rw [walk_visit (Construct.scan_of_drop hdrop).1 hdrop (by simpa using hs) hc, hrest, hnumber,
      stepNumbered_eq hdrop]
    rfl

/-- A construct ends behind the line of its `try` and within the lines. Its regions, each of the kind of
its place, lie between and follow each other; an inline region is one line, and any other begins behind
the line of the `try`. So reading a region, and reading on from any line, asks for no line that is not
there and always comes to a later one. -/
theorem scan_bounds {start : Nat} (h : start < lines.length) :
    let c := Construct.scan lines start
    (start < c.resumeAt ∧ c.resumeAt ≤ lines.length) ∧
    (∀ kind region, c.region? kind = some region → region.kind = kind) ∧
    (∀ region ∈ c.regions, start ≤ region.start ∧ region.start ≤ region.stop ∧
      region.stop ≤ c.resumeAt ∧
      if region.inline then region.stop = region.start + 1 else start < region.start) ∧
    c.regions.Pairwise (fun region region' => region.stop ≤ region'.start) ∧
    (∀ k, c.nestedTry = some k → start ≤ k ∧ k < c.resumeAt) ∧
    (∀ i statement, i < lines.length →
      i < leadsTo lines i statement ∧ leadsTo lines i statement ≤ lines.length) ∧
    (∀ region ∈ c.regions,
      regionNumbered lines region = some (regionItems start (lines.drop start) region)) ∧
    (∀ i, readNumbered lines i = some (readFrom i (lines.drop i))) := by
  intro c
  obtain ⟨hscanned, hlow, hhigh⟩ := Construct.complete_scan h
  obtain ⟨last, bound, horder⟩ := Construct.inOrder_scan h
  refine ⟨⟨hlow, hhigh⟩, fun _ _ hr => horder.kind_eq hr, ?_, horder.pairwise, ?_,
    fun _ statement hi => leadsTo_bounds hi statement, ?_, readNumbered_eq lines⟩
  · intro region hr
    have hp := hscanned.placed region hr
    refine ⟨hp.start_le, hp.start_le_stop, hp.stop_le, ?_⟩
    split
    · next hinline => exact (hp.opener hinline).1
    · next hinline =>
      obtain ⟨kind, hkind⟩ := Construct.mem_regions_iff.mp hr
      exact horder.start_lt hkind (by simpa using hinline)
  · intro k hk
    obtain ⟨hlow', hhigh', _⟩ := hscanned.nested k hk
    exact ⟨hlow', hhigh'⟩
  · intro region hr
    exact regionNumbered_eq (hscanned.placed region hr) hhigh

/-- A handler on the line that closes the body, and a cleanup whose braces are never closed. -/
theorem scan_bounds_unterminated :
    let lines := ["try \x7b".toList, "a()".toList, "\x7d catch \x7b b() \x7d".toList, "#".toList,
      "finally \x7b".toList, "c()".toList]
    let c := Construct.scan lines 0
    0 < lines.length ∧ c.regions = [⟨.tryBlock, 1, 2, false⟩, ⟨.catchBlock, 2, 3, true⟩,
        ⟨.finallyBlock, 5, 6, false⟩] ∧
      c.resumeAt ≤ lines.length ∧
      c.regions.Pairwise (fun region region' => region.stop ≤ region'.start) ∧
      readNumbered lines 0 = some (read lines) := by
  intro lines c
  have hpos : 0 < lines.length := by decide
  obtain ⟨⟨_, hhigh⟩, _, _, hpairwise, _, _, _, hread⟩ := scan_bounds hpos
  exact ⟨hpos, by decide, hhigh, hpairwise, hread 0⟩

end LineScript.Program
