import LineScript.Proofs.Program.Numbered

/-! The order of the numbers in an outline. The statements of a region come from line after line, the
regions of a construct follow each other, and each step ends before the next one begins. So the numbers
grow from step to step (`pairwise_read`), and in a construct from statement to statement
(`pairwise_items`). What the lines can be dispatched as is in their order too, and the one line that can
come twice is that of a `try` with an inline body (`pairwise_dispatches`). -/

namespace LineScript

/-- The statements of a construct, in the order of its regions. -/
def Attempt.items (a : Attempt) : List Item :=
  a.body ++ a.handler.getD [] ++ a.cleanup.getD []

theorem Attempt.mem_numbers {a : Attempt} {n : Nat} :
    n ∈ a.numbers ↔ n = a.line ∨ a.nestedTry = some n ∨ ∃ i ∈ a.items, i.line = n := by
  simp only [numbers, items, List.mem_cons, List.mem_append, List.mem_map, Option.mem_toList,
    or_assoc, or_and_right, exists_or]

namespace Program

variable {lines rest : List Text} {i stop : Nat} {line : Text}

/-! ## A region -/

theorem line_of_mem_itemsUpTo {lines : List Text} {item : Item}
    (h : item ∈ itemsUpTo stop i lines) : i < item.line ∧ item.line ≤ stop := by
  obtain ⟨k, line, _, hk, _, rfl⟩ := mem_itemsUpTo h
  exact ⟨by simp only; omega, by simp only; omega⟩

theorem pairwise_itemsUpTo (stop i : Nat) (lines : List Text) :
    (itemsUpTo stop i lines).Pairwise (·.line < ·.line) := by
  fun_induction itemsUpTo stop i lines with
  | case1 => exact .nil
  | case2 => exact .nil
  | case3 _ _ _ _ _ ih => exact ih
  | case4 _ _ _ _ _ _ ih => exact ih
  | case5 i line rest hstop hs hc skipped ih =>
    refine .cons (fun item hitem => ?_) ih
    have hlow := (line_of_mem_itemsUpTo hitem).1
    simp only
    omega

theorem line_of_mem_regionItems {start : Nat} {region : Region} {item : Item}
    (hp : region.Placed lines start stop)
    (h : item ∈ regionItems start (lines.drop start) region) :
    region.start < item.line ∧ item.line ≤ region.stop := by
  obtain ⟨k, t, ht, _, rfl⟩ := mem_regionItems hp h
  simp only [Region.Holds] at ht
  split at ht
  · next hinline =>
    obtain ⟨hone, _⟩ := hp.opener hinline
    exact ⟨by simp only; omega, by simp only; omega⟩
  · exact ⟨by simp only; omega, by simp only; omega⟩

theorem pairwise_regionItems (i : Nat) (lines : List Text) (region : Region) :
    (regionItems i lines region).Pairwise (·.line < ·.line) := by
  unfold regionItems
  simp only
  split
  · split
    · exact pairwise_itemsUpTo _ _ _
    · exact .nil
  · exact pairwise_itemsUpTo _ _ _

/-! ## A construct -/

theorem items_attemptAt (lines : List Text) (i : Nat) :
    (attemptAt lines i).items =
      (Construct.scan lines i).regions.flatMap (regionItems i (lines.drop i)) := by
  simp only [attemptAt, attemptOf, Attempt.items, Construct.regions]
  cases (Construct.scan lines i).catchRegion <;> cases (Construct.scan lines i).finallyRegion <;>
    simp

/-- The statements of a construct come from line after line. -/
theorem pairwise_items (hi : i < lines.length) :
    (attemptAt lines i).items.Pairwise (·.line < ·.line) := by
  obtain ⟨hscanned, _, _⟩ := Construct.complete_scan hi
  obtain ⟨_, _, horder⟩ := Construct.inOrder_scan hi
  rw [items_attemptAt, List.pairwise_flatMap]
  refine ⟨fun region _ => pairwise_regionItems _ _ _, ?_⟩
  refine horder.pairwise.imp_of_mem fun hr hr' hle item hitem item' hitem' => ?_
  have hhigh := (line_of_mem_regionItems (hscanned.placed _ hr) hitem).2
  have hlow := (line_of_mem_regionItems (hscanned.placed _ hr') hitem').1
  omega

/-- A statement on the line of the `try` is the inline body. -/
theorem inline_of_line_eq (hi : i < lines.length) {item : Item}
    (h : item ∈ (attemptAt lines i).items) (hline : item.line = i + 1) :
    (Construct.scan lines i).tryRegion.inline = true := by
  obtain ⟨hscanned, _, _⟩ := Construct.complete_scan hi
  obtain ⟨_, _, horder⟩ := Construct.inOrder_scan hi
  rw [items_attemptAt] at h
  obtain ⟨region, hr, hitem⟩ := List.mem_flatMap.mp h
  have hlow := (line_of_mem_regionItems (hscanned.placed region hr) hitem).1
  have htry : (Construct.scan lines i).region? .tryBlock = some _ := rfl
  have hstop := (hscanned.placed _ (Construct.mem_regions_iff.mpr ⟨_, htry⟩)).start_le_stop
  rw [← Bool.not_eq_false]
  intro hopen
  -- The body begins behind the line of the `try`, and so do the regions that follow it.
  have hstart := horder.start_lt htry hopen
  have hpairwise := horder.pairwise
  rw [Construct.regions, List.cons_append, List.pairwise_cons] at hpairwise
  rw [Construct.regions, List.cons_append, List.mem_cons] at hr
  rcases hr with rfl | hr
  · omega
  · have hbehind := hpairwise.1 region hr
    omega

/-- The numbers of a construct are those of lines from its `try` up to where reading goes on. -/
theorem numbers_attemptAt (hi : i < lines.length) {n : Nat} (h : n ∈ (attemptAt lines i).numbers) :
    i < n ∧ n ≤ (Construct.scan lines i).resumeAt := by
  obtain ⟨hscanned, hlow, _⟩ := Construct.complete_scan hi
  rw [Attempt.mem_numbers] at h
  rcases h with rfl | hn | ⟨item, hitem, rfl⟩
  · exact ⟨Nat.lt_succ_self i, hlow⟩
  · obtain ⟨k, hk, rfl⟩ : ∃ k, (Construct.scan lines i).nestedTry = some k ∧ k + 1 = n := by
      simpa [attemptAt, attemptOf] using hn
    obtain ⟨hk₁, hk₂, _⟩ := hscanned.nested k hk
    omega
  · rw [items_attemptAt] at hitem
    obtain ⟨region, hr, hitem⟩ := List.mem_flatMap.mp hitem
    have hp := hscanned.placed region hr
    obtain ⟨h₁, h₂⟩ := line_of_mem_regionItems hp hitem
    have := hp.start_le
    have := hp.stop_le
    omega

/-! ## Steps -/

theorem stepAt_eq (hdrop : lines.drop i = line :: rest) :
    stepAt i line rest = .item ⟨i + 1, Statement.classify line.trim⟩ ∨
      stepAt i line rest = .attempt (attemptAt lines i) ∧
        Statement.classify line.trim = .tryOpener := by
  obtain ⟨_, hscan⟩ := Construct.scan_of_drop hdrop
  unfold stepAt
  split
  · next hc => exact Or.inr ⟨by rw [attemptAt, hdrop, hscan], hc⟩
  · exact Or.inl rfl

/-- The numbers of a step are those of lines up to where reading goes on. -/
theorem numbers_stepAt (hdrop : lines.drop i = line :: rest) {n : Nat}
    (h : n ∈ (stepAt i line rest).numbers) :
    i < n ∧ n ≤ leadsTo lines i (Statement.classify line.trim) := by
  obtain ⟨hi, _⟩ := Construct.scan_of_drop hdrop
  obtain ⟨hlow, _⟩ := leadsTo_bounds hi (Statement.classify line.trim)
  rcases stepAt_eq hdrop with heq | ⟨heq, hc⟩
  · rw [heq] at h
    obtain rfl : n = i + 1 := by simpa [Step.numbers] using h
    exact ⟨Nat.lt_succ_self i, hlow⟩
  · rw [heq] at h
    rw [hc]
    exact numbers_attemptAt hi h

theorem lt_of_mem_readFrom {step : Step} {n : Nat} (h : step ∈ readFrom i (lines.drop i))
    (hn : n ∈ step.numbers) : i < n := by
  generalize hdrop : lines.drop i = behind at h
  fun_induction readFrom i behind with
  | case1 => simp at h
  | case2 i line rest hs ih => exact Nat.lt_of_succ_lt (ih (drop_of_drop_eq_cons hdrop 0) h)
  | case3 i line rest hs hc ih => exact Nat.lt_of_succ_lt (ih (drop_of_drop_eq_cons hdrop 0) h)
  | case4 i line rest hs hc skipped step' ih =>
    rcases List.mem_cons.mp h with rfl | h
    · exact (numbers_stepAt hdrop hn).1
    · have := ih (drop_of_drop_eq_cons hdrop skipped) h
      omega

/-- The numbers grow from step to step. -/
theorem pairwise_readFrom (lines : List Text) (i : Nat) :
    (readFrom i (lines.drop i)).Pairwise fun step step' =>
      ∀ n ∈ step.numbers, ∀ n' ∈ step'.numbers, n < n' := by
  generalize hdrop : lines.drop i = behind
  fun_induction readFrom i behind with
  | case1 i => exact .nil
  | case2 i line rest hs ih => exact ih (drop_of_drop_eq_cons hdrop 0)
  | case3 i line rest hs hc ih => exact ih (drop_of_drop_eq_cons hdrop 0)
  | case4 i line rest hs hc skipped step ih =>
    obtain ⟨hnumber, hbehind⟩ := drop_leadsTo hdrop (Statement.classify line.trim)
    refine .cons (fun step' hstep' n hn n' hn' => ?_) (ih (drop_of_drop_eq_cons hdrop skipped))
    have hhigh := (numbers_stepAt hdrop hn).2
    rw [hnumber, hbehind] at hstep'
    exact Nat.lt_of_le_of_lt hhigh (lt_of_mem_readFrom hstep' hn')

theorem pairwise_read (lines : List Text) :
    (read lines).Pairwise fun step step' =>
      ∀ n ∈ step.numbers, ∀ n' ∈ step'.numbers, n < n' :=
  pairwise_readFrom lines 0

end Program

/-! ## Dispatches -/

/-- What a line is dispatched as. -/
inductive Dispatch where
  /-- A try construct, by the number of its first line. -/
  | construct (line : Nat)
  | statement (i : Item)
deriving DecidableEq

namespace Dispatch

/-- The number of the line. -/
def line : Dispatch → Nat
  | construct line => line
  | statement i => i.line

/-- The line is there and says what it is dispatched as. The statement of an inline body is what stands
between the braces of the line. -/
def Says (lines : List Text) : Dispatch → Prop
  | construct line => ∃ k t, line = k + 1 ∧ lines[k]? = some t ∧
      Statement.classify t.trim = .tryOpener
  | statement i => ∃ k t, i.line = k + 1 ∧ lines[k]? = some t ∧
      (i.statement = Statement.classify t.trim ∨
        ∃ body, inlineBody? t = some body ∧ i.statement = Statement.classify body.trim)

/-- One dispatch comes before another: on an earlier line, or as the construct that has the other as its
inline body. -/
inductive Before (lines : List Text) : Dispatch → Dispatch → Prop where
  | line {d d' : Dispatch} (h : d.line < d'.line) : Before lines d d'
  | inline {k : Nat} {i : Item} (hi : i.line = k + 1)
      (h : (Construct.scan lines k).tryRegion.inline = true) :
      Before lines (construct (k + 1)) (statement i)

/-- What the line with the number `n` is dispatched as in a run: nothing or one thing, or first the
construct that begins on it and then the statement of its inline body. -/
inductive Once (lines : List Text) (n : Nat) : List Dispatch → Prop where
  | none : Once lines n []
  | one (d : Dispatch) : Once lines n [d]
  | inline {k : Nat} (i : Item) (hn : n = k + 1)
      (h : (Construct.scan lines k).tryRegion.inline = true) :
      Once lines n [construct n, statement i]

/-- Of dispatches that come line after line, each line has its own. -/
theorem once_of_pairwise {lines : List Text} {ds : List Dispatch}
    (h : ds.Pairwise (Before lines)) (n : Nat) : Once lines n (ds.filter (·.line = n)) := by
  have hpair := h.filter (·.line = n)
  have hline : ∀ d ∈ ds.filter (·.line = n), d.line = n := by
    intro d hd
    simpa using (List.mem_filter.mp hd).2
  generalize ds.filter (·.line = n) = same at hpair hline
  cases same with
  | nil => exact .none
  | cons d rest =>
    cases rest with
    | nil => exact .one d
    | cons d' rest =>
      have hd := hline d (by simp)
      have hd' := hline d' (by simp)
      rw [List.pairwise_cons, List.pairwise_cons] at hpair
      obtain ⟨hfirst, hsecond, -⟩ := hpair
      cases hfirst d' (by simp) with
      | line hlt => omega
      | @inline k i hi hin =>
        cases rest with
        | nil =>
          obtain rfl : k + 1 = n := hd
          exact .inline i rfl hin
        | cons d'' rest =>
          -- Nothing comes behind a statement on the same line.
          have hd'' := hline d'' (by simp)
          cases hsecond d'' (by simp) with
          | line hlt => omega

end Dispatch

/-- All that a step can dispatch, in order. -/
def Step.dispatches : Step → List Dispatch
  | .item i => [.statement i]
  | .attempt a => .construct a.line :: a.items.map .statement

theorem Step.line_mem_numbers {step : Step} {d : Dispatch} (h : d ∈ step.dispatches) :
    d.line ∈ step.numbers := by
  cases step with
  | item i =>
    obtain rfl := List.mem_singleton.mp h
    exact List.mem_singleton.mpr rfl
  | attempt a =>
    rw [numbers, Attempt.mem_numbers]
    rcases List.mem_cons.mp h with rfl | h
    · exact Or.inl rfl
    · obtain ⟨i, hi, rfl⟩ := List.mem_map.mp h
      exact Or.inr (Or.inr ⟨i, hi, rfl⟩)

namespace Program

variable {lines : List Text}

/-- A step is one that a line of the text is. -/
theorem exists_of_mem_read {step : Step} (h : step ∈ read lines) :
    ∃ k line, lines[k]? = some line ∧ isSkippable line = false ∧
      (step = .item ⟨k + 1, Statement.classify line.trim⟩ ∨
        step = .attempt (attemptAt lines k) ∧ Statement.classify line.trim = .tryOpener) := by
  obtain ⟨k, line, rest, hdrop, hs, rfl⟩ := mem_readFrom h
  exact ⟨k, line, getElem?_of_drop hdrop, hs, stepAt_eq hdrop⟩

theorem pairwise_stepDispatches {step : Step} (h : step ∈ read lines) :
    step.dispatches.Pairwise (Dispatch.Before lines) := by
  obtain ⟨k, line, hline, -, rfl | ⟨rfl, -⟩⟩ := exists_of_mem_read h
  · exact List.pairwise_singleton _ _
  · have hk := (List.getElem?_eq_some_iff.mp hline).1
    refine .cons (fun d hd => ?_) ?_
    · obtain ⟨i, hi, rfl⟩ := List.mem_map.mp hd
      have hlow := (numbers_attemptAt hk (Attempt.mem_numbers.mpr (Or.inr (Or.inr ⟨i, hi, rfl⟩)))).1
      obtain hlt | heq := Nat.lt_or_eq_of_le hlow
      · exact .line hlt
      · exact .inline heq.symm (inline_of_line_eq hk hi heq.symm)
    · rw [List.pairwise_map]
      exact (pairwise_items hk).imp fun hlt => .line hlt

/-- The dispatches come line after line. -/
theorem pairwise_dispatches (lines : List Text) :
    ((read lines).flatMap Step.dispatches).Pairwise (Dispatch.Before lines) := by
  rw [List.pairwise_flatMap]
  refine ⟨fun step h => pairwise_stepDispatches h, (pairwise_read lines).imp ?_⟩
  intro step step' hlt d hd d' hd'
  exact .line (hlt _ (Step.line_mem_numbers hd) _ (Step.line_mem_numbers hd'))

theorem says_of_mem_dispatches {step : Step} (h : step ∈ read lines) {d : Dispatch}
    (hd : d ∈ step.dispatches) : d.Says lines := by
  obtain ⟨k, line, hline, -, rfl | ⟨rfl, hc⟩⟩ := exists_of_mem_read h
  · obtain rfl := List.mem_singleton.mp hd
    exact ⟨k, line, rfl, hline, Or.inl rfl⟩
  · have hk := (List.getElem?_eq_some_iff.mp hline).1
    obtain ⟨hscanned, _, _⟩ := Construct.complete_scan hk
    rcases List.mem_cons.mp hd with rfl | hd
    · exact ⟨k, line, rfl, hline, hc⟩
    · obtain ⟨i, hi, rfl⟩ := List.mem_map.mp hd
      rw [items_attemptAt] at hi
      obtain ⟨region, hr, hi⟩ := List.mem_flatMap.mp hi
      obtain ⟨j, t, ht, _, rfl⟩ := mem_regionItems (hscanned.placed region hr) hi
      simp only [Region.Holds] at ht
      split at ht
      · obtain ⟨_, line', hline', hbody⟩ := ht
        exact ⟨j, line', rfl, hline', Or.inr ⟨t, hbody, rfl⟩⟩
      · exact ⟨j, t, rfl, ht.2.2, Or.inl rfl⟩

end Program

end LineScript
