import LineScript.Proofs.Program.Matter

/-! Layouts of one text. Two texts are laid out alike but for lines that say nothing and blanks
around lines (`Relaid`) when they have the same matter. A line that says something is carried over
from one text to the other by its place in the matter (`carry`), and so are the numbers in the
outline (`read_relaid`). -/

namespace LineScript

open Text

/-- The second text is the first with other blanks around lines, and with blank lines and comments
inserted and deleted. -/
inductive Relaid : List Text → List Text → Prop where
  | nil : Relaid [] []
  | keep {line line' : Text} {a b : List Text} (h : line.trim = line'.trim) (t : Relaid a b) :
      Relaid (line :: a) (line' :: b)
  | insert {line : Text} {a b : List Text} (h : isSkippable line = true) (t : Relaid a b) :
      Relaid a (line :: b)
  | delete {line : Text} {a b : List Text} (h : isSkippable line = true) (t : Relaid a b) :
      Relaid (line :: a) b

theorem Relaid.matter_eq {a b : List Text} (h : Relaid a b) : matter a = matter b := by
  induction h with
  | nil => rfl
  | @keep line line' a b h t ih =>
    have hskip : isSkippable line = isSkippable line' := by
      rw [← isSkippable_trim, h, isSkippable_trim]
    cases hs : isSkippable line' with
    | true => rw [matter_cons_skippable (hskip.trans hs), matter_cons_skippable hs, ih]
    | false => rw [matter_cons (hskip.trans hs), matter_cons hs, h, ih]
  | insert h t ih => rw [matter_cons_skippable h, ih]
  | delete h t ih => rw [matter_cons_skippable h, ih]

/-! ## Places of lines -/

/-- The place of a line of the matter in the text, both counted from 0. -/
def place : List Text → Nat → Nat
  | [], n => n
  | line :: rest, n =>
    if isSkippable line then place rest n + 1
    else
      match n with
      | 0 => 0
      | n + 1 => place rest n + 1

theorem rank_cons_succ (line : Text) (rest : List Text) (i : Nat) :
    rank (line :: rest) (i + 1) = if isSkippable line then rank rest i else rank rest i + 1 := by
  rw [rank, rank, List.take_succ_cons]
  cases hs : isSkippable line with
  | true => rw [matter_cons_skippable hs, if_pos rfl]
  | false => rw [matter_cons hs, if_neg (by simp), List.length_cons]

/-- A line that says something has its place by the number of such lines before it. -/
theorem place_rank {lines : List Text} {i : Nat} {line : Text} (hline : lines[i]? = some line)
    (hs : isSkippable line = false) : place lines (rank lines i) = i := by
  induction lines generalizing i with
  | nil => simp at hline
  | cons first rest ih =>
    cases i with
    | zero =>
      obtain rfl := Option.some.inj hline
      simp [place, hs, rank, matter_nil]
    | succ i =>
      rw [List.getElem?_cons_succ] at hline
      rw [rank_cons_succ]
      cases hf : isSkippable first <;> simp [place, hf, ih hline]

/-- The matter has a line of the text at its rank. -/
theorem getElem?_matter_rank {lines : List Text} {i : Nat} {line : Text}
    (hline : lines[i]? = some line) (hs : isSkippable line = false) :
    (matter lines)[rank lines i]? = some line.trim := by
  induction lines generalizing i with
  | nil => simp at hline
  | cons first rest ih =>
    cases i with
    | zero =>
      obtain rfl := Option.some.inj hline
      rw [matter_cons hs]
      rfl
    | succ i =>
      rw [List.getElem?_cons_succ] at hline
      rw [rank_cons_succ]
      cases hf : isSkippable first with
      | true => rw [matter_cons_skippable hf, if_pos rfl, ih hline]
      | false => rw [matter_cons hf, if_neg (by simp), List.getElem?_cons_succ, ih hline]

/-- A text has a line of its matter at its place. -/
theorem getElem?_place {lines : List Text} {n : Nat} {t : Text} (h : (matter lines)[n]? = some t) :
    ∃ line, lines[place lines n]? = some line ∧ isSkippable line = false ∧ line.trim = t := by
  induction lines generalizing n with
  | nil => simp [matter_nil] at h
  | cons first rest ih =>
    cases hf : isSkippable first with
    | true =>
      rw [matter_cons_skippable hf] at h
      obtain ⟨line, hline, hs, ht⟩ := ih h
      exact ⟨line, by simpa [place, hf] using hline, hs, ht⟩
    | false =>
      rw [matter_cons hf] at h
      cases n with
      | zero => exact ⟨first, by simp [place, hf], hf, by simpa using h⟩
      | succ n =>
        rw [List.getElem?_cons_succ] at h
        obtain ⟨line, hline, hs, ht⟩ := ih h
        exact ⟨line, by simpa [place, hf] using hline, hs, ht⟩

/-- The number that a line of a text has in another text with the same matter, counted from 1. -/
def carry (a b : List Text) (n : Nat) : Nat := place b (rank a (n - 1)) + 1

/-- A line is carried over to one that differs in nothing but blanks around it. -/
theorem Relaid.getElem?_carry {a b : List Text} (h : Relaid a b) {i : Nat} {line : Text}
    (hline : a[i]? = some line) (hs : isSkippable line = false) :
    ∃ j line', carry a b (i + 1) = j + 1 ∧ b[j]? = some line' ∧ line'.trim = line.trim := by
  have hmatter := getElem?_matter_rank hline hs
  rw [h.matter_eq] at hmatter
  obtain ⟨line', hline', _, htrim⟩ := getElem?_place hmatter
  exact ⟨_, line', rfl, hline', htrim⟩

/-! ## Numbers in an outline -/

theorem Step.renumber_renumber (f g : Nat → Nat) (step : Step) :
    (step.renumber f).renumber g = step.renumber (g ∘ f) := by
  cases step with
  | item i => rfl
  | attempt a =>
    simp only [Step.renumber, Attempt.renumber, Option.map_map, List.map_map, Step.attempt.injEq,
      Attempt.mk.injEq, true_and]
    refine ⟨rfl, rfl, ?_, ?_⟩ <;>
      · congr 1
        funext items
        simp only [Function.comp_apply, List.map_map]
        rfl

/-- All numbers of lines in a construct. -/
def Attempt.numbers (a : Attempt) : List Nat :=
  a.line :: (a.nestedTry.toList ++ a.body.map Item.line ++
    (a.handler.getD []).map Item.line ++ (a.cleanup.getD []).map Item.line)

/-- All numbers of lines in a step. -/
def Step.numbers : Step → List Nat
  | .item i => [i.line]
  | .attempt a => a.numbers

/-- A renumbering of a step hangs on the numbers in it alone. -/
theorem Step.renumber_congr {f g : Nat → Nat} {step : Step} (h : ∀ n ∈ step.numbers, f n = g n) :
    step.renumber f = step.renumber g := by
  have hitems : ∀ items : List Item, (∀ n ∈ items.map Item.line, f n = g n) →
      items.map (·.renumber f) = items.map (·.renumber g) := by
    intro items hf
    refine List.map_congr_left fun i hi => ?_
    have hline := hf i.line (List.mem_map_of_mem hi)
    simp only [Item.renumber, hline]
  cases step with
  | item i =>
    have hline := h i.line (by simp [numbers])
    simp only [Step.renumber, Item.renumber, hline]
  | attempt a =>
    simp only [numbers, Attempt.numbers, List.mem_cons, List.mem_append] at h
    have hline := h a.line (Or.inl rfl)
    have hbody := hitems a.body fun n hn => h n (by simp [hn])
    have hhandler := hitems (a.handler.getD []) fun n hn => h n (by simp [hn])
    have hcleanup := hitems (a.cleanup.getD []) fun n hn => h n (by simp [hn])
    have hnested : a.nestedTry.map f = a.nestedTry.map g := by
      cases hn : a.nestedTry with
      | none => rfl
      | some n => rw [Option.map_some, Option.map_some, h n (by simp [hn])]
    obtain ⟨line, nestedTry, body, binding, handler, cleanup⟩ := a
    simp only [Step.renumber, Attempt.renumber, Step.attempt.injEq, Attempt.mk.injEq, true_and]
    refine ⟨hline, hnested, hbody, ?_, ?_⟩
    · cases handler with
      | none => rfl
      | some items => exact congrArg some hhandler
    · cases cleanup with
      | none => rfl
      | some items => exact congrArg some hcleanup

theorem Step.renumber_id (step : Step) : step.renumber id = step := by
  have hitems : ∀ items : List Item, items.map (·.renumber id) = items := List.map_id
  cases step with
  | item i => rfl
  | attempt a =>
    obtain ⟨line, nestedTry, body, binding, handler, cleanup⟩ := a
    simp only [Step.renumber, Attempt.renumber, hitems, Option.map_id, id_eq]
    cases handler <;> cases cleanup <;> simp

/-- A step stays as it is when none of its numbers changes. -/
theorem Step.renumber_eq_self {f : Nat → Nat} {step : Step} (h : ∀ n ∈ step.numbers, f n = n) :
    step.renumber f = step :=
  (renumber_congr h).trans step.renumber_id

namespace Program

/-- The line with this number says something. -/
def Says (lines : List Text) (n : Nat) : Prop :=
  ∃ i line, n = i + 1 ∧ lines[i]? = some line ∧ isSkippable line = false

theorem says_of_holds {lines : List Text} {start stop i : Nat} {region : Region} {t : Text}
    (hp : region.Placed lines start stop) (h : region.Holds lines i t)
    (hs : isSkippable t = false) : Says lines (i + 1) := by
  by_cases hinline : region.inline = true
  · obtain ⟨_, line, o, hline, ho⟩ := hp.opener hinline
    simp only [Region.Holds, hinline, ↓reduceIte] at h
    obtain ⟨rfl, _⟩ := h
    exact ⟨region.start, line, rfl, hline, isSkippable_of_read? ho⟩
  · simp only [Region.Holds, hinline, Bool.false_eq_true, ↓reduceIte] at h
    exact ⟨i, t, rfl, h.2.2, hs⟩

theorem says_of_mem_regionItems {lines : List Text} {start stop n : Nat} {region : Region}
    (hp : region.Placed lines start stop)
    (h : n ∈ (regionItems start (lines.drop start) region).map Item.line) : Says lines n := by
  obtain ⟨item, hitem, rfl⟩ := List.mem_map.mp h
  obtain ⟨i, t, ht, hs, rfl⟩ := mem_regionItems hp hitem
  exact says_of_holds hp ht hs

theorem says_of_mem_attemptOf {lines : List Text} {i n : Nat} (hi : Says lines (i + 1))
    (h : n ∈ (attemptOf i (lines.drop i) (Construct.scan lines i)).numbers) : Says lines n := by
  have hlt : i < lines.length := by
    obtain ⟨j, line, heq, hline, _⟩ := hi
    obtain rfl := Nat.succ.inj heq
    exact (List.getElem?_eq_some_iff.mp hline).1
  obtain ⟨hscanned, _, _⟩ := Construct.complete_scan hlt
  have hregion : ∀ region ∈ (Construct.scan lines i).regions,
      n ∈ (regionItems i (lines.drop i) region).map Item.line → Says lines n :=
    fun region hr hn => says_of_mem_regionItems (hscanned.placed region hr) hn
  have hnested := hscanned.nested
  generalize Construct.scan lines i = c at h hregion hnested
  simp only [Attempt.numbers, attemptOf, List.mem_cons, List.mem_append] at h
  rcases h with rfl | ((hn | hn) | hn) | hn
  · exact hi
  · cases hc : c.nestedTry with
    | none => simp [hc] at hn
    | some k =>
      obtain ⟨_, _, line', hline', hs⟩ := hnested k hc
      obtain rfl : n = k + 1 := by simpa [hc] using hn
      exact ⟨k, line', rfl, hline', hs⟩
  · exact hregion c.tryRegion (by simp [Construct.regions]) hn
  · cases hc : c.catchRegion with
    | none => simp [hc] at hn
    | some region => exact hregion region (by simp [Construct.regions, hc]) (by simpa [hc] using hn)
  · cases hc : c.finallyRegion with
    | none => simp [hc] at hn
    | some region => exact hregion region (by simp [Construct.regions, hc]) (by simpa [hc] using hn)

/-- All numbers in the outline of a text are those of lines that say something. -/
theorem says_of_mem_read {lines : List Text} {step : Step} (h : step ∈ read lines) {n : Nat}
    (hn : n ∈ step.numbers) : Says lines n := by
  obtain ⟨i, line, rest, hdrop, hs, rfl⟩ := mem_readFrom h
  have hline : lines[i]? = some line := by rw [← List.head?_drop, hdrop, List.head?_cons]
  have hi : Says lines (i + 1) := ⟨i, line, rfl, hline, hs⟩
  unfold stepAt at hn
  split at hn
  · obtain ⟨_, hscan⟩ := Construct.scan_of_drop hdrop
    rw [← hscan, ← hdrop] at hn
    exact says_of_mem_attemptOf hi hn
  · obtain rfl : n = i + 1 := by simpa [Step.numbers] using hn
    exact hi

theorem carry_self {lines : List Text} {n : Nat} (h : Says lines n) : carry lines lines n = n := by
  obtain ⟨i, line, rfl, hline, hs⟩ := h
  rw [carry, Nat.add_sub_cancel, place_rank hline hs]

/-- Two layouts of one text have the same outline, but for the numbers of the lines. -/
theorem read_relaid {a b : List Text} (h : Relaid a b) :
    read b = (read a).map (·.renumber (carry a b)) := by
  have hplaced : ∀ lines : List Text, (read (matter lines)).map (·.renumber (ordinal (place b))) =
      (read lines).map (·.renumber (carry lines b)) := by
    intro lines
    rw [read_matter, List.map_map]
    exact List.map_congr_left fun step _ => step.renumber_renumber _ _
  calc read b = (read b).map (·.renumber (carry b b)) :=
        ((List.map_congr_left fun step hstep =>
          Step.renumber_eq_self fun n hn => carry_self (says_of_mem_read hstep hn)).trans
            (List.map_id _)).symm
    _ = (read (matter b)).map (·.renumber (ordinal (place b))) := (hplaced b).symm
    _ = (read (matter a)).map (·.renumber (ordinal (place b))) := by rw [h.matter_eq]
    _ = (read a).map (·.renumber (carry a b)) := hplaced a

end Program

end LineScript
