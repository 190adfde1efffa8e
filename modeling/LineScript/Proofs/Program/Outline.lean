import LineScript.Program
import LineScript.Proofs.Block.Regions

/-! What the outline of a program is made of. Every statement of a body is read from a line that
says something, or from the text of an inline region (`mem_itemsUpTo`, `mem_regionItems`). A line
that opens a try becomes one step, and reading goes on behind its construct (`readFrom_tryOpener`);
the bodies of a construct without a nested try hold no statement that opens a try
(`ne_tryOpener_of_mem`). -/

namespace LineScript.Program

open Text

/-! ## Statements of a body -/

/-- A statement is what the line with its number says. -/
theorem mem_itemsUpTo {stop i : Nat} {lines : List Text} {item : Item}
    (h : item ∈ itemsUpTo stop i lines) :
    ∃ k line, lines[k]? = some line ∧ i + k < stop ∧ isSkippable line = false ∧
      item = ⟨i + k + 1, Statement.classify line.trim⟩ := by
  fun_induction itemsUpTo stop i lines with
  | case1 => simp at h
  | case2 => simp at h
  | case3 i line rest hstop hs ih =>
    obtain ⟨k, line', hline, hk, hs', hitem⟩ := ih h
    exact ⟨k + 1, line', hline, by omega, hs', by rw [hitem]; congr 1; omega⟩
  | case4 i line rest hstop hs hc ih =>
    obtain ⟨k, line', hline, hk, hs', hitem⟩ := ih h
    exact ⟨k + 1, line', hline, by omega, hs', by rw [hitem]; congr 1; omega⟩
  | case5 i line rest hstop hs hc skipped ih =>
    rcases List.mem_cons.mp h with rfl | h
    · exact ⟨0, line, rfl, by omega, by simpa using hs, rfl⟩
    · obtain ⟨k, line', hline, hk, hs', hitem⟩ := ih h
      rw [List.getElem?_drop] at hline
      exact ⟨skipped + k + 1, line', hline, by omega, hs', by rw [hitem]; congr 1; omega⟩

/-- A statement of a region's body is what the region holds on the line with its number. -/
theorem mem_regionItems {lines : List Text} {start stop : Nat} {region : Region} {item : Item}
    (hp : region.Placed lines start stop) (h : item ∈ regionItems start (lines.drop start) region) :
    ∃ i t, region.Holds lines i t ∧ isSkippable t = false ∧
      item = ⟨i + 1, Statement.classify t.trim⟩ := by
  have hbehind : (lines.drop start).drop (region.start - start) = lines.drop region.start := by
    rw [List.drop_drop, Nat.add_sub_cancel' hp.start_le]
  simp only [regionItems, hbehind] at h
  by_cases hinline : region.inline = true
  · obtain ⟨hstop, line, o, hline, _⟩ := hp.opener hinline
    rw [if_pos hinline, List.head?_drop, hline, Option.bind_some] at h
    cases hbody : inlineBody? line with
    | none => simp [hbody] at h
    | some body =>
      rw [hbody] at h
      obtain ⟨k, t, ht, hk, hs, hitem⟩ := mem_itemsUpTo h
      have hk0 : k = 0 := by omega
      subst hk0
      cases ht
      refine ⟨region.start, body, ?_, hs, hitem⟩
      simp only [Region.Holds, hinline, ↓reduceIte, true_and]
      exact ⟨line, hline, hbody⟩
  · rw [if_neg hinline] at h
    obtain ⟨k, line, hline, hk, hs, hitem⟩ := mem_itemsUpTo h
    rw [List.getElem?_drop] at hline
    refine ⟨region.start + k, line, ?_, hs, hitem⟩
    simp only [Region.Holds, hinline, Bool.false_eq_true, ↓reduceIte]
    exact ⟨by omega, hk, hline⟩

/-! ## Steps -/

/-- The step that a line is, where `i` is its number and `rest` what is behind it. -/
def stepAt (i : Nat) (line : Text) (rest : List Text) : Step :=
  match Statement.classify line.trim with
  | .tryOpener => .attempt (attemptOf i (line :: rest) (Construct.scanFrom i line rest))
  | _ => .item ⟨i + 1, Statement.classify line.trim⟩

/-- A line that says something is one step, and reading goes on where its statement leads. -/
theorem readFrom_cons {i : Nat} {line : Text} {rest : List Text}
    (hs : isSkippable line = false) (hc : Statement.classify line.trim ≠ .structural) :
    readFrom i (line :: rest) = stepAt i line rest ::
      readFrom (i + 1 + (next i line rest (Statement.classify line.trim) - (i + 1)))
        (rest.drop (next i line rest (Statement.classify line.trim) - (i + 1))) := by
  rw [readFrom, if_neg (by simp [hs]), stepAt]
  split
  · contradiction
  · rfl

/-- A line with a plain statement is one step, and reading goes on with the next line. -/
theorem readFrom_plain {line : Text} (hs : isSkippable line = false)
    (h : (Statement.classify line.trim).isPlain = true) (i : Nat) (rest : List Text) :
    readFrom i (line :: rest) =
      .item ⟨i + 1, Statement.classify line.trim⟩ :: readFrom (i + 1) rest := by
  have hc : Statement.classify line.trim ≠ .structural := by
    intro hc
    rw [hc] at h
    cases h
  have hnext : next i line rest (Statement.classify line.trim) = i + 1 := by
    generalize Statement.classify line.trim = statement at h
    cases statement <;> first | rfl | cases h
  have hstep : stepAt i line rest = .item ⟨i + 1, Statement.classify line.trim⟩ := by
    unfold stepAt
    generalize Statement.classify line.trim = statement at h
    cases statement <;> first | rfl | cases h
  rw [readFrom_cons hs hc, hnext, hstep, Nat.sub_self, List.drop_zero, Nat.add_zero]

theorem drop_of_drop_eq_cons {lines rest : List Text} {i : Nat} {line : Text}
    (h : lines.drop i = line :: rest) (k : Nat) : lines.drop (i + 1 + k) = rest.drop k := by
  rw [← List.drop_drop, ← List.drop_drop, h, List.drop_one, List.tail_cons]

/-- Every step is one that a line is. -/
theorem mem_readFrom {lines : List Text} {i : Nat} {step : Step}
    (h : step ∈ readFrom i (lines.drop i)) :
    ∃ k line rest, lines.drop k = line :: rest ∧ isSkippable line = false ∧
      step = stepAt k line rest := by
  generalize hdrop : lines.drop i = behind at h
  fun_induction readFrom i behind with
  | case1 => simp at h
  | case2 i line rest hs ih => exact ih (drop_of_drop_eq_cons hdrop 0) h
  | case3 i line rest hs hc ih => exact ih (drop_of_drop_eq_cons hdrop 0) h
  | case4 i line rest hs hc skipped step' ih =>
    rcases List.mem_cons.mp h with rfl | h
    · exact ⟨i, line, rest, hdrop, by simpa using hs, rfl⟩
    · exact ih (drop_of_drop_eq_cons hdrop skipped) h

/-- The construct of which the line numbered `i` is the first, as a step. -/
def attemptAt (lines : List Text) (i : Nat) : Attempt :=
  attemptOf i (lines.drop i) (Construct.scan lines i)

/-- A line that opens a try is one step, and reading goes on behind its construct. -/
theorem readFrom_tryOpener {lines : List Text} {i : Nat} {line : Text}
    (hline : lines[i]? = some line) (ht : Statement.classify line.trim = .tryOpener) :
    readFrom i (lines.drop i) = .attempt (attemptAt lines i) ::
      readFrom (Construct.scan lines i).resumeAt
        (lines.drop (Construct.scan lines i).resumeAt) := by
  obtain ⟨hi, heq⟩ := List.getElem?_eq_some_iff.mp hline
  have hs : isSkippable line = false := by
    have hopens := Statement.opensTry_of_classify ht
    rw [opensTry_trim] at hopens
    exact isSkippable_of_opensTry hopens
  have hdrop : lines.drop i = line :: lines.drop (i + 1) := by
    rw [List.drop_eq_getElem_cons hi, heq]
  have hscan := Construct.scan_eq_scanFrom hline
  obtain ⟨_, hlow, _⟩ := Construct.complete_scan hi
  have hresume : i + 1 + ((Construct.scan lines i).resumeAt - (i + 1)) =
      (Construct.scan lines i).resumeAt := by omega
  rw [attemptAt, hdrop, readFrom_cons hs (by simp [ht]), stepAt]
  simp only [ht, next, ← hscan, hresume, List.drop_drop]

/-- In the bodies of a construct without a nested try no line opens a try. -/
theorem classify_ne_tryOpener {lines : List Text} {i k : Nat} {region : Region} {t : Text}
    (hi : i < lines.length) (hn : (Construct.scan lines i).nestedTry = none)
    (hr : region ∈ (Construct.scan lines i).regions) (ht : region.Holds lines k t) :
    Statement.classify t.trim ≠ .tryOpener := by
  intro hc
  obtain ⟨hscanned, _, _⟩ := Construct.complete_scan hi
  have hopens := Statement.opensTry_of_classify hc
  rw [opensTry_trim, hscanned.tryFree hn region hr k t ht] at hopens
  contradiction

theorem ne_tryOpener_of_mem {lines : List Text} {i : Nat} {region : Region} {item : Item}
    (hi : i < lines.length) (hn : (Construct.scan lines i).nestedTry = none)
    (hr : region ∈ (Construct.scan lines i).regions)
    (h : item ∈ regionItems i (lines.drop i) region) : item.statement ≠ .tryOpener := by
  obtain ⟨hscanned, _, _⟩ := Construct.complete_scan hi
  obtain ⟨k, t, ht, _, rfl⟩ := mem_regionItems (hscanned.placed region hr) h
  exact classify_ne_tryOpener hi hn hr ht

end LineScript.Program
