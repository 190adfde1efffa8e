import LineScript.Proofs.Block.Inline
import LineScript.Proofs.Session.Append

/-!
Runs of a try with its body on its own line. Such a try has no handler and no cleanup, and its body is
one statement with the number of the line. It is run like a line with that statement, but for one more
statement that is counted (`execute_inlineTry`).
-/

namespace LineScript

open Text

/-- A construct whose body is one statement, without handler and cleanup. -/
def Attempt.single (i : Item) : Attempt := ⟨i.line, none, [i], none, none, none⟩

namespace Run

theorem after_one (r : Run) : r.after ⟨1, []⟩ = r.count := by
  simp only [after, Report.append, count, List.nil_append, Nat.add_comm 1]

/-- A construct of one statement ends in what the statement ends in. -/
theorem runStep_single (r : Run) (i : Item) :
    r.runStep (.attempt (.single i)) = (r.runStep (.item i)).count := by
  have hbody : ∀ r : Run, r.runItems [i] = r.runItem i := by
    intro r
    rw [runItems]
    split <;> simp_all [runItems]
  have hattempt : r.runAttempt (.single i) = r.count.runItem i := by
    simp only [runAttempt, runBody, Attempt.single, hbody]
    cases hrun : r.count.runItem i with
    | mk e r' => cases e <;> rfl
  have hcount := runStep_after ⟨1, []⟩ r (.item i)
  rw [after_one, after_one] at hcount
  rw [← hcount, runStep_attempt, runStep_item, hattempt]

theorem runSteps_count (r : Run) (steps : List Step) :
    r.count.runSteps steps = (r.runSteps steps).count := by
  rw [← after_one, runSteps_after, after_one]

end Run

namespace Program

variable {body : Text} {rest : List Text}

/-- The statement of the body has the number of the line. -/
theorem regionItems_inlineTry (h : FitsInline body) (i : Nat) (rest : List Text) :
    regionItems i (inlineTry body :: rest) ⟨.tryBlock, i, i + 1, true⟩ =
      [⟨i + 1, Statement.classify body⟩] := by
  have hlt : ¬ i + 1 ≤ i := Nat.not_succ_le_self i
  have hc : Statement.classify body.trim ≠ .structural := by
    intro hc
    have hplain := h.plain
    rw [← h.trimmed, hc] at hplain
    cases hplain
  simp only [regionItems, ↓reduceIte, Nat.sub_self, List.drop_zero, List.head?_cons,
    Option.bind_some, inlineBody?_inlineTry h]
  rw [itemsUpTo_cons hlt h.isSkippable hc, List.drop_nil, itemsUpTo, h.trimmed]

/-- A try with a plain statement on its line is one step as well. -/
theorem readFrom_inlineTry (h : FitsInline body) (hrest : BlockKind.tryBlock.EndsBefore rest)
    (i : Nat) :
    readFrom i (inlineTry body :: rest) =
      .attempt (.single ⟨i + 1, Statement.classify body⟩) :: readFrom (i + 1) rest := by
  have hc := classify_inlineTry body
  have hs : isSkippable (inlineTry body) = false := isSkippable_of_read? (read?_inlineTry body)
  have hscan := Construct.scanFrom_inlineTry h hrest i
  have hnext : next i (inlineTry body) rest .tryOpener = i + 1 := by rw [next, hscan]
  have hstep : stepAt i (inlineTry body) rest =
      .attempt (.single ⟨i + 1, Statement.classify body⟩) := by
    simp only [stepAt, hc, hscan, attemptOf, regionItems_inlineTry h]
    rfl
  rw [readFrom_cons hs (by simp [hc]), hc, hnext, hstep, Nat.sub_self]
  rfl

end Program

namespace Session

/-- A plain statement in a try on one line does what it does without the try. The session is the same,
and so are the failures with the numbers of their lines; one more statement is counted. So it is in
every state of a run and under every line number, for the step and for all that is run from there on,
and so it is for the execution of sources that come to the line with the try and to the one without; a
map in the place of the try could be the body of a declaration before it. -/
theorem execute_inlineTry {before rest : List Text} {body : Text} (h : FitsInline body)
    (hrest : BlockKind.tryBlock.EndsBefore rest) :
    (∀ i,
      let item : Item := ⟨i + 1, Statement.classify body⟩
      Program.readFrom i (inlineTry body :: rest) =
        .attempt (.single item) :: Program.readFrom (i + 1) rest ∧
      Program.readFrom i (body :: rest) = .item item :: Program.readFrom (i + 1) rest ∧
      ∀ r : Run, r.runStep (.attempt (.single item)) = (r.runStep (.item item)).count ∧
        r.runSteps (Program.readFrom i (inlineTry body :: rest)) =
          (r.runSteps (Program.readFrom i (body :: rest))).count) ∧
    ∀ inTry plain, Text.lines inTry = before ++ inlineTry body :: rest →
      Text.lines plain = before ++ body :: rest →
      Program.Reaches (Text.lines inTry) before.length →
      Program.Reaches (Text.lines plain) before.length →
      ∀ s : Session, (s.execute inTry).2 = (s.execute plain).2 ∧
        (s.execute inTry).1.failures = (s.execute plain).1.failures ∧
        (s.execute inTry).1.executed = (s.execute plain).1.executed + 1 := by
  have hline : ∀ i, Program.readFrom i (body :: rest) =
      .item ⟨i + 1, Statement.classify body⟩ :: Program.readFrom (i + 1) rest := by
    intro i
    have hplain := h.plain
    rw [← h.trimmed] at hplain
    rw [Program.readFrom_plain h.isSkippable hplain, h.trimmed]
  have hsteps : ∀ i, ∀ r : Run, r.runSteps (Program.readFrom i (inlineTry body :: rest)) =
      (r.runSteps (Program.readFrom i (body :: rest))).count := by
    intro i r
    rw [Program.readFrom_inlineTry h hrest, hline, Run.runSteps_cons,
      Run.runSteps_cons, Run.runStep_single, Run.runSteps_count]
  constructor
  · intro i item
    exact ⟨Program.readFrom_inlineTry h hrest i, hline i,
      fun r => ⟨r.runStep_single item, hsteps i r⟩⟩
  · intro inTry plain hinTry hplain htry hreach s
    have hread : ∀ {behind : List Text}, Program.Reaches (before ++ behind) before.length →
        Program.read (before ++ behind) =
          Program.read before ++ Program.readFrom before.length behind := by
      intro behind hreach
      exact Program.readFrom_append hreach.splitsAt (Nat.zero_le _) .start
    rw [hinTry] at htry
    rw [hplain] at hreach
    have hrun : s.ready.runSteps (Program.read (Text.lines inTry)) =
        (s.ready.runSteps (Program.read (Text.lines plain))).count := by
      rw [hinTry, hplain, hread htry, hread hreach, Run.runSteps_append, Run.runSteps_append, hsteps]
    have hexecute : ∀ source, s.execute source =
        ((s.ready.runSteps (Program.read (Text.lines source))).report,
          (s.ready.runSteps (Program.read (Text.lines source))).session) := fun _ => rfl
    rw [hexecute inTry, hexecute plain, hrun]
    exact ⟨rfl, rfl, rfl⟩

/-- A map and a quoted brace in the body, and another try on the next line. -/
theorem execute_inlineTry_map :
    let body := "m = \x7b\"k\": \"\x7d\"\x7d".toList
    let inTry := "x = 1\ntry \x7b m = \x7b\"k\": \"\x7d\"\x7d \x7d\ntry \x7b".toList
    let plain := "x = 1\nm = \x7b\"k\": \"\x7d\"\x7d\ntry \x7b".toList
    FitsInline body ∧ BlockKind.tryBlock.EndsBefore ["try \x7b".toList] ∧
      Text.lines inTry = ["x = 1".toList, inlineTry body, "try \x7b".toList] ∧
      Text.lines plain = ["x = 1".toList, body, "try \x7b".toList] ∧
      Program.Reaches (Text.lines inTry) 1 ∧ Program.Reaches (Text.lines plain) 1 ∧
      ∀ s : Session, (s.execute inTry).2 = (s.execute plain).2 ∧
        (s.execute inTry).1.executed = (s.execute plain).1.executed + 1 := by
  intro body inTry plain
  have h : FitsInline body := ⟨by decide +kernel, by decide +kernel, by decide, by decide, by decide⟩
  have hrest : BlockKind.tryBlock.EndsBefore ["try \x7b".toList] := by
    intro line hline o ho _
    obtain rfl : "try \x7b".toList = line := Option.some.inj hline
    have hkind : (Opener.read? "try \x7b".toList).map (·.kind) = some .tryBlock := by decide
    rw [ho, Option.map_some] at hkind
    rw [Option.some.inj hkind]
    rfl
  have hinTry : Text.lines inTry = ["x = 1".toList, inlineTry body, "try \x7b".toList] := by
    decide
  have hplain : Text.lines plain = ["x = 1".toList, body, "try \x7b".toList] := by decide
  have hreach : ∀ rest, Program.Reaches ("x = 1".toList :: rest) 1 := by
    intro rest
    have hclassify : Statement.classify (Text.trim "x = 1".toList) =
        .assignment "x".toList "1".toList := by decide +kernel
    have hdrop : ("x = 1".toList :: rest).drop 0 = "x = 1".toList :: rest := rfl
    have hnext := Program.Reaches.start.next hdrop (by decide)
    rwa [hclassify] at hnext
  have htry : Program.Reaches (Text.lines inTry) 1 := hinTry ▸ hreach _
  have hline : Program.Reaches (Text.lines plain) 1 := hplain ▸ hreach _
  refine ⟨h, hrest, hinTry, hplain, htry, hline, fun s => ?_⟩
  obtain ⟨_, hexecute⟩ := @execute_inlineTry ["x = 1".toList] ["try \x7b".toList] body h hrest
  obtain ⟨hsession, -, hexecuted⟩ := hexecute inTry plain hinTry hplain htry hline s
  exact ⟨hsession, hexecuted⟩

end Session

end LineScript
