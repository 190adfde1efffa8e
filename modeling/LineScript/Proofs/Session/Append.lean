import LineScript.Proofs.Program.Append
import LineScript.Proofs.Session.Renumbering
import LineScript.Proofs.Text.Lines

/-! Runs of a text in two parts. What a run does is no concern of the report so far
(`runSteps_after`), so a text that can be split is run like its parts, one after the other on one
session (`execute_append`); only the numbers of lines tell the difference. -/

namespace LineScript

/-- The report of two runs, one after the other. -/
def Report.append (p q : Report) : Report := ⟨p.executed + q.executed, p.failures ++ q.failures⟩

namespace Run

/-- The run with a report from before it. -/
def after (p : Report) (r : Run) : Run := { r with report := p.append r.report }

/-- A computation that does not look at the report so far. -/
def Frames (run : Run → Option LineFailure × Run) : Prop :=
  ∀ p r, run (r.after p) = ((run r).1, (run r).2.after p)

theorem count_after (p : Report) (r : Run) : (r.after p).count = r.count.after p := rfl

theorem reportFailure_after (p : Report) (r : Run) (e : LineFailure) :
    (r.after p).reportFailure e = (r.reportFailure e).after p := by
  simp only [reportFailure, after, Report.append, List.append_assoc]

theorem frames_runItem (i : Item) : Frames (·.runItem i) := by
  intro p r
  simp only [runItem, count_after]
  split <;> rfl

theorem frames_runItems (items : List Item) : Frames (·.runItems items) := by
  intro p r
  induction items generalizing r with
  | nil => rfl
  | cons i items ih =>
    have hitem := frames_runItem i p r
    cases hrun : r.runItem i with
    | mk e r' =>
      simp only [hrun] at hitem
      cases e with
      | some e => simp only [runItems, hitem, hrun]
      | none =>
        simp only [runItems, hitem, hrun]
        exact ih r'

theorem frames_runHandler (a : Attempt) (e : LineFailure) : Frames (·.runHandler a e) := by
  intro p r
  cases hh : a.handler with
  | none => simp only [runHandler, hh]
  | some items =>
    simp only [runHandler, hh]
    exact frames_runItems items p { r with session := r.session.bindError e.failure a.binding }

theorem frames_runBody (a : Attempt) : Frames (·.runBody a) := by
  intro p r
  have hitems := frames_runItems a.body p r
  cases hrun : r.runItems a.body with
  | mk e r' =>
    simp only [hrun] at hitems
    cases e with
    | none => simp only [runBody, hitems, hrun]
    | some e =>
      simp only [runBody, hitems, hrun]
      exact frames_runHandler a e p r'

theorem frames_runAttempt (a : Attempt) : Frames (·.runAttempt a) := by
  intro p r
  cases hn : a.nestedTry with
  | some line => simp only [runAttempt, hn, count_after]
  | none =>
    have hbody := frames_runBody a p r.count
    cases hrun : r.count.runBody a with
    | mk pending r' =>
      simp only [hrun] at hbody
      cases hc : a.cleanup with
      | none => simp only [runAttempt, hn, count_after, hbody, hrun, hc]
      | some items =>
        have hitems := frames_runItems items p r'
        cases hrun' : r'.runItems items with
        | mk e r'' =>
          simp only [hrun'] at hitems
          cases e with
          | none => simp only [runAttempt, hn, count_after, hbody, hrun, hc, hitems, hrun']
          | some e => simp only [runAttempt, hn, count_after, hbody, hrun, hc, hitems, hrun']

theorem runStep_after (p : Report) (r : Run) (step : Step) :
    (r.after p).runStep step = (r.runStep step).after p := by
  have hreport : ∀ (r : Run) (e : Option LineFailure),
      (r.after p).reportAny e = (r.reportAny e).after p := by
    intro r e
    cases e with
    | none => rfl
    | some e => exact reportFailure_after p r e
  cases step with
  | item i =>
    have hitem : (r.after p).runItem i = ((r.runItem i).1, (r.runItem i).2.after p) :=
      frames_runItem i p r
    rw [runStep_item, runStep_item, hitem, hreport]
  | attempt a =>
    have hattempt : (r.after p).runAttempt a = ((r.runAttempt a).1, (r.runAttempt a).2.after p) :=
      frames_runAttempt a p r
    rw [runStep_attempt, runStep_attempt, hattempt, hreport]

theorem runSteps_after (p : Report) (r : Run) (steps : List Step) :
    (r.after p).runSteps steps = (r.runSteps steps).after p := by
  induction steps generalizing r with
  | nil => rfl
  | cons step steps ih => rw [runSteps_cons, runSteps_cons, runStep_after, ih]

theorem runSteps_append (r : Run) (first second : List Step) :
    r.runSteps (first ++ second) = (r.runSteps first).runSteps second :=
  List.foldl_append

end Run

namespace Session

/-- A session before the run of a program. -/
def ready (s : Session) : Run := ⟨s, ⟨0, []⟩⟩

/-- The steps of a program under another numbering of its lines. -/
theorem exists_runSteps_ready (s : Session) (lines : List Text) :
    ∃ (t : Run) (entries : Array LogEntry), ∀ f,
      s.ready.runSteps ((Program.read lines).map (·.renumber f)) =
        under s.host.console.log f t entries := by
  obtain ⟨t, entries, hrun⟩ := Run.exists_runSteps
    (fun step (hstep : step ∈ Program.read lines) => Program.flat_of_mem_read hstep)
    s.host.console.log s.ready #[]
  refine ⟨t, entries, fun f => ?_⟩
  have hstart : under s.host.console.log f s.ready #[] = s.ready := by
    have hlog : logged s.host.console.log f #[] = s.host.console.log := by simp [logged]
    simp only [under, hlog]
    rfl
  rw [← hrun f, hstart]

theorem map_renumber_id (steps : List Step) : steps.map (·.renumber id) = steps :=
  (List.map_congr_left fun step _ => step.renumber_id).trans (List.map_id steps)

theorem map_failures_renumber_id (failures : List LineFailure) :
    failures.map (·.renumber id) = failures :=
  (List.map_congr_left fun e _ => e.renumber_id).trans (List.map_id failures)

/-- A text of two parts is run like the parts in turn, if nothing that begins at the top level of
the first goes on into the second. The session ends in the same state, but for the log, and the
reports come one behind the other; the numbers of lines in the second part are moved on, in the log
and in the failures. -/
theorem execute_append (s : Session) {a b : Text} (ha : a.EndsLine)
    (hsplit : Program.SplitsAt (Text.lines (a ++ b)) (Text.lines a).length) :
    let first := s.execute a
    let second := first.2.execute b
    let whole := s.execute (a ++ b)
    let shift := ((Text.lines a).length + ·)
    ∃ entries : Array LogEntry,
      second.2.host.console.log = logged first.2.host.console.log id entries ∧
      whole.2 = second.2.withLog (logged first.2.host.console.log shift entries) ∧
      whole.2.host.console.prompts = second.2.host.console.prompts ∧
      whole.1.executed = first.1.executed + second.1.executed ∧
      whole.1.failures = first.1.failures ++ second.1.failures.map (·.renumber shift) := by
  intro first second whole shift
  obtain ⟨t, entries, hrun⟩ := exists_runSteps_ready first.2 (Text.lines b)
  have hread : Program.read (Text.lines (a ++ b)) = Program.read (Text.lines a) ++
      (Program.read (Text.lines b)).map (·.renumber shift) := by
    rw [Text.lines_append ha] at hsplit ⊢
    exact Program.read_append hsplit
  have hfirst : s.ready.runSteps (Program.read (Text.lines a)) = first.2.ready.after first.1 := by
    simp only [first, execute, ready, Run.after, Report.append, List.append_nil, Nat.add_zero]
  have hsecond : first.2.ready.runSteps (Program.read (Text.lines b)) =
      under first.2.host.console.log id t entries := by
    rw [← hrun id, map_renumber_id]
  have hwhole : s.ready.runSteps (Program.read (Text.lines (a ++ b))) =
      (under first.2.host.console.log shift t entries).after first.1 := by
    rw [hread, Run.runSteps_append, hfirst, Run.runSteps_after, hrun shift]
  -- Both runs end in the state `t`, with the same entries in the log under two numberings.
  have hstate : second.2 = t.session.withLog (logged first.2.host.console.log id entries) :=
    congrArg Run.session hsecond
  have hstate' : whole.2 = t.session.withLog (logged first.2.host.console.log shift entries) :=
    congrArg Run.session hwhole
  have hreport : second.1 = t.report := by
    have heq : second.1 = ⟨t.report.executed, t.report.failures.map (·.renumber id)⟩ :=
      congrArg Run.report hsecond
    rw [heq, map_failures_renumber_id]
  have hreport' : whole.1 =
      first.1.append ⟨t.report.executed, t.report.failures.map (·.renumber shift)⟩ :=
    congrArg Run.report hwhole
  rw [hstate, hstate', hreport, hreport']
  refine ⟨entries, rfl, rfl, ?_, rfl, rfl⟩
  exact t.session.host.console.prompts_logged _ entries _ _

/-- A construct before the cut, and behind it one with a catch on a line of its own. -/
theorem execute_append_constructs :
    let s : Session := .start [] ⟨.withAnswers [], .ofSeed 0, fun _ _ => [], 0⟩
    let a : Text := "try \x7b\n\x7d catch (e) \x7b\n\x7d\n".toList
    let b : Text := "try \x7b\n\x7d\ncatch \x7b\n".toList
    a.EndsLine ∧ Program.SplitsAt (Text.lines (a ++ b)) (Text.lines a).length ∧
      (s.execute (a ++ b)).1.executed =
        (s.execute a).1.executed + ((s.execute a).2.execute b).1.executed := by
  intro s a b
  have ha : a.EndsLine := Or.inr ⟨"try \x7b\n\x7d catch (e) \x7b\n\x7d".toList, rfl⟩
  have hlines : Text.lines (a ++ b) = ["try \x7b".toList, "\x7d catch (e) \x7b".toList,
      "\x7d".toList, "try \x7b".toList, "\x7d".toList, "catch \x7b".toList] := by decide
  have hlength : (Text.lines a).length = 3 := by decide
  have hsplit : Program.SplitsAt (Text.lines (a ++ b)) (Text.lines a).length := by
    rw [hlines, hlength]
    intro i line hi _ hline _
    have hopener : Statement.classify (Text.trim "try \x7b".toList) = .tryOpener := by
      decide
    have hcatch : Statement.classify (Text.trim "\x7d catch (e) \x7b".toList) =
        .orphan .catchBlock := by decide
    have hbrace : Statement.classify (Text.trim "\x7d".toList) = .structural := by decide
    rcases i with _ | _ | _ | i
    · obtain rfl := Option.some.inj hline
      simp only [hopener]
      decide
    · obtain rfl := Option.some.inj hline
      simp only [hcatch]
      decide
    · obtain rfl := Option.some.inj hline
      simp only [hbrace]
    · omega
  obtain ⟨_, _, _, _, hexecuted, _⟩ := execute_append s ha hsplit
  exact ⟨ha, hsplit, hexecuted⟩

end Session

end LineScript
