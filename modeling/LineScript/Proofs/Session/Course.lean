import LineScript.Session.Run
import LineScript.Proofs.Program.Numbered

/-! The course of a try construct. `RunsUpTo` says which statements of a region are run, `Handled`
what the body and the handler come to, and `Course` adds the cleanup. None of them follows the
functions that run a construct; main statement is `runSteps_tryOpener`, by which a construct without
a nested try takes this course with the statements on the lines of its regions, and the program goes on
behind it. -/

namespace LineScript

namespace Run

/-! ## Statements in turn -/

/-- The run after statements, one after the other, whatever each of them ends in. -/
def perform (r : Run) (items : List Item) : Run := items.foldl (fun r i => (r.runItem i).2) r

@[simp] theorem perform_nil (r : Run) : r.perform [] = r := rfl

@[simp] theorem perform_cons (r : Run) (i : Item) (items : List Item) :
    r.perform (i :: items) = (r.runItem i).2.perform items := rfl

/-- The failure that a statement ends in. -/
def failureOf (r : Run) (i : Item) : Option LineFailure := (r.runItem i).1

/-- No statement fails when they are run in turn. -/
def Quiet (r : Run) (items : List Item) : Prop :=
  ∀ before i after, items = before ++ i :: after → (r.perform before).failureOf i = none

theorem Quiet.nil (r : Run) : r.Quiet [] := by
  intro before i after h
  simp at h

theorem Quiet.cons {r : Run} {i : Item} {items : List Item} (hi : r.failureOf i = none)
    (h : (r.runItem i).2.Quiet items) : r.Quiet (i :: items) := by
  intro before j after heq
  cases before with
  | nil =>
    obtain ⟨rfl, _⟩ := List.cons.inj heq
    exact hi
  | cons k before =>
    obtain ⟨rfl, htail⟩ := List.cons.inj heq
    exact h before j after htail

/-- What is run of statements: all of them if none fails, and otherwise those up to the first that
fails, this one included. -/
inductive RunsUpTo (r : Run) (items : List Item) : List Item → Option LineFailure → Prop where
  | all (h : r.Quiet items) : RunsUpTo r items items none
  | fails {before after : List Item} {i : Item} {e : LineFailure}
      (heq : items = before ++ i :: after) (h : r.Quiet before)
      (he : (r.perform before).failureOf i = some e) :
      RunsUpTo r items (before ++ [i]) (some e)

theorem RunsUpTo.cons {r : Run} {i : Item} {items ran : List Item} {e : Option LineFailure}
    (hi : r.failureOf i = none) (h : (r.runItem i).2.RunsUpTo items ran e) :
    r.RunsUpTo (i :: items) (i :: ran) e := by
  cases h with
  | all h => exact .all (.cons hi h)
  | @fails before after j e heq h he =>
    have hcons : i :: items = (i :: before) ++ j :: after := by rw [heq, List.cons_append]
    exact .fails hcons (.cons hi h) he

theorem exists_runsUpTo (r : Run) (items : List Item) :
    ∃ ran, r.RunsUpTo items ran (r.runItems items).1 ∧ (r.runItems items).2 = r.perform ran := by
  induction items generalizing r with
  | nil => exact ⟨[], .all (.nil r), rfl⟩
  | cons i items ih =>
    cases hi : r.failureOf i with
    | some e =>
      have hrun : r.runItems (i :: items) = (some e, (r.runItem i).2) := by
        rw [runItems, show r.runItem i = (some e, (r.runItem i).2) from Prod.ext hi rfl]
      refine ⟨[i], ?_, by rw [hrun]; rfl⟩
      rw [hrun]
      have hfirst : i :: items = [] ++ i :: items := rfl
      exact .fails hfirst (.nil r) hi
    | none =>
      have hrun : r.runItems (i :: items) = (r.runItem i).2.runItems items := by
        rw [runItems, show r.runItem i = (none, (r.runItem i).2) from Prod.ext hi rfl]
      obtain ⟨ran, hran, hstate⟩ := ih (r.runItem i).2
      rw [hrun]
      exact ⟨i :: ran, .cons hi hran, hstate⟩

/-- Statements by themselves report nothing. -/
theorem failures_perform (r : Run) (items : List Item) :
    (r.perform items).report.failures = r.report.failures := by
  induction items generalizing r with
  | nil => rfl
  | cons i items ih =>
    rw [perform_cons, ih]
    simp only [runItem]
    split <;> rfl

end Run

/-! ## The handler -/

/-- A session that differs from another in nothing but that the variables of a handler hold the
message of a failure. -/
structure Session.Catches (s t : Session) (failure : Failure) (binding : Option Text) : Prop where
  bound : ∀ name ∈ errorVariables ++ binding.toList,
    t.vars.get? name = some (.str failure.message)
  others : ∀ name, name ∉ errorVariables ++ binding.toList → t.vars.get? name = s.vars.get? name
  frame : t = { s with vars := t.vars }

theorem Session.get?_assignAll (s : Session) (names : List Text) (v : Value) (name : Text) :
    (names.foldl (fun s name => s.assign name v) s).vars.get? name =
      if name ∈ names then some v else s.vars.get? name := by
  induction names generalizing s with
  | nil => simp
  | cons first names ih =>
    rw [List.foldl_cons, ih]
    by_cases hm : name ∈ names
    · simp [hm]
    · by_cases heq : name = first
      · subst heq
        simp [hm, assign, Entries.get?_insert_self]
      · simp [hm, heq, assign, Entries.get?_insert_of_ne heq]

theorem Session.frame_assignAll (s : Session) (names : List Text) (v : Value) :
    names.foldl (fun s name => s.assign name v) s =
      { s with vars := (names.foldl (fun s name => s.assign name v) s).vars } := by
  induction names generalizing s with
  | nil => rfl
  | cons first names ih =>
    rw [List.foldl_cons]
    exact ih (s.assign first v)

theorem Session.catches_bindError (s : Session) (failure : Failure) (binding : Option Text) :
    s.Catches (s.bindError failure binding) failure binding where
  bound name hm := by rw [bindError, get?_assignAll, if_pos hm]
  others name hm := by rw [bindError, get?_assignAll, if_neg hm]
  frame := s.frame_assignAll _ _

namespace Run

/-- What the body of a construct and its handler come to: the failure that is left, and the run. -/
inductive Handled (a : Attempt) (r : Run) : Option LineFailure → Run → Prop where
  /-- The body does not fail, and the handler is not run. -/
  | quiet {ran : List Item} (hb : r.RunsUpTo a.body ran none) : Handled a r none (r.perform ran)
  /-- The body fails, and there is no handler. -/
  | uncaught {ran : List Item} {e : LineFailure} (hb : r.RunsUpTo a.body ran (some e))
      (hh : a.handler = none) : Handled a r (some e) (r.perform ran)
  /-- The body fails, and the handler is run. -/
  | caught {ran items ran' : List Item} {e : LineFailure} {e' : Option LineFailure} {s : Session}
      (hb : r.RunsUpTo a.body ran (some e)) (hh : a.handler = some items)
      (hs : (r.perform ran).session.Catches s e.failure a.binding)
      (hr : { r.perform ran with session := s }.RunsUpTo items ran' e') :
      Handled a r e' ({ r.perform ran with session := s }.perform ran')

/-- What a construct comes to. The cleanup is run once, behind everything else, and its failure goes
before the one that is left. -/
inductive Course (a : Attempt) (r : Run) : Option LineFailure → Run → Prop where
  | plain {e : Option LineFailure} {r' : Run} (h : Handled a r e r') (hc : a.cleanup = none) :
      Course a r e r'
  | cleaned {e e' : Option LineFailure} {r' : Run} {items ran : List Item} (h : Handled a r e r')
      (hc : a.cleanup = some items) (hr : r'.RunsUpTo items ran e') :
      Course a r (e'.or e) (r'.perform ran)

theorem handled_runBody (r : Run) (a : Attempt) : Handled a r (r.runBody a).1 (r.runBody a).2 := by
  obtain ⟨ran, hran, hstate⟩ := r.exists_runsUpTo a.body
  cases hrun : r.runItems a.body with
  | mk e r₁ =>
    rw [hrun] at hran hstate
    simp only at hran hstate
    subst hstate
    cases e with
    | none =>
      simp only [runBody, hrun]
      exact .quiet hran
    | some e =>
      cases hh : a.handler with
      | none =>
        simp only [runBody, hrun, runHandler, hh]
        exact .uncaught hran hh
      | some items =>
        simp only [runBody, hrun, runHandler, hh]
        obtain ⟨ran', hran', hstate'⟩ := exists_runsUpTo
          { r.perform ran with
            session := (r.perform ran).session.bindError e.failure a.binding } items
        rw [hstate']
        exact .caught hran hh ((r.perform ran).session.catches_bindError _ _) hran'

theorem course_runAttempt (r : Run) {a : Attempt} (hn : a.nestedTry = none) :
    Course a r.count (r.runAttempt a).1 (r.runAttempt a).2 := by
  have hhandled := r.count.handled_runBody a
  cases hbody : r.count.runBody a with
  | mk pending r₁ =>
    rw [hbody] at hhandled
    cases hc : a.cleanup with
    | none =>
      simp only [runAttempt, hn, hbody, hc]
      exact .plain hhandled hc
    | some items =>
      obtain ⟨ran, hran, hstate⟩ := r₁.exists_runsUpTo items
      cases hrun : r₁.runItems items with
      | mk e r₂ =>
        rw [hrun] at hran hstate
        simp only at hran hstate
        subst hstate
        have hcleaned := Course.cleaned hhandled hc hran
        cases e with
        | none => simpa only [runAttempt, hn, hbody, hc, hrun, Option.none_or] using hcleaned
        | some e => simpa only [runAttempt, hn, hbody, hc, hrun, Option.some_or] using hcleaned

theorem Handled.failures {a : Attempt} {r r' : Run} {e : Option LineFailure}
    (h : Handled a r e r') : r'.report.failures = r.report.failures := by
  cases h with
  | quiet => exact failures_perform _ _
  | uncaught => exact failures_perform _ _
  | caught =>
    rw [failures_perform]
    exact failures_perform _ _

theorem Course.failures {a : Attempt} {r r' : Run} {e : Option LineFailure}
    (h : Course a r e r') : r'.report.failures = r.report.failures := by
  cases h with
  | plain h => exact h.failures
  | cleaned h => rw [failures_perform, h.failures]

/-- The run with a failure reported, if there is one. -/
def reportAny (r : Run) : Option LineFailure → Run
  | none => r
  | some e => r.reportFailure e

theorem runStep_item (r : Run) (i : Item) :
    r.runStep (.item i) = (r.runItem i).2.reportAny (r.runItem i).1 := by
  simp only [runStep, reportAny]
  split <;> simp_all

theorem runStep_attempt (r : Run) (a : Attempt) :
    r.runStep (.attempt a) = (r.runAttempt a).2.reportAny (r.runAttempt a).1 := by
  simp only [runStep, reportAny]
  split <;> simp_all

theorem runSteps_cons (r : Run) (step : Step) (steps : List Step) :
    r.runSteps (step :: steps) = (r.runStep step).runSteps steps := rfl

/-- A construct without a nested try takes its course and reports at most the failure that this
leaves, and the program goes on behind the construct. Its body, its handler and its cleanup are the
statements on the lines of its regions, and the handler binds the name that its line gives. -/
theorem runSteps_tryOpener {lines : List Text} {i : Nat} {line : Text}
    (hline : lines[i]? = some line) (ht : Statement.classify line.trim = .tryOpener)
    (hn : (Construct.scan lines i).nestedTry = none) (r : Run) :
    let c := Construct.scan lines i
    let a := Program.attemptAt lines i
    (Program.regionNumbered lines c.tryRegion = some a.body ∧
      c.catchRegion.mapM (Program.regionNumbered lines) = some a.handler ∧
      c.finallyRegion.mapM (Program.regionNumbered lines) = some a.cleanup ∧
      a.binding = c.binding) ∧
    ∃ e r', Course a r.count e r' ∧
      r'.report.failures = r.report.failures ∧
      r.runSteps (Program.readFrom i (lines.drop i)) =
        (r'.reportAny e).runSteps (Program.readFrom c.resumeAt (lines.drop c.resumeAt)) := by
  intro c a
  obtain ⟨hi, _⟩ := List.getElem?_eq_some_iff.mp hline
  have hnested : a.nestedTry = none := by
    simp only [a, Program.attemptAt, Program.attemptOf, hn, Option.map_none]
  have hcourse := r.course_runAttempt hnested
  refine ⟨Program.attemptAt_regions hi, _, _, hcourse, hcourse.failures, ?_⟩
  rw [Program.readFrom_tryOpener hline ht, runSteps_cons, runStep_attempt]

/-- A body that fails in its first statement: the second is not run, and the handler shows the message. -/
theorem runSteps_tryOpener_throw :
    let lines := ["try \x7b".toList, "throw('boom')".toList, "print(1)".toList,
      "\x7d catch (e) \x7b".toList, "print(e)".toList, "\x7d".toList]
    let r : Run := ⟨.start [] ⟨.withAnswers [], .ofSeed 0, fun _ _ => [], 0⟩, ⟨0, []⟩⟩
    let a := Program.attemptAt lines 0
    let behind := r.runSteps (Program.readFrom 0 lines)
    (Construct.scan lines 0).nestedTry = none ∧
    Program.regionNumbered lines (Construct.scan lines 0).tryRegion = some a.body ∧
    a.body.map Item.line = [2, 3] ∧ a.handler.map (·.map Item.line) = some [5] ∧
    (∃ e r', Course a r.count e r' ∧ r'.report.failures = [] ∧
      behind = (r'.reportAny e).runSteps []) ∧
    (∀ name ∈ ["error".toList, "错误".toList, "e".toList],
      (behind.session.vars.get? name).map Value.display = some "boom".toList) ∧
    behind.session.host.console.lines = ["boom".toList] ∧
    behind.report.executed = 3 ∧ behind.report.failures = [] := by
  intro lines r a behind
  have hn : (Construct.scan lines 0).nestedTry = none := by decide
  have hline : lines[0]? = some "try \x7b".toList := rfl
  obtain ⟨⟨hbody, -, -, -⟩, e, r', hcourse, hfailures, hrun⟩ :=
    runSteps_tryOpener hline (by decide) hn r
  have hresume : (Construct.scan lines 0).resumeAt = 6 := by decide
  rw [hresume, List.drop_zero, show lines.drop 6 = [] from rfl, Program.readFrom] at hrun
  refine ⟨hn, hbody, by decide +kernel, by decide +kernel, ⟨e, r', hcourse, hfailures, hrun⟩, ?_⟩
  decide +kernel

end Run

end LineScript
