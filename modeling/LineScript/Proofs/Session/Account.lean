import Mathlib.Data.List.Forall2
import LineScript.Proofs.Program.Sequence
import LineScript.Proofs.Session.Course
import LineScript.Proofs.Session.Effects

/-! What a run does, act by act. The acts of a run (`Run.acts`) are its dispatches, the bindings of
failures for handlers, and the reports; done in turn they are the run (`replay_acts`). The dispatches are
some of those that the outline has, in its order (`dispatches_acts`), a failure is reported on a line of
the step that it ends (`reported_acts`), and each act shows what it may (`shows_acts`). Main statement:
`execute_account`. -/

namespace LineScript

/-- Something that a run does. -/
inductive Act where
  | dispatch (d : Dispatch)
  /-- Binds the message of a failure for a handler. -/
  | catching (failure : Failure) (binding : Option Text)
  /-- Reports a failure. -/
  | report (e : LineFailure)
deriving DecidableEq

namespace Act

/-- The dispatch that an act is. -/
def dispatch? : Act → Option Dispatch
  | dispatch d => some d
  | _ => none

/-- The failure that an act reports. -/
def reported? : Act → Option LineFailure
  | report e => some e
  | _ => none

/-- What an act can put on the console. A report is one line, and so is the warning about a region
without a try; only another statement can put anything else there. -/
def Shows : Act → List ConsoleEvent → Prop
  | dispatch (.construct _), events => events = []
  | dispatch (.statement i), events => ∀ kind, i.statement = .orphan kind →
      events = [.line ("[warn] line ".toList ++ Text.ofNat i.line ++ ": ".toList ++
        Session.orphanWord kind ++ " without try".toList)]
  | catching .., events => events = []
  | report e, events => events = [.line ("[error] line ".toList ++ Text.ofNat e.line ++
      ": ".toList ++ e.failure.message)]

end Act

namespace Run

/-- The run after an act. -/
def act (r : Run) : Act → Run
  | .dispatch (.construct _) => r.count
  | .dispatch (.statement i) => (r.runItem i).2
  | .catching failure binding => { r with session := r.session.bindError failure binding }
  | .report e => r.reportFailure e

/-! ## The acts of a run -/

/-- The acts of running statements up to the first failure. -/
def actsOfItems (r : Run) : List Item → List Act
  | [] => []
  | i :: rest =>
    match r.runItem i with
    | (some _, _) => [.dispatch (.statement i)]
    | (none, r) => .dispatch (.statement i) :: r.actsOfItems rest

/-- The acts of running the handler of a construct. -/
def actsOfHandler (r : Run) (a : Attempt) (e : LineFailure) : List Act :=
  match a.handler with
  | none => []
  | some items =>
    .catching e.failure a.binding ::
      { r with session := r.session.bindError e.failure a.binding }.actsOfItems items

/-- The acts of running the body of a construct and, if it fails, the handler. -/
def actsOfBody (r : Run) (a : Attempt) : List Act :=
  match r.runItems a.body with
  | (none, _) => r.actsOfItems a.body
  | (some e, r') => r.actsOfItems a.body ++ r'.actsOfHandler a e

/-- The acts of running a construct. -/
def actsOfAttempt (r : Run) (a : Attempt) : List Act :=
  .dispatch (.construct a.line) ::
    match a.nestedTry with
    | some _ => []
    | none =>
      match a.cleanup with
      | none => r.count.actsOfBody a
      | some items => r.count.actsOfBody a ++ (r.count.runBody a).2.actsOfItems items

/-- The acts of running a step and reporting the failure it ends in. -/
def actsOfStep (r : Run) : Step → List Act
  | .item i => .dispatch (.statement i) :: ((r.runItem i).1.map .report).toList
  | .attempt a => r.actsOfAttempt a ++ ((r.runAttempt a).1.map .report).toList

/-- The acts of running steps in turn. -/
def acts (r : Run) : List Step → List Act
  | [] => []
  | step :: steps => r.actsOfStep step ++ (r.runStep step).acts steps

/-! ## The run is its acts -/

/-- Acts that lead from one run to another. Nothing is reported among them, and the dispatches are some of
`plan`, in this order. -/
structure Does (r : Run) (acts : List Act) (plan : List Dispatch) (r' : Run) : Prop where
  replay : acts.foldl act r = r'
  unreported : acts.filterMap Act.reported? = []
  dispatched : (acts.filterMap Act.dispatch?).Sublist plan

variable {r r' r'' : Run} {acts acts' : List Act} {plan plan' : List Dispatch}

theorem Does.nil (r : Run) (plan : List Dispatch) : Does r [] plan r :=
  ⟨rfl, rfl, List.nil_sublist plan⟩

theorem Does.dispatch (d : Dispatch) (h : Does (r.act (.dispatch d)) acts plan r') :
    Does r (.dispatch d :: acts) (d :: plan) r' :=
  ⟨h.replay, h.unreported, h.dispatched.cons_cons d⟩

theorem Does.catching (failure : Failure) (binding : Option Text)
    (h : Does (r.act (.catching failure binding)) acts plan r') :
    Does r (.catching failure binding :: acts) plan r' :=
  ⟨h.replay, h.unreported, h.dispatched⟩

theorem Does.append (h : Does r acts plan r') (h' : Does r' acts' plan' r'') :
    Does r (acts ++ acts') (plan ++ plan') r'' where
  replay := by rw [List.foldl_append, h.replay, h'.replay]
  unreported := by rw [List.filterMap_append, h.unreported, h'.unreported, List.append_nil]
  dispatched := by
    rw [List.filterMap_append]
    exact h.dispatched.append h'.dispatched

theorem Does.mono (h : Does r acts plan r') (hp : plan.Sublist plan') : Does r acts plan' r' :=
  { h with dispatched := h.dispatched.trans hp }

theorem does_items (r : Run) (items : List Item) :
    Does r (r.actsOfItems items) (items.map .statement) (r.runItems items).2 := by
  induction items generalizing r with
  | nil => exact .nil r []
  | cons i rest ih =>
    have hact : r.act (.dispatch (.statement i)) = (r.runItem i).2 := rfl
    rw [actsOfItems, runItems, List.map_cons]
    cases hrun : r.runItem i with
    | mk failure r' =>
      rw [hrun] at hact
      cases failure with
      | some e =>
        refine .dispatch _ ?_
        rw [hact]
        exact .nil r' _
      | none =>
        refine .dispatch _ ?_
        rw [hact]
        exact ih r'

theorem does_handler (r : Run) (a : Attempt) (e : LineFailure) :
    Does r (r.actsOfHandler a e) ((a.handler.getD []).map .statement) (r.runHandler a e).2 := by
  rw [actsOfHandler, runHandler]
  cases a.handler with
  | none => exact .nil r _
  | some items => exact .catching _ _ (does_items _ items)

theorem does_body (r : Run) (a : Attempt) :
    Does r (r.actsOfBody a) ((a.body ++ a.handler.getD []).map .statement) (r.runBody a).2 := by
  have hbody := r.does_items a.body
  rw [actsOfBody, runBody, List.map_append]
  cases hrun : r.runItems a.body with
  | mk failure r' =>
    rw [hrun] at hbody
    cases failure with
    -- Without a failure the handler is not run, and its dispatches are left out.
    | none => exact hbody.mono (List.sublist_append_left _ _)
    | some e => exact hbody.append (r'.does_handler a e)

theorem does_attempt (r : Run) (a : Attempt) :
    Does r (r.actsOfAttempt a) (Step.attempt a).dispatches (r.runAttempt a).2 := by
  have hbody := r.count.does_body a
  refine .dispatch (.construct a.line) ?_
  rw [runAttempt, Attempt.items, List.map_append]
  cases a.nestedTry with
  | some line => exact .nil r.count _
  | none =>
    cases hc : a.cleanup with
    | none => exact hbody.mono (List.sublist_append_left _ _)
    | some items =>
      have hcleanup := hbody.append ((r.count.runBody a).2.does_items items)
      simp only
      split <;> next heq =>
        rw [heq] at hcleanup
        exact hcleanup

/-- What running a step comes to before a failure is reported. -/
def outcome (r : Run) : Step → Option LineFailure × Run
  | .item i => r.runItem i
  | .attempt a => r.runAttempt a

theorem runStep_eq (r : Run) (step : Step) :
    r.runStep step = (r.outcome step).2.reportAny (r.outcome step).1 := by
  cases step with
  | item i => exact r.runStep_item i
  | attempt a => exact r.runStep_attempt a

/-- A step does what it does, and then reports the failure it has ended in. -/
theorem exists_actsOfStep (r : Run) (step : Step) : ∃ acts,
    r.actsOfStep step = acts ++ ((r.outcome step).1.map Act.report).toList ∧
      Does r acts step.dispatches (r.outcome step).2 := by
  cases step with
  | item i => exact ⟨[.dispatch (.statement i)], rfl, .dispatch _ (.nil _ [])⟩
  | attempt a => exact ⟨r.actsOfAttempt a, rfl, r.does_attempt a⟩

theorem filterMap_reported_report (failure : Option LineFailure) :
    (failure.map Act.report).toList.filterMap Act.reported? = failure.toList := by
  cases failure <;> rfl

theorem filterMap_dispatch_report (failure : Option LineFailure) :
    (failure.map Act.report).toList.filterMap Act.dispatch? = [] := by
  cases failure <;> rfl

theorem replay_actsOfStep (r : Run) (step : Step) :
    (r.actsOfStep step).foldl act r = r.runStep step := by
  obtain ⟨acts, hacts, hdoes⟩ := r.exists_actsOfStep step
  rw [hacts, List.foldl_append, hdoes.replay, runStep_eq]
  cases (r.outcome step).1 <;> rfl

theorem reported_actsOfStep (r : Run) (step : Step) :
    (r.actsOfStep step).filterMap Act.reported? = (r.outcome step).1.toList := by
  obtain ⟨acts, hacts, hdoes⟩ := r.exists_actsOfStep step
  rw [hacts, List.filterMap_append, hdoes.unreported, filterMap_reported_report, List.nil_append]

theorem dispatches_actsOfStep (r : Run) (step : Step) :
    ((r.actsOfStep step).filterMap Act.dispatch?).Sublist step.dispatches := by
  obtain ⟨acts, hacts, hdoes⟩ := r.exists_actsOfStep step
  rw [hacts, List.filterMap_append, filterMap_dispatch_report, List.append_nil]
  exact hdoes.dispatched

theorem replay_acts (r : Run) (steps : List Step) :
    (r.acts steps).foldl act r = r.runSteps steps := by
  induction steps generalizing r with
  | nil => rfl
  | cons step steps ih =>
    rw [Run.acts, List.foldl_append, replay_actsOfStep, ih, runSteps_cons]

/-- Nothing is dispatched but what the steps can dispatch, in their order. -/
theorem dispatches_acts (r : Run) (steps : List Step) :
    ((r.acts steps).filterMap Act.dispatch?).Sublist (steps.flatMap Step.dispatches) := by
  induction steps generalizing r with
  | nil => exact .slnil
  | cons step steps ih =>
    rw [Run.acts, List.filterMap_append, List.flatMap_cons]
    exact (r.dispatches_actsOfStep step).append (ih _)

/-! ## Failures -/

theorem failures_act (r : Run) (a : Act) :
    (r.act a).report.failures = r.report.failures ++ a.reported?.toList := by
  cases a with
  | dispatch d =>
    have hkept : (r.act (.dispatch d)).report.failures = r.report.failures := by
      cases d with
      | construct line => rfl
      | statement i => exact r.failures_perform [i]
    rw [hkept]
    exact (List.append_nil _).symm
  | catching failure binding => exact (List.append_nil _).symm
  | report e => rfl

/-- The report of a run holds what was reported, in the same order. -/
theorem failures_replay (r : Run) (acts : List Act) :
    (acts.foldl act r).report.failures = r.report.failures ++ acts.filterMap Act.reported? := by
  induction acts generalizing r with
  | nil => exact (List.append_nil _).symm
  | cons a acts ih =>
    rw [List.foldl_cons, ih, failures_act, List.append_assoc]
    cases h : a.reported? <;> simp [h]

theorem line_of_runItem {r : Run} {i : Item} {e : LineFailure} (h : (r.runItem i).1 = some e) :
    e.line = i.line := by
  obtain ⟨failure, _, rfl⟩ := Option.map_eq_some_iff.mp h
  rfl

theorem line_of_runItems {r : Run} {items : List Item} {e : LineFailure}
    (h : (r.runItems items).1 = some e) : ∃ i ∈ items, i.line = e.line := by
  induction items generalizing r with
  | nil => cases h
  | cons i rest ih =>
    rw [runItems] at h
    split at h
    · next e' _ hrun =>
      obtain rfl := Option.some.inj h
      exact ⟨i, List.mem_cons_self, (line_of_runItem (congrArg Prod.fst hrun)).symm⟩
    · obtain ⟨j, hj, hline⟩ := ih h
      exact ⟨j, List.mem_cons_of_mem i hj, hline⟩

theorem line_of_runBody {r : Run} {a : Attempt} {e : LineFailure}
    (h : (r.runBody a).1 = some e) : ∃ i ∈ a.body ++ a.handler.getD [], i.line = e.line := by
  rw [runBody] at h
  split at h
  · cases h
  · next e' r' hrun =>
    cases hh : a.handler with
    | none =>
      rw [runHandler, hh] at h
      obtain rfl := Option.some.inj h
      obtain ⟨i, hi, hline⟩ := line_of_runItems (congrArg Prod.fst hrun)
      exact ⟨i, List.mem_append_left _ hi, hline⟩
    | some items =>
      rw [runHandler, hh] at h
      obtain ⟨i, hi, hline⟩ := line_of_runItems h
      exact ⟨i, List.mem_append_right _ hi, hline⟩

/-- A construct fails on one of its lines. -/
theorem line_of_runAttempt {r : Run} {a : Attempt} {e : LineFailure}
    (h : (r.runAttempt a).1 = some e) : e.line ∈ a.numbers := by
  rw [Attempt.mem_numbers, Attempt.items]
  cases hn : a.nestedTry with
  | some line =>
    simp only [runAttempt, hn, Option.some.injEq] at h
    exact Or.inr (Or.inl (congrArg some (congrArg LineFailure.line h)))
  | none =>
    refine Or.inr (Or.inr ?_)
    have hbody : (r.count.runBody a).1 = some e →
        ∃ i ∈ a.body ++ a.handler.getD [] ++ a.cleanup.getD [], i.line = e.line := by
      intro hb
      obtain ⟨i, hi, hline⟩ := line_of_runBody hb
      exact ⟨i, List.mem_append_left _ hi, hline⟩
    cases hc : a.cleanup with
    | none =>
      simp only [runAttempt, hn, hc] at h
      rw [hc] at hbody
      exact hbody h
    | some items =>
      rw [hc] at hbody
      simp only [runAttempt, hn, hc] at h
      split at h
      · next e' _ hrun =>
        obtain rfl := Option.some.inj h
        obtain ⟨i, hi, hline⟩ := line_of_runItems (congrArg Prod.fst hrun)
        exact ⟨i, List.mem_append_right _ hi, hline⟩
      · exact hbody h

theorem line_of_outcome {r : Run} {step : Step} {e : LineFailure}
    (h : (r.outcome step).1 = some e) : e.line ∈ step.numbers := by
  cases step with
  | item i => exact List.mem_singleton.mpr (line_of_runItem h)
  | attempt a => exact line_of_runAttempt h

/-- What is reported is on a line of one of the steps. -/
theorem line_of_reported {r : Run} {steps : List Step} {e : LineFailure}
    (h : e ∈ (r.acts steps).filterMap Act.reported?) : ∃ step ∈ steps, e.line ∈ step.numbers := by
  induction steps generalizing r with
  | nil => simp [Run.acts] at h
  | cons step steps ih =>
    rw [Run.acts, List.filterMap_append, reported_actsOfStep, List.mem_append,
      Option.mem_toList] at h
    rcases h with h | h
    · exact ⟨step, List.mem_cons_self, line_of_outcome h⟩
    · obtain ⟨step', hstep', hline⟩ := ih h
      exact ⟨step', List.mem_cons_of_mem step hstep', hline⟩

/-- Steps whose numbers grow report failures on growing lines. -/
theorem pairwise_reported (r : Run) {steps : List Step}
    (h : steps.Pairwise fun step step' => ∀ n ∈ step.numbers, ∀ n' ∈ step'.numbers, n < n') :
    ((r.acts steps).filterMap Act.reported?).Pairwise (·.line < ·.line) := by
  induction h generalizing r with
  | nil => exact .nil
  | @cons step steps hlt _ ih =>
    rw [Run.acts, List.filterMap_append, reported_actsOfStep, List.pairwise_append]
    refine ⟨?_, ih _, ?_⟩
    · cases (r.outcome step).1 with
      | none => exact .nil
      | some e => exact List.pairwise_singleton _ _
    · intro e he e' he'
      obtain ⟨step', hstep', hline'⟩ := line_of_reported he'
      exact hlt step' hstep' _ (line_of_outcome (Option.mem_toList.mp he)) _ hline'

/-! ## Counting -/

/-- A statement that does not count does not fail. -/
theorem counts_of_fails {s : Session} {i : Item} {failure : Failure}
    (h : (s.runItem i).1 = some failure) : i.statement.counts = true := by
  obtain ⟨line, statement⟩ := i
  cases statement with
  | structural => cases h
  | declaration keyword signature => cases h
  | orphan kind => cases h
  | _ => rfl

theorem executed_runItem (r : Run) (i : Item) :
    (r.runItem i).2.report.executed =
      r.report.executed + if i.statement.counts then 1 else 0 := by
  simp only [runItem]
  split <;> rfl

theorem executed_act (r : Run) (a : Act) : r.report.executed ≤ (r.act a).report.executed := by
  cases a with
  | dispatch d =>
    cases d with
    | construct line => exact Nat.le_succ _
    | statement i =>
      rw [act, executed_runItem]
      exact Nat.le_add_right _ _
  | catching failure binding => exact Nat.le_refl _
  | report e => exact Nat.le_refl _

theorem executed_replay (r : Run) (acts : List Act) :
    r.report.executed ≤ (acts.foldl act r).report.executed := by
  induction acts generalizing r with
  | nil => exact Nat.le_refl _
  | cons a acts ih => exact Nat.le_trans (r.executed_act a) (ih _)

/-- A step that fails has counted at least once. -/
theorem executed_outcome {r : Run} {step : Step} {e : LineFailure}
    (h : (r.outcome step).1 = some e) :
    r.report.executed < (r.outcome step).2.report.executed := by
  cases step with
  | item i =>
    obtain ⟨failure, hfails, _⟩ := Option.map_eq_some_iff.mp h
    rw [outcome, executed_runItem, if_pos (counts_of_fails hfails)]
    exact Nat.lt_succ_self _
  | attempt a =>
    -- A construct counts before anything in it is run.
    rw [outcome, ← (r.does_attempt a).replay]
    exact Nat.lt_of_succ_le (executed_replay r.count _)

theorem failures_outcome (r : Run) (step : Step) :
    (r.outcome step).2.report.failures = r.report.failures := by
  obtain ⟨acts, _, hdoes⟩ := r.exists_actsOfStep step
  rw [← hdoes.replay, failures_replay, hdoes.unreported, List.append_nil]

theorem failures_le_executed (r : Run) (steps : List Step)
    (h : r.report.failures.length ≤ r.report.executed) :
    (r.runSteps steps).report.failures.length ≤ (r.runSteps steps).report.executed := by
  induction steps generalizing r with
  | nil => exact h
  | cons step steps ih =>
    rw [runSteps_cons]
    refine ih _ ?_
    have hkept := r.failures_outcome step
    rw [runStep_eq]
    cases hout : (r.outcome step).1 with
    | none =>
      obtain ⟨acts, _, hdoes⟩ := r.exists_actsOfStep step
      have hmono := r.executed_replay acts
      rw [hdoes.replay] at hmono
      rw [reportAny, hkept]
      exact Nat.le_trans h hmono
    | some e =>
      have hcounted := executed_outcome hout
      rw [reportAny, reportFailure, hkept, List.length_append, List.length_singleton]
      exact Nat.le_trans (Nat.succ_le_succ h) hcounted

/-! ## The log -/

theorem session_runItem (r : Run) (i : Item) :
    (r.runItem i).2.session = (r.session.runItem i).2 := by
  simp only [runItem]
  split <;> rfl

/-- A statement knows nothing of the number of its line, but for a region without a try. -/
theorem act_relined (r : Run) {i : Item} (h : ∀ kind, i.statement ≠ .orphan kind) (n : Nat) :
    r.act (.dispatch (.statement { i with line := n })) = r.act (.dispatch (.statement i)) := by
  obtain ⟨line, statement⟩ := i
  cases statement with
  | orphan kind => exact absurd rfl (h kind)
  | _ => rfl

theorem host_bindError (s : Session) (failure : Failure) (binding : Option Text) :
    (s.bindError failure binding).host = s.host := by
  have hframe := (s.catches_bindError failure binding).frame
  rw [hframe]

theorem shows_act (r : Run) (a : Act) : ∃ events, a.Shows events ∧
    r.session.host.console.Records events (r.act a).session.host.console := by
  cases a with
  | dispatch d =>
    cases d with
    | construct line => exact ⟨[], rfl, .nil _⟩
    | statement i =>
      by_cases horphan : ∃ kind, i.statement = .orphan kind
      · obtain ⟨line, statement⟩ := i
        obtain ⟨kind, rfl⟩ := horphan
        refine ⟨_, ?_, .record r.session.host.console _⟩
        intro kind' hkind
        obtain rfl := Statement.orphan.inj hkind
        rfl
      · obtain ⟨events, hrecords⟩ := kept_records.runItem r.session i
        rw [← session_runItem] at hrecords
        exact ⟨events, fun kind hkind => absurd ⟨kind, hkind⟩ horphan, hrecords⟩
  | catching failure binding =>
    have hhost := host_bindError r.session failure binding
    refine ⟨[], rfl, ?_⟩
    simp only [act, hhost]
    exact .nil _
  | report e =>
    have hmessage : "[error] ".toList ++ e.message = "[error] line ".toList ++ Text.ofNat e.line ++
        ": ".toList ++ e.failure.message := rfl
    refine ⟨_, rfl, ?_⟩
    rw [← hmessage]
    exact .record r.session.host.console _

/-- What acts put on the console comes in their order, and nothing else is put there. -/
theorem shows_acts (r : Run) (acts : List Act) : ∃ outputs, List.Forall₂ Act.Shows acts outputs ∧
    r.session.host.console.Records outputs.flatten (acts.foldl act r).session.host.console := by
  induction acts generalizing r with
  | nil => exact ⟨[], .nil, .nil _⟩
  | cons a acts ih =>
    obtain ⟨events, hshows, hrecords⟩ := r.shows_act a
    obtain ⟨outputs, hall, hrest⟩ := ih (r.act a)
    exact ⟨events :: outputs, .cons hshows hall, hrecords.append hrest⟩

end Run

/-- The account of a run, whatever the session and the text are. The acts are the run. The reported
failures come line after line, on lines of the text, and are no more than the statements that were run;
each is one act, in the same order, and puts its one line on the console behind what the acts before it
have put there. Other statements than regions without a try do the same on any line, so none of them says
on which line it fails. A dispatched line says what it is dispatched as, and no line is dispatched twice,
but that a `try` with an inline body is dispatched once as the construct and once as the body. -/
theorem Session.execute_account (s : Session) (source : Text) :
    let lines := Text.lines source
    let report := (s.execute source).1
    let acts := Run.acts ⟨s, ⟨0, []⟩⟩ (Program.read lines)
    acts.foldl Run.act ⟨s, ⟨0, []⟩⟩ = ⟨(s.execute source).2, report⟩ ∧
    report.failures.Pairwise (·.line < ·.line) ∧
    (∀ e ∈ report.failures, 1 ≤ e.line ∧ e.line ≤ lines.length) ∧
    report.failures.length ≤ report.executed ∧
    acts.filterMap Act.reported? = report.failures ∧
    (∃ outputs, List.Forall₂ Act.Shows acts outputs ∧
      (s.execute source).2.host.console.log =
        (outputs.flatten.foldl Console.record s.host.console).log) ∧
    (∀ (r : Run) (i : Item), (∀ kind, i.statement ≠ .orphan kind) →
      ∀ n, r.act (.dispatch (.statement { i with line := n })) =
        r.act (.dispatch (.statement i))) ∧
    (∀ d, .dispatch d ∈ acts → d.Says lines) ∧
    (∀ n, Dispatch.Once lines n ((acts.filterMap Act.dispatch?).filter (·.line = n))) := by
  intro lines report acts
  have hreplay : acts.foldl Run.act ⟨s, ⟨0, []⟩⟩ = ⟨(s.execute source).2, report⟩ :=
    Run.replay_acts _ _
  have hreported : acts.filterMap Act.reported? = report.failures := by
    have hfailures := Run.failures_replay ⟨s, ⟨0, []⟩⟩ acts
    rw [hreplay] at hfailures
    exact hfailures.symm
  have hdispatches := Run.dispatches_acts ⟨s, ⟨0, []⟩⟩ (Program.read lines)
  refine ⟨hreplay, ?_, ?_, ?_, hreported, ?_, fun r _ h => r.act_relined h, ?_, ?_⟩
  · rw [← hreported]
    exact Run.pairwise_reported _ (Program.pairwise_read lines)
  · intro e he
    rw [← hreported] at he
    obtain ⟨step, hstep, hline⟩ := Run.line_of_reported he
    obtain ⟨k, t, heq, ht, -⟩ := Program.says_of_mem_read hstep hline
    have hk := (List.getElem?_eq_some_iff.mp ht).1
    omega
  · exact Run.failures_le_executed ⟨s, ⟨0, []⟩⟩ (Program.read lines) (Nat.le_refl 0)
  · obtain ⟨outputs, hshows, hrecords⟩ := Run.shows_acts ⟨s, ⟨0, []⟩⟩ acts
    rw [hreplay] at hrecords
    exact ⟨outputs, hshows, hrecords.log⟩
  · intro d hd
    have hmem : d ∈ acts.filterMap Act.dispatch? := List.mem_filterMap.mpr ⟨_, hd, rfl⟩
    obtain ⟨step, hstep, hd⟩ := List.mem_flatMap.mp (hdispatches.subset hmem)
    exact Program.says_of_mem_dispatches hstep hd
  · exact Dispatch.once_of_pairwise ((Program.pairwise_dispatches lines).sublist hdispatches)

/-- An inline body that fails, behind the construct that it belongs to. -/
example :
    let registry := Registry.empty.register ⟨"throw".toList, [], .throw, .traced, none⟩
    let s : Session := ⟨[], registry, [], [], .muted, .ofSeed 0, fun _ _ => [], 0⟩
    Run.acts ⟨s, ⟨0, []⟩⟩ (Program.read ["# a".toList, "try \x7b throw(1) \x7d".toList]) =
      [.dispatch (.construct 2), .dispatch (.statement ⟨2, .call "throw".toList "1".toList⟩),
        .report ⟨2, .thrown "1".toList⟩] := by
  decide +kernel

end LineScript
