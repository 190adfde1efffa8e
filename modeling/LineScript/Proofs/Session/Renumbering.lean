import LineScript.Proofs.Program.Relaid
import LineScript.Proofs.Session.Course
import LineScript.Proofs.Session.Ledger
import LineScript.Proofs.Session.NestedTry

/-! Runs do not depend on the numbers of lines. Evaluation knows of no numbers at all
(`uniform_evalOperand`); statements and constructs show numbers in warnings and in failures, and
nowhere else (`exists_runSteps`). So a text that is laid out in another way is run in the same way,
and what is shown differs in the numbers alone (`execute_relaid`). -/

namespace LineScript

/-! ## Sessions -/

namespace Session

/-- The session with another log. -/
def withLog (s : Session) (log : Array ConsoleEvent) : Session :=
  { s with host := s.host.withLog log }

instance : Ledger Session where
  under base f s entries := s.withLog (logged base f entries)

variable (base : Array ConsoleEvent) (f : Nat → Nat) (s : Session) (entries : Array LogEntry)

@[simp] theorem vars_under : (under base f s entries).vars = s.vars := rfl

@[simp] theorem registry_under : (under base f s entries).registry = s.registry := rfl

@[simp] theorem modules_under : (under base f s entries).modules = s.modules := rfl

theorem assign_under (name : Text) (v : Value) :
    (under base f s entries).assign name v = under base f (s.assign name v) entries := rfl

theorem writeBack_under (receiver : Option Text) (update : Option Value) :
    (under base f s entries).writeBack receiver update =
      under base f (s.writeBack receiver update) entries := by
  cases receiver with
  | none => rfl
  | some name =>
    cases update with
    | none => rfl
    | some v =>
      simp only [writeBack, vars_under, assign_under]
      exact (apply_ite (fun s => under base f s entries) _ _ _).symm

/-- Writing what an entry shows. -/
theorem exists_write (e : (Nat → Nat) → Text) (entry : LogEntry)
    (he : ∀ f, entry.shown f = .line (e f)) :
    ∃ entries', ∀ f, (under base f s entries).write (e f) = under base f s entries' := by
  obtain ⟨entries', hrecord⟩ := s.host.console.exists_record base entries entry
  refine ⟨entries', fun f => ?_⟩
  have hlog := hrecord f
  rw [he f] at hlog
  exact congrArg (fun console => { s with host := { s.host with console } }) hlog

theorem uniform_write {α : Type} (a : α) (t : Text) :
    Uniform fun s : Session => (a, s.write t) := by
  intro base s entries
  obtain ⟨entries', hwrite⟩ :=
    exists_write base s entries (fun _ => t) (.event (.line t)) fun _ => rfl
  exact ⟨a, s, entries', fun f => Prod.ext rfl (hwrite f)⟩

/-! ## Evaluation -/

theorem uniform_invoke (e : Entry) (name : Text) (receiver : Option Text) (args : Arguments) :
    Uniform fun s : Session => s.invoke e name receiver args := by
  intro base s entries
  obtain ⟨⟨result, update⟩, h, entries', hcall⟩ :=
    e.function.uniform_call ⟨name, s.registry, args⟩ base s.host entries
  refine ⟨result, { s with host := h }.writeBack receiver update, entries', fun f => ?_⟩
  obtain ⟨hanswer, hhost⟩ := Prod.mk.inj (hcall f)
  obtain ⟨hresult, hupdate⟩ := Prod.mk.inj hanswer
  have hinvoke : (under base f s entries).invoke e name receiver args =
      ((e.function.call ⟨name, s.registry, args⟩ (under base f s.host entries)).result,
        { s with
          host := (e.function.call ⟨name, s.registry, args⟩ (under base f s.host entries)).host
        }.writeBack receiver
          (e.function.call ⟨name, s.registry, args⟩ (under base f s.host entries)).update) := rfl
  simp only [hinvoke, hresult, hupdate, hhost]
  exact Prod.ext rfl (writeBack_under base f { s with host := h } entries' receiver update)

mutual

theorem uniform_evalOperand (o : Operand) : Uniform fun s : Session => s.evalOperand o := by
  intro base s entries
  cases o with
  | text t =>
    refine ⟨.ok (evaluate t s.vars), s, entries, fun f => ?_⟩
    simp only [evalOperand, vars_under]
  | call t name operands =>
    cases hl : s.registry.lookup? name with
    | none =>
      refine ⟨.ok (evaluate t s.vars), s, entries, fun f => ?_⟩
      simp only [evalOperand, registry_under, hl, vars_under]
    | some e =>
      obtain ⟨args, s', entries', hargs⟩ := uniform_evalOperands operands base s entries
      cases args with
      | error failure =>
        refine ⟨.error failure, s', entries', fun f => ?_⟩
        simp only [evalOperand, registry_under, hl, hargs f]
      | ok args =>
        obtain ⟨result, s'', entries'', hcall⟩ := uniform_invoke e name
          (operands.head?.map Operand.source) args base s' entries'
        refine ⟨result, s'', entries'', fun f => ?_⟩
        simp only [evalOperand, registry_under, hl, hargs f, hcall f]
termination_by structural o

theorem uniform_evalOperands (operands : List Operand) :
    Uniform fun s : Session => s.evalOperands operands := by
  intro base s entries
  cases operands with
  | nil => exact ⟨.ok [], s, entries, fun f => by simp only [evalOperands]⟩
  | cons o rest =>
    obtain ⟨first, s', entries', hfirst⟩ := uniform_evalOperand o base s entries
    cases first with
    | error failure =>
      exact ⟨.error failure, s', entries', fun f => by simp only [evalOperands, hfirst f]⟩
    | ok v =>
      obtain ⟨others, s'', entries'', hothers⟩ := uniform_evalOperands rest base s' entries'
      cases others with
      | error failure =>
        refine ⟨.error failure, s'', entries'', fun f => ?_⟩
        simp only [evalOperands, hfirst f, hothers f]
      | ok vs =>
        refine ⟨.ok (v :: vs), s'', entries'', fun f => ?_⟩
        simp only [evalOperands, hfirst f, hothers f]
termination_by structural operands

end

theorem uniform_eval (t : Text) : Uniform fun s : Session => s.eval t :=
  uniform_evalOperand (Operand.read t)

/-! ## Statements -/

theorem uniform_importModule (name : Text) :
    Uniform fun s : Session => ((none : Option Failure), s.importModule name) := by
  intro base s entries
  cases hm : s.modules.get? name with
  | none =>
    obtain ⟨a, t, entries', hwrite⟩ := uniform_write (none : Option Failure)
      ("[warn] module not found: ".toList ++ name) base s entries
    refine ⟨a, t, entries', fun f => ?_⟩
    simp only [importModule, modules_under, hm, hwrite f]
  | some m =>
    let imported := if s.imported.contains m.name then s.imported else s.imported ++ [m.name]
    obtain ⟨a, t, entries', hwrite⟩ := uniform_write (none : Option Failure)
      ("[import] ".toList ++ m.name ++ " (".toList ++ Text.ofNat m.entries.length ++
        " functions)".toList) base { s with registry := s.registry.merge m, imported } entries
    refine ⟨a, t, entries', fun f => ?_⟩
    simp only [importModule, modules_under, hm]
    exact hwrite f

theorem uniform_runAssignment (name expression : Text) :
    Uniform fun s : Session => s.runAssignment name expression := by
  intro base s entries
  obtain ⟨result, s', entries', heval⟩ := uniform_eval expression base s entries
  cases result with
  | error failure =>
    exact ⟨some failure, s', entries', fun f => by simp only [runAssignment, heval f]⟩
  | ok v =>
    obtain ⟨a, t, entries'', hwrite⟩ := uniform_write (none : Option Failure)
      ("[var] ".toList ++ name ++ " = ".toList ++ v.display) base s' entries'
    refine ⟨a, t.assign name v, entries'', fun f => ?_⟩
    obtain ⟨ha, hstate⟩ := Prod.mk.inj (hwrite f)
    simp only [runAssignment, heval f, hstate, assign_under, ← ha]

theorem uniform_runExpression (t : Text) : Uniform fun s : Session => s.runExpression t := by
  intro base s entries
  obtain ⟨result, s', entries', heval⟩ := uniform_eval t base s entries
  cases result with
  | error failure =>
    exact ⟨some failure, s', entries', fun f => by simp only [runExpression, heval f]⟩
  | ok v =>
    by_cases he : v.isEmpty = true
    · exact ⟨none, s', entries', fun f => by simp only [runExpression, heval f, he, ↓reduceIte]⟩
    · obtain ⟨a, t, entries'', hwrite⟩ := uniform_write (none : Option Failure)
        ("[eval] ".toList ++ v.display) base s' entries'
      refine ⟨a, t, entries'', fun f => ?_⟩
      simp only [runExpression, heval f, he, ← hwrite f]
      rfl

theorem uniform_runCall (name args : Text) : Uniform fun s : Session => s.runCall name args := by
  intro base s entries
  obtain ⟨result, s', entries', hargs⟩ :=
    uniform_evalOperands (Operand.readAll args) base s entries
  cases result with
  | error failure => exact ⟨some failure, s', entries', fun f => by simp only [runCall, hargs f]⟩
  | ok vs =>
    cases hl : s'.registry.lookup? name with
    | none =>
      obtain ⟨a, t, entries'', hwrite⟩ := uniform_write (none : Option Failure)
        ("[warn] undefined function: ".toList ++ name) base s' entries'
      refine ⟨a, t, entries'', fun f => ?_⟩
      simp only [runCall, hargs f, registry_under, hl, ← hwrite f]
    | some e =>
      obtain ⟨result, t, entries'', hcall⟩ := uniform_invoke e name
        ((Operand.readAll args).head?.map Operand.source) vs base s' entries'
      cases result with
      | error failure =>
        refine ⟨some failure, t, entries'', fun f => ?_⟩
        simp only [runCall, hargs f, registry_under, hl, hcall f]
      | ok v =>
        by_cases he : e.echo = .traced
        · obtain ⟨a, u, entries₃, hwrite⟩ := uniform_write (none : Option Failure)
            (callTrace name vs v) base t entries''
          refine ⟨a, u, entries₃, fun f => ?_⟩
          simp only [runCall, hargs f, registry_under, hl, hcall f, he, ↓reduceIte, ← hwrite f]
        · refine ⟨none, t, entries'', fun f => ?_⟩
          simp only [runCall, hargs f, registry_under, hl, hcall f, he, ↓reduceIte]

/-- A statement that, under every numbering, ends in the same failure with its numbers mapped. -/
def Renumbers (i : Item) : Prop :=
  ∀ (base : Array ConsoleEvent) (s : Session) (entries : Array LogEntry),
    ∃ (e : Option Failure) (t : Session) (entries' : Array LogEntry),
      ∀ f, (under base f s entries).runItem (i.renumber f) =
        (e.map (Failure.renumber f), under base f t entries')

/-- A statement that shows no number is uniform, and its failure is no nested try. -/
theorem renumbers_of_uniform {i : Item} (hi : i.statement ≠ .tryOpener)
    (hsame : ∀ f (s : Session), s.runItem (i.renumber f) = s.runItem i)
    (h : Uniform fun s : Session => s.runItem i) : Renumbers i := by
  intro base s entries
  obtain ⟨e, t, entries', hrun⟩ := h base s entries
  refine ⟨e, t, entries', fun f => ?_⟩
  have hf : (under base f s entries).runItem i = (e, under base f t entries') := hrun f
  have hne := runItem_ne_nestedTry (under base f s entries) hi
  rw [hf] at hne
  rw [hsame f, hf]
  cases e with
  | none => rfl
  | some e =>
    rw [Option.map_some, Failure.renumber_of_ne fun line he => hne line (congrArg some he)]

theorem renumbers (i : Item) : Renumbers i := by
  obtain ⟨line, statement⟩ := i
  cases statement with
  | orphan kind =>
    intro base s entries
    obtain ⟨entries', hwrite⟩ := exists_write base s entries
      (fun f => "[warn] line ".toList ++ Text.ofNat (f line) ++ ": ".toList ++ orphanWord kind ++
        " without try".toList) (.orphan line kind) fun _ => rfl
    exact ⟨none, s, entries', fun f => Prod.ext rfl (hwrite f)⟩
  | tryOpener =>
    intro base s entries
    exact ⟨some (.nestedTry line), s, entries, fun _ => rfl⟩
  | structural => exact renumbers_of_uniform (by simp) (fun _ _ => rfl) (.pure _)
  | importModule name =>
    exact renumbers_of_uniform (by simp) (fun _ _ => rfl) (uniform_importModule name)
  | declaration keyword signature =>
    exact renumbers_of_uniform (by simp) (fun _ _ => rfl) (uniform_write _ _)
  | assignment name expression =>
    exact renumbers_of_uniform (by simp) (fun _ _ => rfl) (uniform_runAssignment name expression)
  | call name args =>
    exact renumbers_of_uniform (by simp) (fun _ _ => rfl) (uniform_runCall name args)
  | expression t =>
    exact renumbers_of_uniform (by simp) (fun _ _ => rfl) (uniform_runExpression t)

end Session

/-! ## Runs -/

namespace Run

instance : Ledger Run where
  under base f r entries :=
    ⟨under base f r.session entries,
      ⟨r.report.executed, r.report.failures.map (·.renumber f)⟩⟩

/-- A computation that, under every numbering, ends in the same failure with its numbers mapped. -/
def Renumbers (run : (Nat → Nat) → Run → Option LineFailure × Run) : Prop :=
  ∀ (base : Array ConsoleEvent) (r : Run) (entries : Array LogEntry),
    ∃ (e : Option LineFailure) (t : Run) (entries' : Array LogEntry),
      ∀ f, run f (under base f r entries) = (e.map (·.renumber f), under base f t entries')

variable (base : Array ConsoleEvent)

theorem exists_reportFailure (e : LineFailure) (r : Run) (entries : Array LogEntry) :
    ∃ t entries', ∀ f,
      (under base f r entries).reportFailure (e.renumber f) = under base f t entries' := by
  obtain ⟨entries', hwrite⟩ := Session.exists_write base r.session entries
    (fun f => "[error] ".toList ++ (e.renumber f).message) (.failure e) fun _ => rfl
  refine ⟨⟨r.session, ⟨r.report.executed, r.report.failures ++ [e]⟩⟩, entries', fun f => ?_⟩
  have hfailures : r.report.failures.map (·.renumber f) ++ [e.renumber f] =
      (r.report.failures ++ [e]).map (·.renumber f) := by rw [List.map_append, List.map_singleton]
  unfold reportFailure
  congr 1
  · exact hwrite f
  · exact congrArg (Report.mk r.report.executed) hfailures

theorem count_under (f : Nat → Nat) (r : Run) (entries : Array LogEntry) :
    (under base f r entries).count = under base f r.count entries := rfl

theorem renumbers_runItem (i : Item) : Renumbers fun f r => r.runItem (i.renumber f) := by
  intro base r entries
  let counted := if i.statement.counts then r.count else r
  obtain ⟨e, s, entries', hrun⟩ := Session.renumbers i base counted.session entries
  refine ⟨e.map (⟨i.line, ·⟩), { counted with session := s }, entries', fun f => ?_⟩
  have hcounted : (if (i.renumber f).statement.counts then (under base f r entries).count
      else under base f r entries) = under base f counted entries := by
    simp only [counted, Item.renumber, count_under]
    exact (apply_ite (fun r => under base f r entries) _ _ _).symm
  simp only [runItem, hcounted]
  have hsession : (under base f counted entries).session = under base f counted.session entries :=
    rfl
  rw [hsession, hrun f, Option.map_map, Option.map_map]
  rfl

theorem renumbers_runItems (items : List Item) :
    Renumbers fun f r => r.runItems (items.map (·.renumber f)) := by
  intro base r entries
  induction items generalizing r entries with
  | nil => exact ⟨none, r, entries, fun _ => rfl⟩
  | cons i items ih =>
    obtain ⟨e, t, entries', hrun⟩ := renumbers_runItem i base r entries
    cases e with
    | some e =>
      refine ⟨some e, t, entries', fun f => ?_⟩
      simp only [List.map_cons, runItems, hrun f, Option.map_some]
    | none =>
      obtain ⟨e, u, entries'', hrest⟩ := ih t entries'
      refine ⟨e, u, entries'', fun f => ?_⟩
      simp only [List.map_cons, runItems, hrun f, Option.map_none, hrest f]

theorem bindError_under (f : Nat → Nat) (s : Session) (entries : Array LogEntry)
    (failure : Failure) (binding : Option Text) :
    (under base f s entries).bindError failure binding =
      under base f (s.bindError failure binding) entries := by
  unfold Session.bindError
  induction errorVariables ++ binding.toList generalizing s with
  | nil => rfl
  | cons name names ih => exact ih (s.assign name (.str failure.message))

/-- The body of a construct and its handler under another numbering. Only the message of a failure
that is no nested try is bound for the handler. -/
theorem renumbers_runBody (a : Attempt) (ha : ∀ i ∈ a.body, i.statement ≠ .tryOpener) :
    Renumbers fun f r => r.runBody (a.renumber f) := by
  intro base r entries
  obtain ⟨e, t, entries', hbody⟩ := renumbers_runItems a.body base r entries
  cases e with
  | none =>
    refine ⟨none, t, entries', fun f => ?_⟩
    simp only [runBody, Attempt.renumber, hbody f, Option.map_none]
  | some e =>
    -- A number in the message would get into a variable, and so into values.
    have hne : ∀ line, e.failure ≠ .nestedTry line := by
      intro line hline
      have hbody' := hbody id
      have hitems : ∀ i ∈ a.body.map (·.renumber id), i.statement ≠ .tryOpener := by
        intro i hi
        obtain ⟨j, hj, rfl⟩ := List.mem_map.mp hi
        exact ha j hj
      refine runItems_ne_nestedTry hitems _ (congrArg Prod.fst hbody') line ?_
      simp only [LineFailure.renumber, hline, Failure.renumber, id_eq]
    cases hh : a.handler with
    | none =>
      refine ⟨some e, t, entries', fun f => ?_⟩
      simp only [runBody, Attempt.renumber, hbody f, Option.map_some, runHandler, hh,
        Option.map_none]
    | some items =>
      obtain ⟨e', u, entries'', hhandler⟩ := renumbers_runItems items base
        { t with session := t.session.bindError e.failure a.binding } entries'
      refine ⟨e', u, entries'', fun f => ?_⟩
      have hmessage : (e.renumber f).failure = e.failure := Failure.renumber_of_ne hne f
      have hbound : { under base f t entries' with
          session := (under base f t entries').session.bindError e.failure a.binding } =
          under base f { t with session := t.session.bindError e.failure a.binding } entries' :=
        congrArg (fun session => Run.mk session _) (bindError_under base f t.session entries' _ _)
      simp only [runBody, Attempt.renumber, hbody f, Option.map_some, runHandler, hh, hmessage,
        hbound, hhandler f]

theorem renumbers_runAttempt (a : Attempt)
    (ha : a.nestedTry = none → ∀ i ∈ a.body, i.statement ≠ .tryOpener) :
    Renumbers fun f r => r.runAttempt (a.renumber f) := by
  intro base r entries
  cases hn : a.nestedTry with
  | some line =>
    refine ⟨some ⟨line, .nestedTry line⟩, r.count, entries, fun f => ?_⟩
    simp only [runAttempt, Attempt.renumber, hn, Option.map_some]
    rfl
  | none =>
    obtain ⟨pending, t, entries', hbody⟩ := renumbers_runBody a (ha hn) base r.count entries
    have hnested : ∀ f, (a.renumber f).nestedTry = none := fun f => by
      simp only [Attempt.renumber, hn, Option.map_none]
    cases hc : a.cleanup with
    | none =>
      have hcleanup : ∀ f, (a.renumber f).cleanup = none := fun f => by
        simp only [Attempt.renumber, hc, Option.map_none]
      refine ⟨pending, t, entries', fun f => ?_⟩
      simp only [runAttempt, hnested f, count_under, hbody f, hcleanup f]
    | some items =>
      have hcleanup : ∀ f, (a.renumber f).cleanup = some (items.map (·.renumber f)) := fun f => by
        simp only [Attempt.renumber, hc, Option.map_some]
      obtain ⟨e, u, entries'', hitems⟩ := renumbers_runItems items base t entries'
      cases e with
      | some e =>
        refine ⟨some e, u, entries'', fun f => ?_⟩
        simp only [runAttempt, hnested f, count_under, hbody f, hcleanup f, hitems f,
          Option.map_some]
      | none =>
        refine ⟨pending, u, entries'', fun f => ?_⟩
        simp only [runAttempt, hnested f, count_under, hbody f, hcleanup f, hitems f,
          Option.map_none]

end Run

/-! ## Programs -/

/-- A step in whose body, if it is run, no statement opens a try. -/
def Step.Flat : Step → Prop
  | .item _ => True
  | .attempt a => a.nestedTry = none → ∀ i ∈ a.body, i.statement ≠ .tryOpener

theorem Program.flat_of_mem_read {lines : List Text} {step : Step} (h : step ∈ read lines) :
    step.Flat := by
  obtain ⟨i, line, rest, hdrop, _, rfl⟩ := mem_readFrom h
  unfold stepAt
  split
  · obtain ⟨hi, hscan⟩ := Construct.scan_of_drop hdrop
    rw [← hscan, ← hdrop]
    intro hnested item hitem
    have hn : (Construct.scan lines i).nestedTry = none := Option.map_eq_none_iff.mp hnested
    exact ne_tryOpener_of_mem hi hn (by simp [Construct.regions]) hitem
  · trivial

namespace Run

theorem exists_reportAny (e : Option LineFailure) (base : Array ConsoleEvent) (r : Run)
    (entries : Array LogEntry) : ∃ (t : Run) (entries' : Array LogEntry), ∀ f,
      (under base f r entries).reportAny (e.map (·.renumber f)) = under base f t entries' := by
  cases e with
  | none => exact ⟨r, entries, fun _ => rfl⟩
  | some e => exact exists_reportFailure base e r entries

theorem exists_runStep {step : Step} (h : step.Flat) (base : Array ConsoleEvent) (r : Run)
    (entries : Array LogEntry) : ∃ (t : Run) (entries' : Array LogEntry), ∀ f,
      (under base f r entries).runStep (step.renumber f) = under base f t entries' := by
  cases step with
  | item i =>
    obtain ⟨e, t, entries', hrun⟩ := renumbers_runItem i base r entries
    obtain ⟨u, entries'', hreport⟩ := exists_reportAny e base t entries'
    exact ⟨u, entries'', fun f => by simp only [Step.renumber, runStep_item, hrun f, hreport f]⟩
  | attempt a =>
    obtain ⟨e, t, entries', hrun⟩ := renumbers_runAttempt a h base r entries
    obtain ⟨u, entries'', hreport⟩ := exists_reportAny e base t entries'
    refine ⟨u, entries'', fun f => ?_⟩
    simp only [Step.renumber, runStep_attempt, hrun f, hreport f]

/-- Steps under another numbering. -/
theorem exists_runSteps {steps : List Step} (h : ∀ step ∈ steps, step.Flat)
    (base : Array ConsoleEvent) (r : Run) (entries : Array LogEntry) :
    ∃ (t : Run) (entries' : Array LogEntry), ∀ f,
      (under base f r entries).runSteps (steps.map (·.renumber f)) = under base f t entries' := by
  induction steps generalizing r entries with
  | nil => exact ⟨r, entries, fun _ => rfl⟩
  | cons step steps ih =>
    obtain ⟨t, entries', hstep⟩ := exists_runStep (h step (by simp)) base r entries
    obtain ⟨u, entries'', hrest⟩ := ih (fun step hs => h step (by simp [hs])) t entries'
    refine ⟨u, entries'', fun f => ?_⟩
    rw [List.map_cons, ← hrest f, ← hstep f]
    rfl

end Run

theorem LineFailure.renumber_id (e : LineFailure) : e.renumber id = e := by
  obtain ⟨line, failure⟩ := e
  cases failure <;> rfl

namespace Session

/-- A text that is laid out in another way is run in the same way. The session ends in the same
state, but for the log, and as many statements are run; the numbers of lines in the log and in the
failures are carried over. The number of a line that says something goes over to that of a line which
says the same. -/
theorem execute_relaid (s : Session) (a : Text) :
    ∃ entries : Array LogEntry,
      (s.execute a).2.host.console.log = logged s.host.console.log id entries ∧
      ∀ b, Relaid (Text.lines a) (Text.lines b) →
        (s.execute b).2 = (s.execute a).2.withLog
          (logged s.host.console.log (carry (Text.lines a) (Text.lines b)) entries) ∧
        (s.execute b).2.host.console.prompts = (s.execute a).2.host.console.prompts ∧
        (s.execute b).1.executed = (s.execute a).1.executed ∧
        (s.execute b).1.failures = (s.execute a).1.failures.map
          (·.renumber (carry (Text.lines a) (Text.lines b))) ∧
        ∀ i line, (Text.lines a)[i]? = some line → isSkippable line = false →
          ∃ j line', carry (Text.lines a) (Text.lines b) (i + 1) = j + 1 ∧
            (Text.lines b)[j]? = some line' ∧ line'.trim = line.trim := by
  obtain ⟨t, entries, hrun⟩ := Run.exists_runSteps
    (fun step (hstep : step ∈ Program.read (Text.lines a)) => Program.flat_of_mem_read hstep)
    s.host.console.log
    ⟨s, ⟨0, []⟩⟩ #[]
  have hstart : ∀ f, under s.host.console.log f (⟨s, ⟨0, []⟩⟩ : Run) #[] = ⟨s, ⟨0, []⟩⟩ := by
    intro f
    have hlog : logged s.host.console.log f #[] = s.host.console.log := by simp [logged]
    simp only [under, hlog]
    rfl
  have hexecute : ∀ b f, Program.read (Text.lines b) =
      (Program.read (Text.lines a)).map (·.renumber f) →
      s.execute b = (⟨t.report.executed, t.report.failures.map (·.renumber f)⟩,
        t.session.withLog (logged s.host.console.log f entries)) := by
    intro b f hread
    have hf := hrun f
    rw [hstart f, ← hread] at hf
    rw [execute, hf]
    rfl
  have hself := hexecute a id
    ((List.map_congr_left fun step _ => Step.renumber_eq_self fun n _ => rfl).trans
      (List.map_id _)).symm
  have hfailures : t.report.failures.map (·.renumber id) = t.report.failures :=
    (List.map_congr_left fun e _ => e.renumber_id).trans (List.map_id _)
  rw [hfailures] at hself
  refine ⟨entries, by rw [hself]; rfl, fun b hb => ?_⟩
  rw [hself, hexecute b _ (Program.read_relaid hb)]
  exact ⟨rfl, t.session.host.console.prompts_logged _ entries _ _, rfl, rfl,
    fun _ _ hline hs => hb.getElem?_carry hline hs⟩

/-- A comment in front, and blanks around the line. -/
theorem execute_relaid_comment :
    let s : Session := .start [] ⟨.withAnswers [], .ofSeed 0, fun _ _ => [], 0⟩
    let a : Text := "x = 1".toList
    let b : Text := "# one\n  x = 1 ".toList
    Relaid (Text.lines a) (Text.lines b) ∧ (s.execute b).2.vars = (s.execute a).2.vars ∧
      (s.execute b).1.executed = (s.execute a).1.executed ∧
      carry (Text.lines a) (Text.lines b) 1 = 2 := by
  intro s a b
  have ha : Text.lines a = ["x = 1".toList] := by decide
  have hb : Text.lines b = ["# one".toList, "  x = 1 ".toList] := by decide
  have hrelaid : Relaid (Text.lines a) (Text.lines b) := by
    rw [ha, hb]
    exact .insert (by decide) (.keep (by decide) .nil)
  obtain ⟨_, _, hsame⟩ := execute_relaid s a
  obtain ⟨hstate, _, hexecuted, _⟩ := hsame b hrelaid
  exact ⟨hrelaid, by rw [hstate]; rfl, hexecuted, by rw [ha, hb]; decide⟩

end Session

end LineScript
