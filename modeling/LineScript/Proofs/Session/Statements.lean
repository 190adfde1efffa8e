import LineScript.Proofs.Session.Names
import LineScript.Proofs.Statement.Precedence

/-!
Statements and the values of texts. A call as a statement does what the evaluation of its text does, and
shows the call behind that if the function is traced (`execute_call`). Behind an assignment the name
has the value that was assigned, whatever the name looks like (`execute_assignment`).
-/

namespace LineScript

open Text

namespace Run

/-- The run behind a statement with the number `n` that has come to a session and may have failed. -/
def finish (r : Run) (n : Nat) (outcome : Option Failure × Session) : Run :=
  { r.count with session := outcome.2 }.reportAny (outcome.1.map (⟨n, ·⟩))

/-- A plain statement is counted and its failure is reported, and the run goes on with the next line.
Expressions are left out, since a comment can be one. -/
theorem runSteps_plain {line : Text} {statement : Statement}
    (hc : Statement.classify line.trim = statement) (h : statement.isPlain = true)
    (hne : ∀ t, statement ≠ .expression t) (r : Run) (i : Nat) (rest : List Text) :
    r.runSteps (Program.readFrom i (line :: rest)) =
      (r.finish (i + 1) (r.session.runItem ⟨i + 1, statement⟩)).runSteps
        (Program.readFrom (i + 1) rest) := by
  subst hc
  have hs : isSkippable line = false := by
    refine Statement.isSkippable_of_classify (fun hc => ?_) hne
    rw [hc] at h
    cases h
  have hcounts : (Statement.classify line.trim).counts = true := by
    generalize Statement.classify line.trim = statement at h
    cases statement <;> first | rfl | cases h
  rw [Program.readFrom_plain hs h, runSteps_cons, runStep_item]
  simp only [runItem, hcounts, ↓reduceIte]
  rfl

end Run

namespace Session

variable {s : Session} {line name : Text}

/-! ## Calls -/

/-- A call as a statement comes to what the evaluation of its text comes to, and shows a value. It looks
the name up behind the evaluation of the arguments, and not before, but the functions are the same
then. -/
theorem runCall_eq {args : Text} {e : Entry} (hsplit : splitCall? line = some (name, args))
    (hknown : s.registry.lookup? name = some e) :
    match s.eval line with
    | (.error failure, s') => s.runCall name args = (some failure, s')
    | (.ok v, s') => ∃ values s₀, s.evalOperands (Operand.readAll args) = (.ok values, s₀) ∧
        s.runCall name args =
          (none, if e.echo = .traced then s'.write (callTrace name values v) else s') ∧
        (e.echo = .traced → s'.Wrote (callTrace name values v) (s.runCall name args).2) := by
  have hkeeps : (s.evalOperands (Operand.readAll args)).2.registry = s.registry :=
    (s.evalOperands_keeps (Text.splitArguments args)).registry
  rw [eval_eq, hsplit]
  simp only [hknown, runCall, Operand.head?_readAll]
  rcases heval : s.evalOperands (Operand.readAll args) with ⟨failure | values, s₀⟩
  · rfl
  · rw [heval] at hkeeps
    simp only at hkeeps
    simp only [hkeeps, hknown]
    rcases s₀.invoke e name (Text.splitArguments args).head? values with ⟨failure | v, s'⟩
    · rfl
    · refine ⟨values, s₀, rfl, rfl, fun htraced => ?_⟩
      simp only [htraced, ↓reduceIte]
      exact s'.wrote_write (callTrace name values v)

theorem eval_type {e : Entry} (hknown : s.registry.lookup? "type".toList = some e)
    (htype : e.function = .type) :
    s.eval " type(\"x\") ".toList = (.ok (.str "string".toList), s) := by
  have hsplit : splitCall? " type(\"x\") ".toList = some ("type".toList, "\"x\"".toList) := by
    decide
  have hreceiver : (Text.splitArguments "\"x\"".toList).head? = some "\"x\"".toList := by decide
  have hcall : Builtin.type.call ⟨"type".toList, s.registry, [.str "x".toList]⟩ s.host =
      ⟨.ok (.str "string".toList), none, s.host⟩ := rfl
  simp only [eval_eq, hsplit, hknown, evalOperands_quoted, hreceiver, invoke, htype, hcall,
    writeBack]

/-- A call of a known function as a statement, and the value of the same text. Both fail alike, in the
same session. If there is a value, the session of the statement is the one behind the evaluation, but
for the line that shows a traced call with the values of the arguments and this value. A run that comes
to the line counts the statement and reports its failure. -/
theorem execute_call {args : Text} {e : Entry}
    (hc : Statement.classify line.trim = .call name args)
    (hknown : s.registry.lookup? name = some e) :
    let outcome := s.runCall name args
    (match s.eval line with
      | (.error failure, s') => outcome = (some failure, s')
      | (.ok v, s') => ∃ values s₀, s.evalOperands (Operand.readAll args) = (.ok values, s₀) ∧
          outcome = (none, if e.echo = .traced then s'.write (callTrace name values v) else s') ∧
          (e.echo = .traced → s'.Wrote (callTrace name values v) outcome.2)) ∧
    (∀ n, s.runItem ⟨n, Statement.classify line.trim⟩ = outcome) ∧
    ∀ r : Run, r.session = s → ∀ i rest,
      r.runSteps (Program.readFrom i (line :: rest)) =
        (r.finish (i + 1) outcome).runSteps (Program.readFrom (i + 1) rest) := by
  intro outcome
  have hsplit : splitCall? line = some (name, args) := by
    cases Statement.made_of_classify hc (by simp) with
    | call splits => rwa [splitCall?, Text.trim_trim] at splits
  refine ⟨runCall_eq hsplit hknown, fun n => by rw [hc]; rfl, fun r hr i rest => ?_⟩
  rw [Run.runSteps_plain hc rfl (by simp), hr]
  rfl

/-- A traced call, with blanks around it. -/
theorem execute_call_type :
    let s : Session := .start [] ⟨.withAnswers [], .ofSeed 0, fun _ _ => [], 0⟩
    let line := " type(\"x\") ".toList
    ∃ e, s.registry.lookup? "type".toList = some e ∧
      Statement.classify (Text.trim line) = .call "type".toList "\"x\"".toList ∧
      s.eval line = (.ok (.str "string".toList), s) ∧
      s.runItem ⟨1, Statement.classify (Text.trim line)⟩ =
        (none, s.write "[call] type(x) = string".toList) ∧
      (s.runItem ⟨1, Statement.classify (Text.trim line)⟩).2.host.console.lines =
        ["[call] type(x) = string".toList] := by
  intro s line
  have htype : (Catalogue.core.reverse.find? ("type".toList ∈ ·.names)).map
      (fun e => (e.function, e.echo)) = some (.type, .traced) := by
    decide
  obtain ⟨e, he, hentry⟩ := Option.map_eq_some_iff.mp htype
  obtain ⟨hfunction, hecho⟩ := Prod.mk.inj hentry
  have hknown : s.registry.lookup? "type".toList = some e := (Catalogue.lookup?_core _).trans he
  have hc : Statement.classify (Text.trim line) = .call "type".toList "\"x\"".toList := by
    decide +kernel
  have heval : s.eval line = (.ok (.str "string".toList), s) := eval_type hknown hfunction
  obtain ⟨houtcome, hitem, -⟩ := execute_call hc hknown
  rw [heval] at houtcome
  obtain ⟨values, s₀, hvalues, hrun, hwrote⟩ := houtcome
  rw [evalOperands_quoted] at hvalues
  cases hvalues
  have hshown : callTrace "type".toList [.str "x".toList] (.str "string".toList) =
      "[call] type(x) = string".toList := by
    decide
  have hlines := (hwrote hecho).lines
  rw [hshown] at hlines
  refine ⟨e, hknown, hc, heval, ?_, ?_⟩
  · rw [hitem, hrun, if_pos hecho, hshown]
  · rw [hitem]
    exact hlines

/-! ## Assignments -/

/-- An assignment comes to what the evaluation of its expression comes to. The name, which is no
reserved word, has the value behind that, and reading it changes nothing. -/
theorem runAssignment_eq {expression : Text} (hx : isIdentifier name = true)
    (hname : Expression.reserved? name = none) :
    match s.eval expression with
    | (.error failure, s') => s.runAssignment name expression = (some failure, s')
    | (.ok v, _) => ∃ s', s.runAssignment name expression = (none, s') ∧
        s'.vars.get? name = some v ∧ s'.eval name = (.ok v, s') := by
  rw [runAssignment]
  rcases s.eval expression with ⟨failure | v, s₁⟩
  · rfl
  · have hv : ∀ s' : Session, (s'.assign name v).vars.get? name = some v :=
      fun s' => Entries.get?_insert_self name v s'.vars
    exact ⟨_, rfl, hv _, (reaches_of_identifier hx (hv _)).1 hname⟩

/-- An assignment to a name that is no reserved word. It fails as the evaluation of the expression does.
If that has a value, it succeeds, and the name has this value behind it: evaluating the name gives the
value back and changes nothing, whatever else is bound or can be called, and whatever the expression
has done to the name before. A run that comes to the line counts the statement and reports its
failure. -/
theorem execute_assignment {expression : Text}
    (hc : Statement.classify line.trim = .assignment name expression)
    (hname : Expression.reserved? name = none) :
    let outcome := s.runAssignment name expression
    (match s.eval expression with
      | (.error failure, s') => outcome = (some failure, s')
      | (.ok v, _) => ∃ s', outcome = (none, s') ∧ s'.vars.get? name = some v ∧
          s'.eval name = (.ok v, s')) ∧
    (∀ n, s.runItem ⟨n, Statement.classify line.trim⟩ = outcome) ∧
    ∀ r : Run, r.session = s → ∀ i rest,
      r.runSteps (Program.readFrom i (line :: rest)) =
        (r.finish (i + 1) outcome).runSteps (Program.readFrom (i + 1) rest) := by
  intro outcome
  have hx : isIdentifier name = true := Statement.isIdentifier_of_classify hc
  refine ⟨runAssignment_eq hx hname, fun n => by rw [hc]; rfl, fun r hr i rest => ?_⟩
  rw [Run.runSteps_plain hc rfl (by simp), hr]
  rfl

/-- A name that could be the end of a number. -/
theorem execute_assignment_exponent :
    Statement.classify (Text.trim "e5 = \"x\"".toList) = .assignment "e5".toList "\"x\"".toList ∧
      Expression.reserved? "e5".toList = none ∧
      ∀ s : Session, ∃ s', s.runAssignment "e5".toList "\"x\"".toList = (none, s') ∧
        s'.eval "e5".toList = (.ok (.str "x".toList), s') := by
  have hc : Statement.classify (Text.trim "e5 = \"x\"".toList) =
      .assignment "e5".toList "\"x\"".toList := by
    decide +kernel
  have hname : Expression.reserved? "e5".toList = none := by decide
  refine ⟨hc, hname, fun s => ?_⟩
  obtain ⟨houtcome, -⟩ := execute_assignment (s := s) hc hname
  rw [eval_quoted] at houtcome
  obtain ⟨s', hrun, -, hread⟩ := houtcome
  exact ⟨s', hrun, hread⟩

end Session

end LineScript
