import LineScript.Proofs.Builtin.Failures
import LineScript.Proofs.Program.Outline
import LineScript.Proofs.Session.Effects

/-! Constructs do not nest when they are run. No expression and no call fails with what is said of
nested tries (`evalOperand_ne_nestedTry`), and no statement but a try does
(`runItems_ne_nestedTry`). So a construct in which no line opens a try runs without that failure,
and any other is refused with it and changes nothing (`nestedTry_settles`). -/

namespace LineScript

namespace Session

/-! ## Evaluation -/

theorem invoke_ne_nestedTry (s : Session) (e : Entry) (name : Text) (receiver : Option Text)
    (args : Arguments) (line : Nat) :
    (s.invoke e name receiver args).1 ≠ .error (.nestedTry line) :=
  Builtin.call_ne_nestedTry e.function ⟨name, s.registry, args⟩ s.host line

mutual

theorem evalOperand_ne_nestedTry (s : Session) (o : Operand) (line : Nat) :
    (s.evalOperand o).1 ≠ .error (.nestedTry line) := by
  cases o with
  | text t => simp [evalOperand]
  | call t name operands =>
    have hargs := evalOperands_ne_nestedTry s operands line
    simp only [evalOperand]
    split
    · simp
    · split
      · next he =>
        rw [he] at hargs
        simpa using hargs
      · exact invoke_ne_nestedTry _ _ _ _ _ _
termination_by structural o

theorem evalOperands_ne_nestedTry (s : Session) (operands : List Operand) (line : Nat) :
    (s.evalOperands operands).1 ≠ .error (.nestedTry line) := by
  cases operands with
  | nil => simp [evalOperands]
  | cons o rest =>
    have ho := evalOperand_ne_nestedTry s o line
    simp only [evalOperands]
    split
    · next he =>
      rw [he] at ho
      simpa using ho
    · next s' _ =>
      have hrest := evalOperands_ne_nestedTry s' rest line
      split
      · next he =>
        rw [he] at hrest
        simpa using hrest
      · simp
termination_by structural operands

end

theorem eval_ne_nestedTry (s : Session) (t : Text) (line : Nat) :
    (s.eval t).1 ≠ .error (.nestedTry line) :=
  evalOperand_ne_nestedTry s (Operand.read t) line

/-! ## Statements -/

theorem runAssignment_ne_nestedTry (s : Session) (name expression : Text) (line : Nat) :
    (s.runAssignment name expression).1 ≠ some (.nestedTry line) := by
  have he := s.eval_ne_nestedTry expression line
  unfold runAssignment
  split
  · next heq =>
    rw [heq] at he
    simpa using he
  · simp

theorem runExpression_ne_nestedTry (s : Session) (t : Text) (line : Nat) :
    (s.runExpression t).1 ≠ some (.nestedTry line) := by
  have he := s.eval_ne_nestedTry t line
  unfold runExpression
  split
  · next heq =>
    rw [heq] at he
    simpa using he
  · simp

theorem runCall_ne_nestedTry (s : Session) (name args : Text) (line : Nat) :
    (s.runCall name args).1 ≠ some (.nestedTry line) := by
  have hargs := s.evalOperands_ne_nestedTry (Operand.readAll args) line
  simp only [runCall]
  split
  · next heq =>
    rw [heq] at hargs
    simpa using hargs
  · next vs s' _ =>
    split
    · simp
    · next e _ =>
      have hcall := s'.invoke_ne_nestedTry e name
        ((Operand.readAll args).head?.map Operand.source) vs line
      split
      · next heq =>
        rw [heq] at hcall
        simpa using hcall
      · simp

/-- Only a statement that opens a try fails because it does. -/
theorem runItem_ne_nestedTry (s : Session) {i : Item} (hi : i.statement ≠ .tryOpener)
    (line : Nat) : (s.runItem i).1 ≠ some (.nestedTry line) := by
  unfold runItem
  split
  case h_5 => exact s.runAssignment_ne_nestedTry _ _ line
  case h_6 => exact s.runCall_ne_nestedTry _ _ line
  case h_7 => exact s.runExpression_ne_nestedTry _ line
  case h_8 => contradiction
  all_goals simp

end Session

namespace Run

theorem runItems_ne_nestedTry {items : List Item} (h : ∀ i ∈ items, i.statement ≠ .tryOpener)
    (r : Run) {e : LineFailure} (he : (r.runItems items).1 = some e) (line : Nat) :
    e.failure ≠ .nestedTry line := by
  induction items generalizing r with
  | nil => simp [runItems] at he
  | cons i items ih =>
    simp only [runItems] at he
    split at he
    · next e' r' hrun =>
      cases he
      simp only [runItem] at hrun
      generalize (if i.statement.counts then r.count else r).session = s at hrun
      have hs := s.runItem_ne_nestedTry (h i (by simp)) line
      intro hf
      obtain ⟨hfirst, _⟩ := Prod.mk.inj hrun
      obtain ⟨failure, hfailure, rfl⟩ := Option.map_eq_some_iff.mp hfirst
      rw [hfailure] at hs
      exact hs (congrArg some hf)
    · exact ih (fun j hj => h j (by simp [hj])) _ he

/-- The run after a construct that is refused because the line with this number opens a try in it.
-/
def refuse (r : Run) (line : Nat) : Run where
  session := r.session.write
    ("[error] ".toList ++ ("line ".toList ++ Text.ofNat line ++ ": ".toList ++
      ("nested try block at line ".toList ++ Text.ofNat line ++ " is not supported".toList)))
  report := ⟨r.report.executed + 1, r.report.failures ++ [⟨line, .nestedTry line⟩]⟩

theorem message_nestedTry (line : Nat) : LineFailure.message ⟨line, .nestedTry line⟩ =
    "line ".toList ++ Text.ofNat line ++ ": ".toList ++
      ("nested try block at line ".toList ++ Text.ofNat line ++ " is not supported".toList) := rfl

theorem runStep_refuse (r : Run) {a : Attempt} {line : Nat} (h : a.nestedTry = some line) :
    r.runStep (.attempt a) = r.refuse line := by
  have hrun : r.runAttempt a = (some ⟨line, .nestedTry line⟩, r.count) := by rw [runAttempt, h]
  rw [runStep, hrun, refuse, ← message_nestedTry]
  rfl

/-- A refusal says which line opens the try, and nothing else happens to the session. -/
theorem wrote_refuse (r : Run) (line : Nat) :
    r.session.Wrote ("[error] line ".toList ++ Text.ofNat line ++
      ": nested try block at line ".toList ++ Text.ofNat line ++ " is not supported".toList)
      (r.refuse line).session := by
  have hwrote := r.session.wrote_write ("[error] line ".toList ++ Text.ofNat line ++
    ": nested try block at line ".toList ++ Text.ofNat line ++ " is not supported".toList)
  have herror : "[error] line ".toList = "[error] ".toList ++ "line ".toList := by decide
  have hnested : ": nested try block at line ".toList =
      ": ".toList ++ "nested try block at line ".toList := by decide
  simpa only [refuse, herror, hnested, List.append_assoc] using hwrote

end Run

namespace Program

/-- What a nested try does to a construct. Without one, no line of a body opens a try, and no body
fails as if it did. With one, the construct is refused, and the program goes on behind it: one line says
which line opens the nested try, the construct counts as one statement, and nothing else happens. -/
theorem nestedTry_settles {lines : List Text} {start : Nat} (h : start < lines.length) :
    ((Construct.scan lines start).nestedTry = none →
      ∀ region ∈ (Construct.scan lines start).regions,
        (∀ i t, region.Holds lines i t → Statement.classify t.trim ≠ .tryOpener) ∧
        (∀ i ∈ regionItems start (lines.drop start) region, i.statement ≠ .tryOpener) ∧
        ∀ (r : Run) (e : LineFailure) (line : Nat),
          (r.runItems (regionItems start (lines.drop start) region)).1 = some e →
            e.failure ≠ .nestedTry line) ∧
    ∀ k, (Construct.scan lines start).nestedTry = some k →
      start ≤ k ∧ k < (Construct.scan lines start).resumeAt ∧
      (∀ r : Run, r.runStep (.attempt (attemptAt lines start)) = r.refuse (k + 1)) ∧
      (∀ r : Run, (r.refuse (k + 1)).report =
          ⟨r.report.executed + 1, r.report.failures ++ [⟨k + 1, .nestedTry (k + 1)⟩]⟩ ∧
        r.session.Wrote ("[error] line ".toList ++ Text.ofNat (k + 1) ++
          ": nested try block at line ".toList ++ Text.ofNat (k + 1) ++ " is not supported".toList)
          (r.refuse (k + 1)).session) ∧
      ∀ line, lines[start]? = some line → Statement.classify line.trim = .tryOpener →
        ∀ r : Run, r.runSteps (readFrom start (lines.drop start)) =
          (r.refuse (k + 1)).runSteps (readFrom (Construct.scan lines start).resumeAt
            (lines.drop (Construct.scan lines start).resumeAt)) := by
  obtain ⟨hscanned, _, _⟩ := Construct.complete_scan h
  constructor
  · intro hn region hr
    have hitems : ∀ i ∈ regionItems start (lines.drop start) region, i.statement ≠ .tryOpener :=
      fun i hi => ne_tryOpener_of_mem h hn hr hi
    refine ⟨fun i t ht => classify_ne_tryOpener h hn hr ht, hitems, ?_⟩
    intro r e line he
    exact Run.runItems_ne_nestedTry hitems r he line
  · intro k hk
    obtain ⟨hlow, hhigh, _⟩ := hscanned.nested k hk
    have hnested : (attemptAt lines start).nestedTry = some (k + 1) := by
      simp only [attemptAt, attemptOf, hk, Option.map_some]
    refine ⟨hlow, hhigh, fun r => r.runStep_refuse hnested,
      fun r => ⟨rfl, r.wrote_refuse (k + 1)⟩, ?_⟩
    intro line hline ht r
    rw [readFrom_tryOpener hline ht, ← r.runStep_refuse hnested]
    rfl

theorem nestedTry_settles_inline :
    let lines := ["try \x7b".toList, "try \x7b f() \x7d".toList, "\x7d".toList]
    let refusal := "[error] line 2: nested try block at line 2 is not supported".toList
    (Construct.scan lines 0).nestedTry = some 1 ∧ (Construct.scan lines 0).resumeAt = 3 ∧
      ∀ r : Run, r.runSteps (readFrom 0 lines) = (r.refuse 2).runSteps [] ∧
        (r.refuse 2).report.executed = r.report.executed + 1 ∧
        r.session.Wrote refusal (r.refuse 2).session := by
  intro lines refusal
  have hn : (Construct.scan lines 0).nestedTry = some 1 := by decide
  have hresume : (Construct.scan lines 0).resumeAt = 3 := by decide
  obtain ⟨_, hsome⟩ := nestedTry_settles (show 0 < lines.length by decide)
  obtain ⟨_, _, _, hrefuse, hrun⟩ := hsome 1 hn
  refine ⟨hn, hresume, fun r => ?_⟩
  have hr := hrun (lines.head (by decide)) rfl (by decide) r
  rw [hresume, List.drop_zero, show lines.drop 3 = [] from rfl, readFrom] at hr
  have htext : "[error] line ".toList ++ Text.ofNat (1 + 1) ++
      ": nested try block at line ".toList ++ Text.ofNat (1 + 1) ++ " is not supported".toList =
      refusal := by decide
  obtain ⟨hreport, hwrote⟩ := hrefuse r
  rw [htext] at hwrote
  exact ⟨hr, congrArg Report.executed hreport, hwrote⟩

end Program

end LineScript
