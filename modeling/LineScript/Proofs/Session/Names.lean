import LineScript.Proofs.Block.Binding
import LineScript.Proofs.Session.Gains

/-!
The names of the variables that a session has come to, whatever it has been given. An assignment and a
change of a container go to names alone, but a handler takes any word: one that begins with a number
becomes a variable that no change reaches (`names_reachable`).
-/

namespace LineScript

open Unicode

/-- What a session can be given: a source to run, or a text to evaluate. -/
inductive Input where
  | source (t : Text)
  | text (t : Text)

namespace Session

/-- The session after it has been given something, whether that succeeds or fails. -/
def take (s : Session) : Input → Session
  | .source t => (s.execute t).2
  | .text t => (s.eval t).2

/-- The session after it has been given one thing after another. -/
def takeAll (s : Session) (inputs : List Input) : Session := inputs.foldl take s

theorem mem_assigned {s : Session} {statement : Statement} {x : Text}
    (h : x ∈ s.assigned statement) : ∃ expression, statement = .assignment x expression := by
  unfold assigned at h
  split at h
  · split at h
    · exact ⟨_, by rw [List.mem_singleton.mp h]⟩
    · cases h
  · cases h

end Session

/-! ## Names that are bound -/

/-- A text is a name, or some line opens a handler that binds the error to it. -/
def Bindable (lines : List Text) (x : Text) : Prop :=
  isIdentifier x = true ∨ ∃ line ∈ lines, Opener.Binds line x

theorem Dispatch.Says.bindable {lines : List Text} {i : Item} {x expression : Text}
    (h : (Dispatch.statement i).Says lines) (hi : i.statement = .assignment x expression) :
    Bindable lines x := by
  obtain ⟨k, t, -, -, ht | ⟨body, -, hbody⟩⟩ := h
  · exact Or.inl (Statement.isIdentifier_of_classify (ht.symm.trans hi))
  · exact Or.inl (Statement.isIdentifier_of_classify (hbody.symm.trans hi))

theorem Program.bindable_binding {lines : List Text} {a : Attempt} {x : Text}
    (h : .attempt a ∈ read lines) (hx : a.binding = some x) : Bindable lines x := by
  obtain ⟨k, line, -, -, hstep | ⟨hstep, -⟩⟩ := exists_of_mem_read h
  · cases hstep
  · obtain rfl := Step.attempt.inj hstep
    exact Or.inr (Construct.binding_scan lines k x hx)

/-- An act of a program binds names, and words that a handler in its lines binds. -/
theorem Run.bindable_of_mem_acts {lines : List Text} {r : Run} {a : Act} {x : Text}
    (ha : a ∈ r.acts (Program.read lines)) {s : Session} (hx : x ∈ a.names s) :
    Bindable lines x := by
  cases a with
  | dispatch d =>
    cases d with
    | construct line => cases hx
    | statement i =>
      obtain ⟨expression, hi⟩ := Session.mem_assigned hx
      exact (Run.says_of_mem_acts ha).bindable hi
  | catching failure binding =>
    rcases List.mem_append.mp hx with hx | hx
    · have table : ∀ name ∈ errorVariables, isIdentifier name = true := by decide +kernel
      exact Or.inl (table x hx)
    · obtain ⟨a, hmem, -, hbinding⟩ := Run.catching_of_mem_acts ha
      exact Program.bindable_binding hmem (hbinding.trans (Option.mem_toList.mp hx))
  | report e => cases hx

namespace Session

theorem mem_keys_execute {s : Session} {source x : Text}
    (h : x ∈ (s.execute source).2.vars.keys) :
    x ∈ s.vars.keys ∨ Bindable (Text.lines source) x := by
  rw [(s.gains_execute source).keys, mem_addNames, Run.mem_namesOf] at h
  rcases h with h | ⟨earlier, a, later, hacts, hx⟩
  · exact Or.inl h
  · have ha := List.mem_append_right earlier (List.mem_cons_self (a := a) (l := later))
    rw [← hacts] at ha
    exact Or.inr (Run.bindable_of_mem_acts ha hx)

/-- A variable that a session has come to have was bound by its name, or by a handler of a source that it
was given. -/
theorem mem_keys_takeAll {s : Session} {inputs : List Input} {x : Text}
    (h : x ∈ (s.takeAll inputs).vars.keys) :
    x ∈ s.vars.keys ∨ isIdentifier x = true ∨
      ∃ source, .source source ∈ inputs ∧ ∃ line ∈ Text.lines source, Opener.Binds line x := by
  induction inputs generalizing s with
  | nil => exact Or.inl h
  | cons input rest ih =>
    rcases ih h with hfirst | hname | ⟨source, hm, hbinds⟩
    · cases input with
      | source t =>
        rcases mem_keys_execute hfirst with hold | hname | hbinds
        · exact Or.inl hold
        · exact Or.inr (Or.inl hname)
        · exact Or.inr (Or.inr ⟨t, List.mem_cons_self, hbinds⟩)
      | text t => exact Or.inl ((s.eval_keeps t).names ▸ hfirst)
    · exact Or.inr (Or.inl hname)
    · exact Or.inr (Or.inr ⟨source, List.mem_cons_of_mem input hm, hbinds⟩)

/-! ## Using a variable -/

section

variable {s : Session} {x : Text} {v : Value}

/-- A variable with a name can be read, unless the name is a reserved word, and a changed container is
stored in it. -/
theorem reaches_of_identifier (hx : isIdentifier x = true) (hv : s.vars.get? x = some v) :
    (Expression.reserved? x = none → s.eval x = (.ok v, s)) ∧
      ∀ v', s.writeBack (some x) (some v') = s.assign x v' := by
  refine ⟨fun hr => ?_, fun v' => ?_⟩
  · rw [eval_word (isWord_of_isIdentifier hx), evaluate_identifier hx, hr, hv, Option.getD_none,
      Option.getD_some]
  · have hbound : s.vars.contains x = true := by rw [Entries.contains, hv, Option.isSome_some]
    simp only [writeBack, hx, hbound, Bool.and_self, ↓reduceIte]

/-- Of a variable with another word a number hides the value, and no changed container is stored in it. -/
theorem reaches_of_not_identifier (hword : IsWord x) (hx : isIdentifier x = false)
    (hv : s.vars.get? x = some v) :
    s.eval x = (.ok (((Binary64.read? x).map Value.num).getD v), s) ∧
      ∀ update, s.writeBack (some x) update = s := by
  refine ⟨?_, fun update => ?_⟩
  · have hr : Expression.reserved? x = none := by
      cases hr : Expression.reserved? x with
      | none => rfl
      | some w => rw [isIdentifier_of_reserved? hr] at hx; contradiction
    rw [eval_word hword, hword.evaluate_eq, hr, hv]
    cases Binary64.read? x <;> rfl
  · cases update with
    | none => rfl
    | some v' => simp only [writeBack, hx, Bool.false_and, Bool.false_eq_true, ↓reduceIte]

end

/-- The variables of a session that began with none, after any sources and texts. Most have names: they
can be read wherever an expression stands, unless a reserved word hides them, and a changed container
is stored in them. Any other is a word that begins with a number, to which a handler of one of the
sources binds the error; it cannot be read if the word is a number, and no changed container is stored
in it. -/
theorem names_reachable (modules : ModuleTable) (host : Host) (inputs : List Input) :
    let s := (start modules host).takeAll inputs
    ∀ x v, s.vars.get? x = some v →
      (isIdentifier x = true ∧ (Expression.reserved? x = none → s.eval x = (.ok v, s)) ∧
        ∀ v', s.writeBack (some x) (some v') = s.assign x v') ∨
      (isIdentifier x = false ∧ IsWord x ∧ (∃ c rest, x = c :: rest ∧ isNumeric c = true) ∧
        (∃ source, .source source ∈ inputs ∧ ∃ line ∈ Text.lines source, Opener.Binds line x) ∧
        s.eval x = (.ok (((Binary64.read? x).map Value.num).getD v), s) ∧
        ∀ update, s.writeBack (some x) update = s) := by
  intro s x v hv
  cases hx : isIdentifier x with
  | true => exact Or.inl ⟨rfl, reaches_of_identifier hx hv⟩
  | false =>
    have hmem : x ∈ s.vars.keys := Entries.mem_keys_iff.mpr ⟨v, hv⟩
    rcases mem_keys_takeAll hmem with hstart | hname | ⟨source, hm, line, hline, hbinds⟩
    · cases hstart
    · rw [hx] at hname
      contradiction
    · have hword := hbinds.isWord
      exact Or.inr ⟨rfl, hword, hword.isNumeric_of_not_identifier hx,
        ⟨source, hm, line, hline, hbinds⟩, reaches_of_not_identifier hword hx hv⟩

/-- A construct that throws the text `x` and calls the error `1`. -/
def catchAsNumber : Text := "try \x7b\nthrow(\"x\")\n\x7d catch (1) \x7b\n\x7d".toList

theorem eval_quoted (s : Session) : s.eval "\"x\"".toList = (.ok (.str "x".toList), s) := by
  have hplain : splitCall? "\"x\"".toList = none := by decide
  have hvalue : evaluate "\"x\"".toList s.vars = .str "x".toList :=
    evaluate_nested (v := .str "x".toList) (.str (by decide)) s.vars
  rw [eval_eq, hplain, hvalue]

theorem evalOperands_quoted (s : Session) :
    s.evalOperands (Operand.readAll "\"x\"".toList) = (.ok [.str "x".toList], s) := by
  have hsplit : Text.splitArguments "\"x\"".toList = ["\"x\"".toList] := by decide
  have heval : s.evalOperand (Operand.read "\"x\"".toList) = (.ok (.str "x".toList), s) :=
    s.eval_quoted
  simp only [Operand.readAll, hsplit, List.map_singleton, evalOperands, heval]

theorem runCall_throw {s : Session} {e : Entry}
    (hknown : s.registry.lookup? "throw".toList = some e) (hthrow : e.function = .throw) :
    s.runCall "throw".toList "\"x\"".toList = (some (.thrown "x".toList), s) := by
  have hreceiver : (Operand.readAll "\"x\"".toList).head?.map Operand.source = some "\"x\"".toList := by
    rw [Operand.head?_readAll]
    decide
  have hcall : Builtin.throw.call ⟨"throw".toList, s.registry, [.str "x".toList]⟩ s.host =
      ⟨.error (.thrown "x".toList), none, s.host⟩ := rfl
  simp only [runCall, evalOperands_quoted, hknown, hreceiver, invoke, hthrow, hcall, writeBack]

theorem take_catchAsNumber {s : Session} {e : Entry}
    (hknown : s.registry.lookup? "throw".toList = some e) (hthrow : e.function = .throw) :
    s.take (.source catchAsNumber) = s.bindError (.thrown "x".toList) (some "1".toList) := by
  have hread : Program.read (Text.lines catchAsNumber) = [.attempt ⟨1, none,
      [⟨2, .call "throw".toList "\"x\"".toList⟩], some "1".toList, some [], none⟩] := by
    decide +kernel
  have hrun := runCall_throw hknown hthrow
  simp only [take, execute, hread, Run.runSteps, List.foldl_cons, List.foldl_nil, Run.runStep,
    Run.runAttempt, Run.runBody, Run.runItems, Run.runItem, Run.count, Statement.counts, ↓reduceIte,
    runItem, hrun, Option.map_some, Run.runHandler]

/-- The thrown text is there under the usual names and under the number. -/
theorem get?_catchAsNumber (modules : ModuleTable) (host : Host) {x : Text}
    (hx : x ∈ errorVariables ++ ["1".toList]) :
    ((start modules host).takeAll [.source catchAsNumber]).vars.get? x = some (.str "x".toList) := by
  have hknown : (start modules host).registry.lookup? "throw".toList =
      Catalogue.core.reverse.find? ("throw".toList ∈ ·.names) := Catalogue.lookup?_core _
  have hthrow : (Catalogue.core.reverse.find? ("throw".toList ∈ ·.names)).map (·.function) =
      some .throw := by
    decide
  obtain ⟨e, he, hfunction⟩ := Option.map_eq_some_iff.mp hthrow
  rw [takeAll, List.foldl_cons, List.foldl_nil, take_catchAsNumber (hknown.trans he) hfunction]
  exact (catches_bindError _ _ _).bound x hx

/-- The usual name of the error, and a number that it is bound to as well. -/
theorem names_reachable_catch :
    let s := (start [] ⟨.muted, .ofSeed 0, fun _ _ => [], 0⟩).takeAll [.source catchAsNumber]
    ∃ v, s.vars.get? "error".toList = some v ∧ s.eval "error".toList = (.ok v, s) ∧
      s.vars.get? "1".toList = some v ∧ ∀ update, s.writeBack (some "1".toList) update = s := by
  have herror := get?_catchAsNumber [] ⟨.muted, .ofSeed 0, fun _ _ => [], 0⟩
    (show "error".toList ∈ errorVariables ++ ["1".toList] by decide)
  have hnumber := get?_catchAsNumber [] ⟨.muted, .ofSeed 0, fun _ _ => [], 0⟩
    (show "1".toList ∈ errorVariables ++ ["1".toList] by decide)
  refine ⟨_, herror, ?_, hnumber, ?_⟩
  · rcases names_reachable [] _ [.source catchAsNumber] _ _ herror with
      ⟨-, hread, -⟩ | ⟨hname, -⟩
    · exact hread (by decide)
    · exact absurd hname (by decide)
  · rcases names_reachable [] _ [.source catchAsNumber] _ _ hnumber with
      ⟨hname, -⟩ | ⟨-, -, -, -, -, hstore⟩
    · exact absurd hname (by decide)
    · exact hstore

/-- A variable whose name is a number. -/
theorem catch_binds_number :
    let s := (start [] ⟨.muted, .ofSeed 0, fun _ _ => [], 0⟩).takeAll [.source catchAsNumber]
    s.vars.get? "1".toList = some (.str "x".toList) ∧ isIdentifier "1".toList = false := by
  have hnumber := get?_catchAsNumber [] ⟨.muted, .ofSeed 0, fun _ _ => [], 0⟩
    (show "1".toList ∈ errorVariables ++ ["1".toList] by decide)
  exact ⟨hnumber, by decide⟩

end Session

end LineScript
