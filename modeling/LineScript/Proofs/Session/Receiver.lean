import LineScript.Proofs.Registry.Lookup
import LineScript.Proofs.Session.Evaluation
import LineScript.Session.Run

/-!
Calls that change the variable that is their first argument. Containers are values, and arguments are
evaluated in turn, so the function gets the value that the variable has before the other arguments are
evaluated. What it makes of that value is stored in the variable when the call is over, whatever the
other arguments have done to the variable in between (`mutator_call`). Their changes to other variables
stay.
-/

namespace LineScript.Session

section

variable {s : Session} {e : Entry} {name args x : Text} {rest : List Text} {v : Value}

/-- A function that changes containers stores the changed one in the variable that it was given. -/
theorem invoke_change (name : Text) {values : Arguments} {contents : Value}
    (hx : isIdentifier x = true) (hbound : s.vars.contains x = true)
    (hc : e.function.change? values v = some contents) :
    ∃ result, s.invoke e name (some x) (v :: values) = (.ok result, s.assign x contents) := by
  obtain ⟨result, hcall⟩ :=
    Builtin.call_of_change? (c := ⟨name, s.registry, v :: values⟩) hc s.host
  refine ⟨result, ?_⟩
  simp only [invoke, hcall, writeBack]
  rw [if_pos (by rw [hx, hbound]; rfl)]

/-- The arguments of a call are the value that the variable has at first, and the values of the others. -/
theorem evalOperands_receiver (hargs : Text.splitArguments args = x :: rest)
    (hx : isIdentifier x = true) (hword : Expression.reserved? x = none)
    (hv : s.vars.get? x = some v) :
    s.evalOperands (Operand.readAll args) =
      match s.evalOperands (rest.map Operand.read) with
      | (.error failure, s) => (.error failure, s)
      | (.ok values, s) => (.ok (v :: values), s) := by
  have hvalue : evaluate x s.vars = v := by
    rw [evaluate_identifier hx, hword, hv, Option.getD_none, Option.getD_some]
  have hall := evalOperands_identifier hx s (rest.map Operand.read)
  rw [hvalue] at hall
  rw [Operand.readAll, hargs, List.map_cons]
  exact hall

/-- Evaluating arguments keeps a variable bound, and leaves it alone if no call in them may change it. -/
theorem evalOperands_bound (rest : List Text) (hv : s.vars.get? x = some v) :
    (s.evalOperands (rest.map Operand.read)).2.vars.contains x = true ∧
      ((∀ t ∈ rest, ¬ s.registry.MayChange x t) →
        (s.evalOperands (rest.map Operand.read)).2.vars.get? x = some v) := by
  have hkeeps := s.evalOperands_keeps rest
  constructor
  · have hkind := hkeeps.kind x
    rw [hv] at hkind
    obtain ⟨v', hv', -⟩ := Option.map_eq_some_iff.mp hkind
    rw [Entries.contains, hv', Option.isSome_some]
  · intro hnone
    by_cases hsame : (s.evalOperands (rest.map Operand.read)).2.vars.get? x = s.vars.get? x
    · rw [hsame, hv]
    · obtain ⟨⟨t, ht, hchange⟩, -⟩ := hkeeps.changed x hsame
      exact absurd hchange (hnone t ht)

variable {t : Text}

/-- A call whose further arguments have values succeeds, and stores the changed container. -/
theorem eval_change (hsplit : splitCall? t = some (name, args))
    (hargs : Text.splitArguments args = x :: rest) (hknown : s.registry.lookup? name = some e)
    (hx : isIdentifier x = true) (hword : Expression.reserved? x = none)
    (hv : s.vars.get? x = some v) {values : Arguments} {s' : Session} {contents : Value}
    (hrest : s.evalOperands (rest.map Operand.read) = (.ok values, s'))
    (hc : e.function.change? values v = some contents) :
    ∃ result, s.eval t = (.ok result, s'.assign x contents) := by
  have hall := evalOperands_receiver (s := s) hargs hx hword hv
  have hbound := (evalOperands_bound (s := s) rest hv).1
  rw [hrest] at hall hbound
  obtain ⟨result, hinvoke⟩ := invoke_change name hx hbound hc
  refine ⟨result, ?_⟩
  simp only [eval_eq, hsplit, hknown, hall, hargs, List.head?_cons, hinvoke]

/-- A call of `pop` as the only argument has the last element as its value. -/
theorem evalOperands_pop {items : List Value} (hsplit : splitCall? t = some (name, args))
    (hargs : Text.splitArguments args = [x]) (hknown : s.registry.lookup? name = some e)
    (hpop : e.function = .pop) (hx : isIdentifier x = true)
    (hword : Expression.reserved? x = none) (hv : s.vars.get? x = some (.array items)) :
    s.evalOperands [Operand.read t] =
      (.ok [items.getLastD .null], s.assign x (.array items.dropLast)) := by
  have hall := evalOperands_receiver (s := s) hargs hx hword hv
  have hbound : s.vars.contains x = true := by rw [Entries.contains, hv, Option.isSome_some]
  have hcall : Builtin.pop.call ⟨name, s.registry, [.array items]⟩ s.host =
      ⟨.ok (items.getLastD .null), some (.array items.dropLast), s.host⟩ := rfl
  have hpopped : s.evalOperand (Operand.read t) =
      (.ok (items.getLastD .null), s.assign x (.array items.dropLast)) := by
    apply (eval_eq s t).trans
    simp only [hsplit, hknown, hall, hargs, List.map_nil, evalOperands, List.head?_cons, invoke,
      hpop, hcall, writeBack]
    rw [if_pos (by rw [hx, hbound]; rfl)]
  simp only [evalOperands, hpopped]

/-- A call `f(x, …)` of a function that changes containers of the kind of `x`, as an expression and as
a statement. It fails as its further arguments do. If they have values, it succeeds, and stores in `x`
what the function makes, with these values, of the value that `x` had before they were evaluated. That
is the value that `x` still has then, unless a call in the arguments may change `x`. -/
theorem mutator_call (hsplit : splitCall? t = some (name, args))
    (hargs : Text.splitArguments args = x :: rest) (hknown : s.registry.lookup? name = some e)
    (hx : isIdentifier x = true) (hword : Expression.reserved? x = none)
    (hv : s.vars.get? x = some v) (hkind : e.function.changes? = some v.kind) :
    (∀ failure s', s.evalOperands (rest.map Operand.read) = (.error failure, s') →
      s.eval t = (.error failure, s') ∧ s.runCall name args = (some failure, s')) ∧
    (∀ values s', s.evalOperands (rest.map Operand.read) = (.ok values, s') →
      ∃ result contents, e.function.change? values v = some contents ∧
        s.eval t = (.ok result, s'.assign x contents) ∧
        (s.runCall name args).1 = none ∧
        (s.runCall name args).2.vars = (s'.assign x contents).vars ∧
        (s'.assign x contents).vars.get? x = some contents) ∧
    ((∀ t ∈ rest, ¬ s.registry.MayChange x t) →
      (s.evalOperands (rest.map Operand.read)).2.vars.get? x = some v) := by
  have hall := evalOperands_receiver (s := s) hargs hx hword hv
  have hkeeps := s.evalOperands_keeps rest
  obtain ⟨hbound, hunchanged⟩ := evalOperands_bound (s := s) rest hv
  refine ⟨?_, ?_, hunchanged⟩
  · intro failure s' hrest
    rw [hrest] at hall
    constructor
    · simp only [eval_eq, hsplit, hknown, hall]
    · simp only [runCall, hall]
  · intro values s' hrest
    obtain ⟨contents, hc⟩ := Builtin.exists_change? hkind values
    obtain ⟨result, heval⟩ := eval_change hsplit hargs hknown hx hword hv hrest hc
    rw [hrest] at hall hbound hkeeps
    have hreceiver : (Operand.readAll args).head?.map Operand.source = some x := by
      rw [Operand.head?_readAll, hargs, List.head?_cons]
    -- As a statement, the name is looked up only when the arguments have been evaluated.
    have hknown' : s'.registry.lookup? name = some e := by rw [hkeeps.registry, hknown]
    obtain ⟨shown, hinvoke⟩ := invoke_change name hx hbound hc
    have hrun : s.runCall name args = (none, if e.echo = .traced then
        (s'.assign x contents).write (callTrace name (v :: values) shown)
        else s'.assign x contents) := by
      simp only [runCall, hall, hknown', hreceiver, hinvoke]
    refine ⟨result, contents, hc, heval, ?_, ?_, Entries.get?_insert_self x contents s'.vars⟩
    · rw [hrun]
    · rw [hrun]
      split <;> rfl

end

/-! ## A call that changes the variable among the arguments -/

theorem lookup?_push : Catalogue.coreRegistry.lookup? "push".toList =
    some (Catalogue.entry "push" ["append", "添加"] .push none) := by
  rw [Catalogue.lookup?_core]
  decide

theorem lookup?_pop : Catalogue.coreRegistry.lookup? "pop".toList =
    some (Catalogue.entry "pop" ["弹出"] .pop none) := by
  rw [Catalogue.lookup?_core]
  decide

theorem split_push_pop : isIdentifier "x".toList = true ∧
    splitCall? "push(x, pop(x))".toList = some ("push".toList, "x, pop(x)".toList) ∧
    splitCall? "pop(x)".toList = some ("pop".toList, "x".toList) ∧
    Text.splitArguments "x, pop(x)".toList = ["x".toList, "pop(x)".toList] ∧
    Text.splitArguments "x".toList = ["x".toList] := by
  decide

/-- A nested call takes the last element off, and it is there again and once more behind it. -/
theorem mutator_call_nested :
    let s : Session := { start [] ⟨.muted, .ofSeed 0, fun _ _ => [], 0⟩ with
      vars := [("x".toList, .array [.str "a".toList, .str "b".toList])] }
    ∃ result, s.eval "push(x, pop(x))".toList = (.ok result, s.assign "x".toList
      (.array [.str "a".toList, .str "b".toList, .str "b".toList])) := by
  intro s
  obtain ⟨hx, hpush, hpop, hargs, harg⟩ := split_push_pop
  have hrest := evalOperands_pop (s := s) hpop harg lookup?_pop rfl hx (by decide) rfl
  obtain ⟨-, hok, -⟩ := mutator_call (s := s) hpush hargs lookup?_push hx (by decide) rfl rfl
  obtain ⟨result, contents, hc, heval, -⟩ := hok _ _ hrest
  obtain rfl := Option.some.inj hc
  exact ⟨result, heval⟩

/-- What a call makes of its variable is not made of what the other arguments leave there. -/
theorem mutator_call_overwrites :
    let s : Session := { start [] ⟨.muted, .ofSeed 0, fun _ _ => [], 0⟩ with
      vars := [("x".toList, .array [.str "a".toList, .str "b".toList])] }
    ∃ values s' v result s'', s.evalOperands [Operand.read "pop(x)".toList] = (.ok values, s') ∧
      s'.vars.get? "x".toList = some v ∧
      s.eval "push(x, pop(x))".toList = (.ok result, s'') ∧
      s''.vars.get? "x".toList ≠ Builtin.push.change? values v := by
  intro s
  obtain ⟨hx, hpush, hpop, hargs, harg⟩ := split_push_pop
  have hrest := evalOperands_pop (s := s) hpop harg lookup?_pop rfl hx (by decide) rfl
  obtain ⟨result, heval⟩ := eval_change (s := s) hpush hargs lookup?_push hx (by decide) rfl hrest
    (show Builtin.push.change? _ _ = _ from rfl)
  refine ⟨_, _, _, result, _, hrest, rfl, heval, ?_⟩
  intro hsame
  have hitems := Value.array.inj (Option.some.inj hsame)
  exact absurd (congrArg List.length hitems) (by decide)

end LineScript.Session
