import LineScript.Proofs.Builtin.Reply

/-!
What the built-in functions do to the container they are given. Only `push`, `pop`, `insert`, `remove`,
`set` and `delete` hand a container back, each only for a container of its kind, and what they hand back
is the changed container (`update_call`), which is of the same kind as the one before. What the functions
on containers answer is stated of calls that only compute (`Builtin.Yields`).
-/

namespace LineScript.Builtin

theorem update_call (f : Builtin) (c : BuiltinCall) (h : Host) :
    (f.call c h).update = f.change? (c.args.drop 1) (c.args.arg 0) := by
  rw [← update?_reply f c h]
  unfold call
  split <;> next heq => rw [heq]; rfl

theorem host_reply_of_changes? {f : Builtin} {kind : Kind} (hf : f.changes? = some kind)
    (c : BuiltinCall) (h : Host) : (f.reply c h).2 = h := by
  cases f
  case push | pop | insert | remove | set | delete => rfl
  all_goals cases hf

/-- A function that changes its first argument does nothing else: it succeeds and leaves the host as it
was. -/
theorem call_of_change? {f : Builtin} {c : BuiltinCall} {contents : Value}
    (hc : f.change? (c.args.drop 1) (c.args.arg 0) = some contents) (h : Host) :
    ∃ v, f.call c h = ⟨.ok v, some contents, h⟩ := by
  have hhost : (f.reply c h).2 = h := host_reply_of_changes? (kind_of_change? hc).1 c h
  rw [← update?_reply f c h] at hc
  unfold call
  generalize f.reply c h = answer at hc hhost
  obtain ⟨reply, after⟩ := answer
  obtain rfl : after = h := hhost
  -- No other reply hands a container back.
  cases reply with
  | update v receiver =>
    cases hc
    exact ⟨v, rfl⟩
  | value | mismatch | failure => cases hc

/-! ## Calls that only compute -/

/-- Whatever name it is called by, whatever else can be called and whatever surrounds it, the function
answers to these arguments with `v`, hands `update` back, and leaves its host as it was. -/
def Yields (f : Builtin) (args : Arguments) (v : Value) (update : Option Value) : Prop :=
  ∀ (name : Text) (registry : Registry) (h : Host),
    f.call ⟨name, registry, args⟩ h = ⟨.ok v, update, h⟩

/-- A function has one answer to its arguments. -/
theorem Yields.inj {f : Builtin} {args : Arguments} {v v' : Value} {update update' : Option Value}
    (h : f.Yields args v update) (h' : f.Yields args v' update') : v = v' ∧ update = update' := by
  have heq := (h [] .empty ⟨.muted, .ofSeed 0, fun _ _ => [], 0⟩).symm.trans (h' [] .empty _)
  cases heq
  exact ⟨rfl, rfl⟩

end LineScript.Builtin
