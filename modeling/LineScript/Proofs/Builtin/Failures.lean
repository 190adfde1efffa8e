import LineScript.Proofs.Builtin.Reply

/-! Which failures a call of a built-in function can end in. Only the functions that are meant to raise
fail (`isFailure_reply`), and none of them with what is said of nested tries (`call_ne_nestedTry`). -/

namespace LineScript.Builtin

theorem reply_ne_nestedTry (f : Builtin) (c : BuiltinCall) (h : Host) (line : Nat) :
    (f.reply c h).1 ≠ .failure (.nestedTry line) := by
  cases hf : f.raises with
  | false =>
    intro hr
    have hno := isFailure_reply hf c h
    rw [hr] at hno
    contradiction
  | true =>
    cases f <;> simp [raises] at hf
    case assert =>
      simp only [reply, assertTruthy]
      split <;> simp [Reply.bool]
    case throw => simp [reply]
    case safeDivide =>
      simp only [reply, Numeric.divide]
      repeat' split
      all_goals simp [Reply.num]
    case safeArrayGet =>
      simp only [reply, Container.elementAt]
      split <;> simp
    case safeMapGet =>
      simp only [reply, Container.entryUnder]
      split <;> simp

theorem call_ne_nestedTry (f : Builtin) (c : BuiltinCall) (h : Host) (line : Nat) :
    (f.call c h).result ≠ .error (.nestedTry line) := by
  have hr := reply_ne_nestedTry f c h line
  unfold call
  split
  · simp
  · simp
  · simp
  · next e h' he =>
    intro hc
    simp only [Except.error.injEq] at hc
    rw [he, hc] at hr
    exact hr rfl

end LineScript.Builtin
