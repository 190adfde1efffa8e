import LineScript.Builtin.Call

/-!
What the built-in functions can answer, read off their arguments. One table says what a function asks of
its arguments (`Builtin.demand?`), and the argument that it finds fault with is the first that does not
fit (`Builtin.misfit?`); one says what it makes of the container that it changes (`Builtin.change?`); and
five functions are meant to raise. Every answer is as the three say (`Reply.Accords`, `accords_reply`).
-/

namespace LineScript

open Arguments

/-- What a function asks of the arguments that it checks, and the words that a warning has for it. -/
structure Demand where
  admits : Value → Bool
  words : String

namespace Demand

/-- A value that can stand for a number. -/
def numeric (words : String) : Demand := ⟨fun v => v.toNumber?.isSome, words⟩

/-- A value of one of some kinds. -/
def ofKinds (kinds : List Kind) (words : String) : Demand := ⟨fun v => kinds.contains v.kind, words⟩

/-- The first value that is not what is asked for, behind the words for that. -/
def misfit? (d : Demand) (vs : List Value) : Option (String × Value) :=
  (vs.find? fun v => !d.admits v).map (d.words, ·)

variable {d : Demand} {v : Value}

theorem misfit?_cons_of_admits (h : d.admits v = true) (vs : List Value) :
    d.misfit? (v :: vs) = d.misfit? vs := by
  simp [misfit?, h]

theorem misfit?_cons_of_not_admits (h : d.admits v = false) (vs : List Value) :
    d.misfit? (v :: vs) = some (d.words, v) := by
  simp [misfit?, h]

end Demand

namespace Builtin

open Container

/-! ## What is asked, changed and raised -/

/-- What a function asks of the arguments that it checks. Most functions take any, and those that are
meant to raise do not warn. -/
def demand? : Builtin → Option Demand
  | abs | round | floor | ceil => some (.numeric "a number")
  | max | min => some (.numeric "numbers")
  | randint => some (.numeric "two numbers")
  | sleep => some (.numeric "a number of seconds")
  | int | float => some (.numeric "a number or numeric string")
  | push | pop | insert | remove | indexOf | sort | reverse | join =>
    some (.ofKinds [.array] "an array")
  | set | get | delete | keys | values => some (.ofKinds [.object] "an object")
  | has => some (.ofKinds [.object, .array] "an object")
  | upper | lower | trim | split | replace | contains => some (.ofKinds [.string] "a string")
  | print | input | random | now | array | map | len | type | isNumber | isString | isArray
  | isObject | isEmpty | safeDivide | safeArrayGet | safeMapGet | str | bool | assert | throw
  | searchBuiltin | spawnPlayer | rollDice | attack | heal | saveGame => none

/-- The arguments that a function checks, in the order in which it does. -/
def checked (f : Builtin) (args : Arguments) : List Value :=
  match f with
  | max | min => args
  | randint => [args.arg 0, args.arg 1]
  | _ => [args.arg 0]

/-- The argument that a function finds fault with, behind the words for what it asks. -/
def misfit? (f : Builtin) (args : Arguments) : Option (String × Value) :=
  f.demand?.bind fun d => d.misfit? (f.checked args)

/-- The kind of container that a function changes. -/
def changes? : Builtin → Option Kind
  | push | pop | insert | remove => some .array
  | set | delete => some .object
  | _ => none

/-- What a function makes of a container, with the arguments behind it. -/
def change? (f : Builtin) (args : Arguments) (v : Value) : Option Value :=
  match f, v with
  | push, .array items => some (.array (items ++ args))
  | pop, .array items => some (.array items.dropLast)
  | insert, .array items =>
    some (.array (insertAt (position (args.arg 0) items.length) (args.arg 1) items))
  | remove, .array items => some (.array (removeFirst (args.arg 0) items))
  | set, .object entries =>
    some (.object (Entries.insert (args.arg 0).display (args.arg 1) entries))
  | delete, .object entries => some (.object (Entries.erase (args.arg 0).display entries))
  | _, _ => none

/-- The functions that are meant to raise. -/
def raises (f : Builtin) : Bool :=
  [assert, throw, safeDivide, safeArrayGet, safeMapGet].contains f

/-- A function changes the containers of its kind. -/
theorem exists_change? {f : Builtin} {v : Value} (h : f.changes? = some v.kind) (args : Arguments) :
    ∃ contents, f.change? args v = some contents := by
  cases f
  case push | pop | insert | remove =>
    cases v with
    | array items => exact ⟨_, rfl⟩
    | _ => cases h
  case set | delete =>
    cases v with
    | object entries => exact ⟨_, rfl⟩
    | _ => cases h
  all_goals cases h

/-- A change is made by one of these functions, and leaves an array an array and an object an object. -/
theorem kind_of_change? {f : Builtin} {args : Arguments} {v contents : Value}
    (h : f.change? args v = some contents) :
    f.changes? = some v.kind ∧ contents.kind = v.kind := by
  unfold change? at h
  split at h <;> cases h <;> exact ⟨rfl, rfl⟩

/-- A function changes nothing of another kind. -/
theorem change?_eq_none {f : Builtin} {v : Value} (h : f.changes? ≠ some v.kind) (args : Arguments) :
    f.change? args v = none :=
  Option.eq_none_iff_forall_ne_some.mpr fun _ hc => h (kind_of_change? hc).1

theorem container_of_changes? {f : Builtin} {kind : Kind} (h : f.changes? = some kind) :
    kind = .array ∨ kind = .object := by
  cases f <;> cases h <;> first | exact Or.inl rfl | exact Or.inr rfl

theorem arg_drop (args : Arguments) (i : Nat) :
    Arguments.arg (args.drop 1) i = args.arg (i + 1) := by
  cases args <;> rfl

end Builtin

/-! ## Answers -/

namespace Reply

/-- Whether an answer is a failure. -/
def isFailure : Reply → Bool
  | .failure _ => true
  | _ => false

/-- The container that an answer hands back. -/
def update? : Reply → Option Value
  | .update _ contents => some contents
  | _ => none

/-- The argument that an answer finds fault with, behind the words for what was asked. -/
def mismatch? : Reply → Option (String × Value)
  | .mismatch words got => some (words, got)
  | _ => none

/-- An answer finds the fault with the arguments that there is to find, hands back what a container has
been changed to, and fails only if it may. -/
structure Accords (r : Reply) (fault : Option (String × Value)) (contents : Option Value)
    (raises : Bool) : Prop where
  mismatch?_eq : r.mismatch? = fault
  update?_eq : r.update? = contents
  raises_of_isFailure : r.isFailure = true → raises = true

variable {raises : Bool}

theorem accords_value (v : Value) : (value v).Accords none none raises := ⟨rfl, rfl, nofun⟩

theorem accords_update (v contents : Value) :
    (update v contents).Accords none (some contents) raises :=
  ⟨rfl, rfl, nofun⟩

theorem accords_mismatch (words : String) (got : Value) :
    (mismatch words got).Accords (some (words, got)) none raises :=
  ⟨rfl, rfl, nofun⟩

theorem accords_failure (e : Failure) : (failure e).Accords none none true := ⟨rfl, rfl, fun _ => rfl⟩

end Reply

open Reply

/-! ## The families of functions -/

/-- An answer to a value that is not a number finds fault with that value. -/
theorem Demand.accords_numeric {words : String} {v : Value} {rest : List Value}
    {answer : Binary64 → Reply}
    (h : ∀ x, (answer x).Accords ((Demand.numeric words).misfit? rest) none false) :
    (match v.toNumber? with
      | some x => answer x
      | none => .mismatch words v).Accords ((Demand.numeric words).misfit? (v :: rest)) none false := by
  cases hv : v.toNumber? with
  | some x =>
    have hfits : (Demand.numeric words).admits v = true := by simp [Demand.numeric, hv]
    rw [misfit?_cons_of_admits hfits]
    exact h x
  | none =>
    have hno : (Demand.numeric words).admits v = false := by simp [Demand.numeric, hv]
    rw [misfit?_cons_of_not_admits hno]
    exact accords_mismatch words v

namespace Numeric

theorem accords_unary (op : Binary64 → Binary64) (args : Arguments) :
    (unary op args).Accords ((Demand.numeric "a number").misfit? [args.arg 0]) none false :=
  Demand.accords_numeric fun x => accords_value (.num (op x))

theorem accords_extremum (pick : Binary64 → Binary64 → Binary64) (start : Binary64)
    (args : Arguments) :
    (extremum pick start args).Accords ((Demand.numeric "numbers").misfit? args) none false := by
  induction args generalizing start with
  | nil => exact accords_value _
  | cons v rest ih => exact Demand.accords_numeric fun x => ih (pick start x)

theorem accords_randomInteger (args : Arguments) (h : Host) :
    (randomInteger args h).1.Accords
      ((Demand.numeric "two numbers").misfit? [args.arg 0, args.arg 1]) none false := by
  unfold randomInteger
  cases hlow : (args.arg 0).toNumber? with
  | none => simpa [Demand.misfit?, Demand.numeric, hlow] using accords_mismatch _ _
  | some low =>
    cases hhigh : (args.arg 1).toNumber? with
    | none => simpa [Demand.misfit?, Demand.numeric, hlow, hhigh] using accords_mismatch _ _
    | some high =>
      simp only [Demand.misfit?, Demand.numeric, List.find?, hlow, hhigh, Option.isSome_some]
      split <;> exact accords_value _

theorem accords_sleepFor (args : Arguments) (h : Host) :
    (sleepFor args h).1.Accords
      ((Demand.numeric "a number of seconds").misfit? [args.arg 0]) none false := by
  unfold sleepFor
  cases hseconds : (args.arg 0).toNumber? with
  | none => simpa [Demand.misfit?, Demand.numeric, hseconds] using accords_mismatch _ _
  | some seconds =>
    simp only [Demand.misfit?, Demand.numeric, List.find?, hseconds, Option.isSome_some]
    split <;> exact accords_value _

theorem accords_divide (name : Text) (args : Arguments) :
    (divide name args).Accords none none true := by
  unfold divide
  repeat' split
  all_goals first | exact accords_value _ | exact accords_failure _

end Numeric

namespace Container

variable {args : Arguments} {contents : Option Value}

theorem accords_onArray {answer : List Value → Reply}
    (h : ∀ items, args.arg 0 = .array items → (answer items).Accords none contents false)
    (hno : (args.arg 0).kind ≠ .array → contents = none) :
    (onArray answer args).Accords ((Demand.ofKinds [.array] "an array").misfit? [args.arg 0]) contents
      false := by
  unfold onArray
  cases hv : args.arg 0 with
  | array items => exact h items hv
  | _ =>
    rw [hno (by simp [hv, Value.kind])]
    exact accords_mismatch _ _

theorem accords_onObject {answer : Entries Value → Reply}
    (h : ∀ entries, args.arg 0 = .object entries → (answer entries).Accords none contents false)
    (hno : (args.arg 0).kind ≠ .object → contents = none) :
    (onObject answer args).Accords ((Demand.ofKinds [.object] "an object").misfit? [args.arg 0])
      contents false := by
  unfold onObject
  cases hv : args.arg 0 with
  | object entries => exact h entries hv
  | _ =>
    rw [hno (by simp [hv, Value.kind])]
    exact accords_mismatch _ _

theorem accords_hasMember (args : Arguments) :
    (hasMember args).Accords ((Demand.ofKinds [.object, .array] "an object").misfit? [args.arg 0]) none
      false := by
  unfold hasMember
  cases args.arg 0 with
  | object | array => exact accords_value _
  | _ => exact accords_mismatch _ _

theorem accords_elementAt (name : Text) (args : Arguments) :
    (elementAt name args).Accords none none true := by
  unfold elementAt
  split
  · exact accords_value _
  · exact accords_failure _

theorem accords_entryUnder (name : Text) (args : Arguments) :
    (entryUnder name args).Accords none none true := by
  unfold entryUnder
  split
  · exact accords_value _
  · exact accords_failure _

end Container

namespace Textual

theorem accords_onString {answer : Text → Reply} (h : ∀ t, (answer t).Accords none none false)
    (args : Arguments) :
    (onString answer args).Accords ((Demand.ofKinds [.string] "a string").misfit? [args.arg 0]) none
      false := by
  unfold onString
  cases args.arg 0 with
  | str t => exact h t
  | _ => exact accords_mismatch _ _

theorem accords_joinTexts (args : Arguments) :
    (joinTexts args).Accords ((Demand.ofKinds [.array] "an array").misfit? [args.arg 0]) none
      false := by
  unfold joinTexts
  cases args.arg 0 with
  | array => exact accords_value _
  | _ => exact accords_mismatch _ _

end Textual

theorem Game.accords_restore (args : Arguments) (h : Host) :
    (restore args h).1.Accords none none false := by
  simp only [restore]
  split <;> exact accords_value _

namespace Builtin

theorem accords_toNumeric (op : Binary64 → Binary64) (args : Arguments) :
    (toNumeric op args).Accords
      ((Demand.numeric "a number or numeric string").misfit? [args.arg 0]) none false :=
  Demand.accords_numeric fun x => accords_value (.num (op x))

theorem accords_assertTruthy (args : Arguments) : (assertTruthy args).Accords none none true := by
  unfold assertTruthy
  split
  · exact accords_value _
  · exact accords_failure _

/-! ## All functions -/

/-- Every answer is as the tables say. -/
theorem accords_reply (f : Builtin) (c : BuiltinCall) (h : Host) :
    (f.reply c h).1.Accords (f.misfit? c.args) (f.change? (c.args.drop 1) (c.args.arg 0)) f.raises := by
  cases f
  case abs | round | floor | ceil => exact Numeric.accords_unary _ _
  case max | min => exact Numeric.accords_extremum _ _ _
  case randint => exact Numeric.accords_randomInteger _ _
  case sleep => exact Numeric.accords_sleepFor _ _
  case push | pop | insert | remove =>
    refine Container.accords_onArray (fun items hitems => ?_) fun hno => ?_
    · simp only [change?, hitems, arg_drop]
      exact accords_update _ _
    · refine change?_eq_none (fun hkind => ?_) _
      exact hno (Option.some.inj hkind).symm
  case set | delete =>
    refine Container.accords_onObject (fun entries hentries => ?_) fun hno => ?_
    · simp only [change?, hentries, arg_drop]
      exact accords_update _ _
    · refine change?_eq_none (fun hkind => ?_) _
      exact hno (Option.some.inj hkind).symm
  case indexOf | sort | reverse =>
    exact Container.accords_onArray (fun _ _ => accords_value _) fun _ => rfl
  case get | keys | values =>
    exact Container.accords_onObject (fun _ _ => accords_value _) fun _ => rfl
  case has => exact Container.accords_hasMember _
  case int | float => exact accords_toNumeric _ _
  case upper | lower | trim | split | replace | contains =>
    exact Textual.accords_onString (fun _ => accords_value _) _
  case join => exact Textual.accords_joinTexts _
  case heal => exact Game.accords_restore _ _
  case safeDivide => exact Numeric.accords_divide _ _
  case safeArrayGet => exact Container.accords_elementAt _ _
  case safeMapGet => exact Container.accords_entryUnder _ _
  case assert => exact accords_assertTruthy _
  case throw => exact accords_failure _
  all_goals exact accords_value _

/-- A function answers with a mismatch exactly when it finds fault with an argument, and then with that
argument. -/
theorem mismatch?_reply (f : Builtin) (c : BuiltinCall) (h : Host) :
    (f.reply c h).1.mismatch? = f.misfit? c.args :=
  (accords_reply f c h).mismatch?_eq

/-- What a function hands back is the change that it makes of its first argument. -/
theorem update?_reply (f : Builtin) (c : BuiltinCall) (h : Host) :
    (f.reply c h).1.update? = f.change? (c.args.drop 1) (c.args.arg 0) :=
  (accords_reply f c h).update?_eq

/-- A function that is not meant to raise does not fail. -/
theorem isFailure_reply {f : Builtin} (hf : f.raises = false) (c : BuiltinCall) (h : Host) :
    (f.reply c h).1.isFailure = false :=
  Bool.eq_false_iff.mpr fun hfails =>
    Bool.eq_false_iff.mp hf ((accords_reply f c h).raises_of_isFailure hfails)

end Builtin

end LineScript
