import LineScript.Builtin.Container
import LineScript.Builtin.Game
import LineScript.Builtin.Numeric
import LineScript.Builtin.Textual
import LineScript.Registry

/-!
Calling a built-in function. `Builtin.reply` is what the function answers and what it does to its host;
`Builtin.call` makes an outcome of the answer, which is where a mismatch writes its one warning.
-/

namespace LineScript

/-- A call of a built-in function. -/
structure BuiltinCall where
  /-- The name that was called, which may be an alias. -/
  name : Text
  registry : Registry
  args : Arguments

/-- What a call comes to. -/
structure Outcome where
  result : Except Failure Value
  /-- The new contents of the container that was the first argument, if the function changed it. -/
  update : Option Value
  host : Host

namespace Builtin

open Arguments

/-- The answer to a condition: true, or a failure with the second argument as its message, or with the
condition itself. -/
def assertTruthy (args : Arguments) : Reply :=
  if (args.arg 0).isTruthy then .bool true
  else .failure (.assertionFailed (args[1]?.getD (args.arg 0)).display)

/-- The number of characters of a string or of elements of an array; 0 for anything else. -/
def lengthOf (v : Value) : Nat :=
  match v with
  | .str t => t.length
  | .array items => items.length
  | _ => 0

/-- The first argument as a number, changed by `op`. -/
def toNumeric (op : Binary64 → Binary64) (args : Arguments) : Reply :=
  match (args.arg 0).toNumber? with
  | some x => .num (op x)
  | none => .mismatch "a number or numeric string" (args.arg 0)

/-- What a function answers to a call, and the host after it. -/
def reply (f : Builtin) (c : BuiltinCall) (h : Host) : Reply × Host :=
  let args := c.args
  match f with
  | print =>
    let t := Text.joinWith [' '] args.texts
    (.str t, h.write t)
  | input =>
    let (answer, h) := h.prompt ((args[0]?.map Value.display).getD [])
    (.str (answer.getD []), h)
  | abs => (Numeric.unary Binary64.abs args, h)
  | max => (Numeric.extremum Binary64.max (.infinity true) args, h)
  | min => (Numeric.extremum Binary64.min (.infinity false) args, h)
  | round => (Numeric.unary Numeric.roundHalfUp args, h)
  | floor => (Numeric.unary Binary64.floor args, h)
  | ceil => (Numeric.unary Binary64.ceil args, h)
  | random =>
    let (x, h) := h.fraction
    (.num x, h)
  | randint => Numeric.randomInteger args h
  | now =>
    let (time, h) := h.now
    (.str time, h)
  | sleep => Numeric.sleepFor args h
  | array => (.value (.array args), h)
  | push => (Container.onArray (fun items => .changed (.array (items ++ args.drop 1))) args, h)
  | pop => (Container.onArray Container.popLast args, h)
  | insert =>
    (Container.onArray (fun items => .changed (.array
      (Container.insertAt (Container.position (args.arg 1) items.length) (args.arg 2) items))) args, h)
  | remove =>
    (Container.onArray
      (fun items => .changed (.array (Container.removeFirst (args.arg 1) items))) args, h)
  | indexOf =>
    (Container.onArray (fun items => .num (Container.indexNumber (args.arg 1) items)) args, h)
  | sort => (Container.onArray (fun items => .value (.array (Container.sorted items))) args, h)
  | reverse => (Container.onArray (fun items => .value (.array items.reverse)) args, h)
  | map => (.value (.object (Entries.ofPairs (Container.pairUp args))), h)
  | set =>
    (Container.onObject (fun entries => .changed (.object
      (entries.insert (args.arg 1).display (args.arg 2)))) args, h)
  | get =>
    (Container.onObject
      (fun entries => .value (Container.valueUnder (args.arg 1) (args.arg 2) entries)) args, h)
  | delete =>
    (Container.onObject
      (fun entries => .changed (.object (entries.erase (args.arg 1).display))) args, h)
  | keys =>
    (Container.onObject (fun entries => .value (.array (entries.keys.map Value.str))) args, h)
  | values => (Container.onObject (fun entries => .value (.array entries.values)) args, h)
  | has => (Container.hasMember args, h)
  | len => (.num (.ofNat (lengthOf (args.arg 0))), h)
  | type => (.str (args.arg 0).kind.name, h)
  | isNumber => (.bool ((args.arg 0).kind = .number), h)
  | isString => (.bool ((args.arg 0).kind = .string), h)
  | isArray => (.bool ((args.arg 0).kind = .array), h)
  | isObject => (.bool ((args.arg 0).kind = .object), h)
  | isEmpty => (.bool (args.arg 0).isEmpty, h)
  | safeDivide => (Numeric.divide c.name args, h)
  | safeArrayGet => (Container.elementAt c.name args, h)
  | safeMapGet => (Container.entryUnder c.name args, h)
  | str => (.str (args.arg 0).display, h)
  | int => (toNumeric Binary64.trunc args, h)
  | float => (toNumeric id args, h)
  | bool => (.bool (args.arg 0).isTruthy, h)
  | assert => (assertTruthy args, h)
  | throw => (.failure (.thrown (Text.joinWith [' '] args.texts)), h)
  | searchBuiltin =>
    let term := (args.arg 0).display
    (.value (.array ((c.registry.search term).map fun e => .str e.name)),
      h.writeAll (c.registry.report term))
  | spawnPlayer => Game.newPlayer args h
  | rollDice => Game.roll args h
  | attack => Game.strike args h
  | heal => Game.restore args h
  | saveGame => Game.save args h
  | upper => (Textual.onString (fun t => .str (Text.upper t)) args, h)
  | lower => (Textual.onString (fun t => .str (Text.lower t)) args, h)
  | trim => (Textual.onString (fun t => .str (Text.trim t)) args, h)
  | split => (Textual.onString (Textual.splitText args) args, h)
  | join => (Textual.joinTexts args, h)
  | replace =>
    (Textual.onString
      (fun t => .str (Text.replace (args.arg 1).display (args.arg 2).display t)) args, h)
  | contains =>
    (Textual.onString (fun t => .bool (Text.occursIn (args.arg 1).display t)) args, h)

/-- The warning for an argument of the wrong kind. -/
def mismatchWarning (name : Text) (expected : String) (got : Value) : Text :=
  "[warn] ".toList ++ name ++ " expects ".toList ++ expected.toList ++ ", got ".toList ++
    got.kind.name

/-- Calls a function. -/
def call (f : Builtin) (c : BuiltinCall) (h : Host) : Outcome :=
  match f.reply c h with
  | (.value v, h) => ⟨.ok v, none, h⟩
  | (.update v receiver, h) => ⟨.ok v, some receiver, h⟩
  | (.mismatch expected got, h) => ⟨.ok got, none, h.write (mismatchWarning c.name expected got)⟩
  | (.failure e, h) => ⟨.error e, none, h⟩

end Builtin

end LineScript
