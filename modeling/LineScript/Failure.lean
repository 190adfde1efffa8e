import LineScript.Value.Basic

/-!
The failures that a statement can end in, and their messages. A function that is called with the wrong
kind of value mostly just says so and goes on; only the functions that are meant to raise end in a
failure.
-/

namespace LineScript

/-- Why a statement failed. -/
inductive Failure where
  /-- A script raised the message. -/
  | thrown (message : Text)
  | assertionFailed (message : Text)
  | divisionByZero
  /-- An operand of the wrong kind. -/
  | wrongArgument (function expected : Text) (got : Kind)
  /-- An access to a value that is not the container it should be. -/
  | wrongContainer (function expected : Text) (got : Kind)
  /-- A try construct inside another; the line is counted from 1. -/
  | nestedTry (line : Nat)
deriving DecidableEq

/-- What is said of a failure. -/
def Failure.message : Failure → Text
  | thrown message => message
  | assertionFailed message => "assertion failed: ".toList ++ message
  | divisionByZero => "division by zero".toList
  | wrongArgument function expected got =>
    function ++ " expects ".toList ++ expected ++ ", got ".toList ++ got.name
  | wrongContainer function expected got =>
    function ++ " requires ".toList ++ expected ++ ", got ".toList ++ got.name
  | nestedTry line =>
    "nested try block at line ".toList ++ Text.ofNat line ++ " is not supported".toList

/-- A failure and the number of the line it arose on, counted from 1. -/
structure LineFailure where
  line : Nat
  failure : Failure
deriving DecidableEq

/-- What is said of a failure together with its line. -/
def LineFailure.message (e : LineFailure) : Text :=
  "line ".toList ++ Text.ofNat e.line ++ ": ".toList ++ e.failure.message

end LineScript
