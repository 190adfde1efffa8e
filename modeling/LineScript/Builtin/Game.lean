import LineScript.Builtin.Basic
import LineScript.Host.Basic

/-!
Functions of the game module. They log what happens and answer with a result that is made up.
-/

namespace LineScript.Game

open Arguments

/-- The health of a new player, which healing does not exceed. -/
def fullHealth : Binary64 := .ofNat 100

/-- Logs an event of the game. -/
def logGame (h : Host) (t : Text) : Host := h.write ("[game] ".toList ++ t)

/-- A new player with full health. -/
def newPlayer (args : Arguments) (h : Host) : Reply × Host :=
  let name := (args[0]?.map Value.display).getD "player".toList
  let player : Entries Value := [
    ("name".toList, .str name), ("hp".toList, .num fullHealth), ("level".toList, .num (.ofNat 1))]
  (.value (.object player), logGame h (name ++ " enters the world".toList))

/-- A roll of a die. A die has six sides unless a number is given, and at least one. -/
def roll (args : Arguments) (h : Host) : Reply × Host :=
  let sides : Nat :=
    match (args.arg 0).toNumber? with
    | some x => (x.max (.ofNat 1)).toNat 32
    | none => 6
  let (n, h) := h.between 1 sides
  (.num (.ofInt n),
    logGame h ("rolled a d".toList ++ Text.ofNat sides ++ ": ".toList ++ Text.ofInt n))

/-- The number that the second argument stands for, or 10. -/
def strength (args : Arguments) : Binary64 := ((args.arg 1).toNumber?).getD (.ofNat 10)

/-- An attack: its power and up to five more. -/
def strike (args : Arguments) (h : Host) : Reply × Host :=
  let (bonus, h) := h.between 0 5
  let damage := (strength args).add (.ofInt bonus)
  (.num damage, logGame h ("attack on ".toList ++ (args.arg 0).display ++ " deals ".toList ++
    damage.plainText))

/-- Heals a player, an object with its health under `hp`. Of anything else the amount is the answer. -/
def restore (args : Arguments) (h : Host) : Reply × Host :=
  let amount := strength args
  match args.arg 0 with
  | .object player =>
    let health := ((Entries.get? "hp".toList player).bind Value.toNumber?).getD (.zero false)
    let healed := (health.add amount).min fullHealth
    (.value (.object (Entries.insert "hp".toList (.num healed) player)),
      logGame h ("healed to ".toList ++ healed.plainText))
  | other =>
    (.num amount,
      logGame h ("heal ".toList ++ other.display ++ " by ".toList ++ amount.plainText))

/-- Saves the game under a name. -/
def save (args : Arguments) (h : Host) : Reply × Host :=
  let slot := (args[0]?.map Value.display).getD "slot1".toList
  (.bool true, logGame h ("saved to ".toList ++ slot))

end LineScript.Game
