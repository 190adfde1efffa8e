import LineScript.Binary64.Arithmetic
import LineScript.Host.Console

/-!
What surrounds a session: its console, chance, and the clock. Chance is a sequence of draws and the
clock one of readings, so a session is a function of its host, and the same host always sees the same
session.
-/

namespace LineScript

/-- A sequence of natural numbers to draw from, and how many have been drawn. -/
structure Chance where
  source : Nat → Nat
  drawn : Nat

namespace Chance

/-- The next draw. -/
def draw (c : Chance) : Nat × Chance := (c.source c.drawn, { c with drawn := c.drawn + 1 })

/-- Draws of 64 bits that are spread well and depend on a seed. -/
def ofSeed (seed : Nat) : Chance where
  source i :=
    let z := (seed + (i + 1) * 0x9E3779B97F4A7C15) % 0x10000000000000000
    let z := (z ^^^ (z >>> 30)) * 0xBF58476D1CE4E5B9 % 0x10000000000000000
    let z := (z ^^^ (z >>> 27)) * 0x94D049BB133111EB % 0x10000000000000000
    z ^^^ (z >>> 31)
  drawn := 0

/-- An integer from `low` to `high`, which must not be less. -/
def between (c : Chance) (low high : Int) : Int × Chance :=
  let (n, c) := c.draw
  (low + n % (high - low + 1), c)

/-- A number from 0 up to, but not reaching, 1: a multiple of `2 ^ -53`. -/
def fraction (c : Chance) : Binary64 × Chance :=
  let (n, c) := c.draw
  (.ofUnits false (n % 0x20000000000000 * Binary64.unitsPerOne) 0x20000000000000, c)

end Chance

/-- What surrounds a session. -/
structure Host where
  console : Console
  chance : Chance
  /-- The local time, in words, at the reading with the given number, behind what has gone by. -/
  clock : Nat → Elapsed → Text
  /-- How often the clock has been read. -/
  readings : Nat

namespace Host

/-- Writes a line to the console. -/
def write (h : Host) (t : Text) : Host := { h with console := h.console.write t }

/-- Writes lines to the console. -/
def writeAll (h : Host) (ts : List Text) : Host := ts.foldl write h

/-- Asks for a line of text on the console. -/
def prompt (h : Host) (message : Text) : Option Text × Host :=
  let (answer, console) := h.console.prompt message
  (answer, { h with console })

/-- An integer from `low` to `high`. -/
def between (h : Host) (low high : Int) : Int × Host :=
  let (n, chance) := h.chance.between low high
  (n, { h with chance })

/-- A number from 0 up to, but not reaching, 1. -/
def fraction (h : Host) : Binary64 × Host :=
  let (x, chance) := h.chance.fraction
  (x, { h with chance })

/-- The next reading of the clock: the local time in words. -/
def now (h : Host) : Text × Host :=
  (h.clock h.readings h.console.elapsed, { h with readings := h.readings + 1 })

/-- Lets time pass. -/
def pause (h : Host) (nanoseconds : Nat) : Host :=
  { h with console := h.console.record (.pause nanoseconds) }

end Host

end LineScript
