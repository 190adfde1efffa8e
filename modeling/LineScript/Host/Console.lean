import LineScript.Text.Basic

/-!
The console of a session as a value: what has been shown on it, and the answers that are still to be
given to prompts. Lines and prompts are kept in one log, since a terminal shows them in one order.
-/

namespace LineScript

/-- Something that a console shows, or a pause between two things that it shows. -/
inductive ConsoleEvent where
  | line (t : Text)
  | prompt (message : Text)
  | pause (nanoseconds : Nat)
deriving DecidableEq

/-- The nanoseconds that an event takes. -/
def ConsoleEvent.nanoseconds : ConsoleEvent → Nat
  | .pause n => n
  | _ => 0

/-- The nanoseconds of all pauses among events. -/
def pausedIn (events : List ConsoleEvent) : Nat :=
  events.foldr (fun e total => e.nanoseconds + total) 0

/-- What has gone by on a console: so many prompts, and so many nanoseconds of pausing. -/
structure Elapsed where
  prompts : Nat
  paused : Nat

/-- A console. -/
structure Console where
  /-- A silent console shows nothing and cancels every prompt. -/
  silent : Bool
  log : Array ConsoleEvent
  /-- The answers to the next prompts; `none` is a prompt that is cancelled. A prompt behind the last
  answer is cancelled as well. -/
  answers : List (Option Text)
  /-- Whether the console has been brought to the front. -/
  shown : Bool

namespace Console

/-- A console on which nothing has been shown, with answers to the first prompts. -/
def withAnswers (answers : List (Option Text)) : Console := ⟨false, #[], answers, false⟩

/-- A silent console. -/
def muted : Console := ⟨true, #[], [], false⟩

/-- The console with one more event in its log. -/
def record (c : Console) (e : ConsoleEvent) : Console :=
  if c.silent then c else { c with log := c.log.push e }

/-- Writes a line. -/
def write (c : Console) (t : Text) : Console := c.record (.line t)

/-- Asks for a line of text. The answer is `none` when the prompt is cancelled. -/
def prompt (c : Console) (message : Text) : Option Text × Console :=
  if c.silent then (none, c)
  else
    let c := c.record (.prompt message)
    match c.answers with
    | [] => (none, c)
    | answer :: rest => (answer, { c with answers := rest })

/-- Takes all lines away; prompts stay. -/
def clear (c : Console) : Console :=
  { c with log := c.log.filter fun | .line _ => false | _ => true }

/-- Brings the console to the front. -/
def bringToFront (c : Console) : Console := if c.silent then c else { c with shown := true }

/-- The lines on the console, oldest first. -/
def lines (c : Console) : List Text :=
  c.log.toList.filterMap fun | .line t => some t | _ => none

/-- The messages of the prompts so far, oldest first. -/
def prompts (c : Console) : List Text :=
  c.log.toList.filterMap fun | .prompt message => some message | _ => none

/-- What has gone by on the console. -/
def elapsed (c : Console) : Elapsed := ⟨c.prompts.length, pausedIn c.log.toList⟩

/-- The lines on the console, each with a line feed behind it. -/
def output (c : Console) : Text := c.lines.flatMap (· ++ ['\n'])

/-- What an event looks like on a terminal, where a prompt leaves the cursor behind its message. -/
def shownText : ConsoleEvent → Text
  | .line t => t ++ ['\n']
  | .prompt message => message
  | .pause _ => []

/-- The log as a terminal shows it. -/
def transcript (c : Console) : Text := c.log.toList.flatMap shownText

theorem lines_write {c : Console} (h : c.silent = false) (t : Text) :
    (c.write t).lines = c.lines ++ [t] := by
  simp [write, record, h, lines, List.filterMap_append]

theorem prompts_write (c : Console) (t : Text) : (c.write t).prompts = c.prompts := by
  cases h : c.silent <;> simp [write, record, h, prompts, List.filterMap_append]

end Console

end LineScript
