import LineScript.CommandLine.Command

/-!
Conversations on a terminal. The answers to prompts are not known beforehand, so a task is done anew
with each further answer. What has been shown does not change by that: a task is a function of the
answers, and sees one only at its prompt. A turn of the conversation therefore shows the part of the log
that is new, up to the prompt that waits for an answer.
-/

namespace LineScript.CommandLine

/-- The events up to and with the first prompt behind `answered` others, and whether there is such a
prompt. -/
def upToPrompt (answered : Nat) : List ConsoleEvent → List ConsoleEvent × Bool
  | [] => ([], false)
  | .prompt message :: rest =>
    match answered with
    | 0 => ([.prompt message], true)
    | n + 1 =>
      let (events, waiting) := upToPrompt n rest
      (.prompt message :: events, waiting)
  | e :: rest =>
    let (events, waiting) := upToPrompt answered rest
    (e :: events, waiting)

/-- A turn of a conversation. -/
structure Turn where
  /-- The log of the console so far. -/
  log : List ConsoleEvent
  /-- Whether a prompt waits for an answer. -/
  waiting : Bool
  result : TaskResult

/-- The turn after the given answers. -/
def Task.turn (task : Task) (files : Files) (chance : Chance) (clock : Nat → Elapsed → Text)
    (answers : List (Option Text)) : Turn :=
  let r := task.perform files ⟨.withAnswers answers, chance, clock, 0⟩
  let (log, waiting) := upToPrompt answers.length r.console.log.toList
  ⟨log, waiting, r⟩

/-- What is shown is the start of the log. -/
theorem upToPrompt_prefix (answered : Nat) (events : List ConsoleEvent) :
    (upToPrompt answered events).1 <+: events := by
  fun_induction upToPrompt answered events with
  | case1 => exact List.prefix_refl _
  | case2 message rest => exact List.prefix_append [_] rest
  | case3 message rest n events waiting h ih =>
    rw [h] at ih
    exact (List.prefix_cons_inj _).mpr ih
  | case4 answered e rest _ events waiting h ih =>
    rw [h] at ih
    exact (List.prefix_cons_inj _).mpr ih

end LineScript.CommandLine
