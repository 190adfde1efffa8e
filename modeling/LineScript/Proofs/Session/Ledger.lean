import LineScript.Session.Run

/-! Logs in which the numbers of lines are left open. A `LogEntry` is an event, or one of the two
kinds of lines that mention numbers; a `Ledger` is a state that can be given such a log under any
numbering. A computation is `Uniform` when it does the same under every numbering. The built-in
functions are (`uniform_call`): what they do to a log is to write behind it, and they read nothing
from it but its prompts and pauses. -/

namespace LineScript

/-- The failure with other numbers for lines. -/
def Failure.renumber (f : Nat → Nat) : Failure → Failure
  | .nestedTry line => .nestedTry (f line)
  | e => e

/-- A failure that is no nested try mentions no number. -/
theorem Failure.renumber_of_ne {e : Failure} (h : ∀ line, e ≠ .nestedTry line) (f : Nat → Nat) :
    e.renumber f = e := by
  cases e with
  | nestedTry line => exact absurd rfl (h line)
  | _ => rfl

/-- The failure with other numbers for lines. -/
def LineFailure.renumber (f : Nat → Nat) (e : LineFailure) : LineFailure :=
  ⟨f e.line, e.failure.renumber f⟩

/-- An entry of a log, with the numbers of lines as they are before a renumbering. -/
inductive LogEntry where
  | event (e : ConsoleEvent)
  /-- The warning about a region without a try. -/
  | orphan (line : Nat) (kind : BlockKind)
  /-- The report of a failure. -/
  | failure (e : LineFailure)

/-- The event that an entry is when the lines are renumbered. -/
def LogEntry.shown (f : Nat → Nat) : LogEntry → ConsoleEvent
  | event e => e
  | orphan line kind =>
    .line ("[warn] line ".toList ++ Text.ofNat (f line) ++ ": ".toList ++
      Session.orphanWord kind ++ " without try".toList)
  | failure e => .line ("[error] ".toList ++ (e.renumber f).message)

/-- Entries behind a log. -/
def logged (base : Array ConsoleEvent) (f : Nat → Nat) (entries : Array LogEntry) :
    Array ConsoleEvent :=
  base ++ entries.map (·.shown f)

theorem logged_push (base : Array ConsoleEvent) (f : Nat → Nat) (entries : Array LogEntry)
    (e : LogEntry) : logged base f (entries.push e) = (logged base f entries).push (e.shown f) := by
  simp only [logged, Array.map_push, Array.append_push]

/-- A state with a log. `under base f s entries` is the state with these entries behind `base` as
its log, under the numbering `f`. -/
class Ledger (σ : Type) where
  under (base : Array ConsoleEvent) (f : Nat → Nat) (s : σ) (entries : Array LogEntry) : σ

export Ledger (under)

/-- A computation that does the same under every numbering. -/
def Uniform {σ α : Type} [Ledger σ] (run : σ → α × σ) : Prop :=
  ∀ base s entries, ∃ a t entries', ∀ f, run (under base f s entries) = (a, under base f t entries')

theorem Uniform.pure {σ α : Type} [Ledger σ] (a : α) : Uniform fun s : σ => (a, s) :=
  fun _ s entries => ⟨a, s, entries, fun _ => rfl⟩

theorem Uniform.bind {σ α β : Type} [Ledger σ] {run : σ → α × σ} {next : α → σ → β × σ}
    (h : Uniform run) (hn : ∀ a, Uniform (next a)) :
    Uniform fun s => next (run s).1 (run s).2 := by
  intro base s entries
  obtain ⟨a, t, entries', hrun⟩ := h base s entries
  obtain ⟨b, u, entries'', hnext⟩ := hn a base t entries'
  refine ⟨b, u, entries'', fun f => ?_⟩
  simp only [hrun f, hnext f]

theorem Uniform.map {σ α β : Type} [Ledger σ] {run : σ → α × σ} (h : Uniform run) (g : α → β) :
    Uniform fun s => (g (run s).1, (run s).2) :=
  h.bind fun a => .pure (g a)

/-! ## The host -/

/-- The console with another log. -/
def Console.withLog (c : Console) (log : Array ConsoleEvent) : Console := { c with log }

/-- The host with another log. -/
def Host.withLog (h : Host) (log : Array ConsoleEvent) : Host :=
  { h with console := h.console.withLog log }

instance : Ledger Host where
  under base f h entries := h.withLog (logged base f entries)

theorem Console.exists_record (base : Array ConsoleEvent) (c : Console) (entries : Array LogEntry)
    (e : LogEntry) : ∃ entries', ∀ f,
      (c.withLog (logged base f entries)).record (e.shown f) =
        c.withLog (logged base f entries') := by
  cases hs : c.silent with
  | true => exact ⟨entries, fun f => by simp [record, withLog, hs]⟩
  | false =>
    refine ⟨entries.push e, fun f => ?_⟩
    rw [logged_push]
    simp [record, withLog, hs]

/-- The prompts do not depend on the numbering. -/
theorem Console.prompts_logged (base : Array ConsoleEvent) (c : Console)
    (entries : Array LogEntry) (f g : Nat → Nat) :
    (c.withLog (logged base f entries)).prompts = (c.withLog (logged base g entries)).prompts := by
  simp only [prompts, withLog, logged, Array.toList_append, List.filterMap_append,
    Array.toList_map, List.filterMap_map]
  congr 2
  funext e
  cases e <;> rfl

/-- Nor do the pauses. -/
theorem Console.elapsed_logged (base : Array ConsoleEvent) (c : Console)
    (entries : Array LogEntry) (f g : Nat → Nat) :
    (c.withLog (logged base f entries)).elapsed = (c.withLog (logged base g entries)).elapsed := by
  have hentry : ∀ e : LogEntry, (e.shown f).nanoseconds = (e.shown g).nanoseconds := by
    intro e
    cases e <;> rfl
  have hpaused : pausedIn (logged base f entries).toList = pausedIn (logged base g entries).toList := by
    simp only [pausedIn, logged, Array.toList_append, Array.toList_map, List.foldr_append,
      List.foldr_map, hentry]
  simp only [elapsed, c.prompts_logged base entries f g]
  exact congrArg (Elapsed.mk _) hpaused

namespace Host

theorem uniform_write {α : Type} (a : α) (t : Text) : Uniform fun h : Host => (a, h.write t) := by
  intro base h entries
  obtain ⟨entries', hrecord⟩ := h.console.exists_record base entries (.event (.line t))
  refine ⟨a, h, entries', fun f => ?_⟩
  exact Prod.ext rfl (congrArg (fun console => { h with console }) (hrecord f))

theorem uniform_writeAll {α : Type} (a : α) (ts : List Text) :
    Uniform fun h : Host => (a, h.writeAll ts) := by
  induction ts with
  | nil => exact .pure a
  | cons t ts ih => exact (uniform_write () t).bind fun _ => ih

theorem uniform_pause {α : Type} (a : α) (nanoseconds : Nat) :
    Uniform fun h : Host => (a, h.pause nanoseconds) := by
  intro base h entries
  obtain ⟨entries', hrecord⟩ :=
    h.console.exists_record base entries (.event (.pause nanoseconds))
  refine ⟨a, h, entries', fun f => ?_⟩
  exact Prod.ext rfl (congrArg (fun console => { h with console }) (hrecord f))

theorem uniform_prompt (message : Text) : Uniform fun h : Host => h.prompt message := by
  intro base h entries
  cases hs : h.console.silent with
  | true =>
    refine ⟨none, h, entries, fun f => ?_⟩
    simp [under, withLog, prompt, Console.prompt, Console.withLog, hs]
  | false =>
    obtain ⟨entries', hrecord⟩ :=
      h.console.exists_record base entries (.event (.prompt message))
    refine ⟨(h.console.answers.head?).join,
      { h with console := { h.console with answers := h.console.answers.tail } }, entries',
      fun f => ?_⟩
    have hsilent : (h.console.withLog (logged base f entries)).silent = false := hs
    have hlog := hrecord f
    rw [LogEntry.shown] at hlog
    simp only [under, withLog, prompt, Console.prompt, hsilent, hlog, Bool.false_eq_true,
      ↓reduceIte]
    cases ha : h.console.answers <;> simp [Console.withLog, ha]

theorem uniform_between (low high : Int) : Uniform fun h : Host => h.between low high :=
  fun _ h entries => ⟨(h.between low high).1, (h.between low high).2, entries, fun _ => rfl⟩

theorem uniform_fraction : Uniform fun h : Host => h.fraction :=
  fun _ h entries => ⟨h.fraction.1, h.fraction.2, entries, fun _ => rfl⟩

theorem uniform_now : Uniform fun h : Host => h.now := by
  intro base h entries
  refine ⟨(under base id h entries).now.1, h.now.2, entries, fun f => ?_⟩
  have helapsed := h.console.elapsed_logged base entries f id
  simp only [under, withLog, now, helapsed]

end Host

/-! ## Built-in functions -/

theorem Numeric.uniform_randomInteger (args : Arguments) : Uniform (randomInteger args) := by
  unfold randomInteger
  split
  · exact .pure _
  · split
    · exact .pure _
    · simp only
      split
      · exact .pure _
      · exact (Host.uniform_between _ _).map fun n => Reply.num (.ofInt n)

theorem Numeric.uniform_sleepFor (args : Arguments) : Uniform (sleepFor args) := by
  unfold sleepFor
  split
  · exact .pure _
  · split
    · exact .pure _
    · exact Host.uniform_pause _ _

/-- A draw that is answered and logged. -/
theorem Game.uniform_draw (low high : Int) (answer : Int → Reply) (message : Int → Text) :
    Uniform fun h : Host =>
      (answer (h.between low high).1,
        logGame (h.between low high).2 (message (h.between low high).1)) :=
  (Host.uniform_between low high).bind fun n =>
    Host.uniform_write (answer n) ("[game] ".toList ++ message n)

theorem Game.uniform_restore (args : Arguments) : Uniform (restore args) := by
  unfold restore
  simp only
  split <;> exact Host.uniform_write _ _

namespace Builtin

theorem uniform_reply (f : Builtin) (c : BuiltinCall) : Uniform (f.reply c) := by
  cases f
  case print => exact Host.uniform_write _ _
  case input => exact (Host.uniform_prompt _).map fun answer => Reply.str (answer.getD [])
  case random => exact Host.uniform_fraction.map Reply.num
  case randint => exact Numeric.uniform_randomInteger _
  case now => exact Host.uniform_now.map Reply.str
  case sleep => exact Numeric.uniform_sleepFor _
  case searchBuiltin => exact Host.uniform_writeAll _ _
  case spawnPlayer => exact Host.uniform_write _ _
  case rollDice =>
    exact Game.uniform_draw 1 _ (fun n => .num (.ofInt n)) fun n => _ ++ ": ".toList ++ Text.ofInt n
  case attack =>
    exact Game.uniform_draw 0 5 (fun n => .num ((Game.strength c.args).add (.ofInt n)))
      fun n => _ ++ ((Game.strength c.args).add (.ofInt n)).plainText
  case heal => exact Game.uniform_restore _
  case saveGame => exact Host.uniform_write _ _
  all_goals exact .pure _

/-- A call of a built-in function does the same under every numbering. -/
theorem uniform_call (f : Builtin) (c : BuiltinCall) :
    Uniform fun h => (((f.call c h).result, (f.call c h).update), (f.call c h).host) := by
  intro base h entries
  obtain ⟨answer, h', entries', hreply⟩ := f.uniform_reply c base h entries
  cases answer with
  | value v => exact ⟨(.ok v, none), h', entries', fun g => by simp only [call, hreply g]⟩
  | update v receiver =>
    exact ⟨(.ok v, some receiver), h', entries', fun g => by simp only [call, hreply g]⟩
  | failure e => exact ⟨(.error e, none), h', entries', fun g => by simp only [call, hreply g]⟩
  | mismatch expected got =>
    obtain ⟨_, h'', entries'', hwrite⟩ :=
      Host.uniform_write () (mismatchWarning c.name expected got) base h' entries'
    refine ⟨(.ok got, none), h'', entries'', fun g => ?_⟩
    simp only [call, hreply g, (Prod.mk.inj (hwrite g)).2]

end Builtin

end LineScript
