import LineScript.Proofs.Debug.Turn

/-!
How long a session stays ended. A termination and a disconnect put a session into its last phase and
stop its program. It leaves this phase by being opened anew, and also by being asked to go on with the
program or to step, as long as it has one (`ended_handle_iff`); no other request can bring it there. Its
program stays stopped until it is asked to go on (`ended_until`).
-/

namespace LineScript.Debug

/-- Commands that open a session anew, of which all but the first can fail. -/
def Command.reopens (success : Bool) : Command → Bool
  | initializeSession => true
  | launch | restart => success
  | _ => false

namespace DebugSession

/-- The program of a session, if it has one, is not running. -/
def Still (s : DebugSession) : Prop := ∀ runtime, s.runtime = some runtime → runtime.running = false

/-- A session in its last phase, with its program stopped. -/
structure Ended (s : DebugSession) : Prop where
  phase : s.phase = .terminated
  still : s.Still

/-- Whether the request opens the session anew: it initializes the session, or it is a launch or a
restart that succeeds. -/
def reopens (s : DebugSession) (r : Request) : Bool :=
  (Command.ofName? r.command).any (·.reopens (s.handled r).body.succeeds)

/-- Whether the request moves the program of the session on. -/
def moves (s : DebugSession) (r : Request) : Bool :=
  (Command.ofName? r.command).any (·.moves && s.runtime.isSome)

/-- Whether the request lets the program of the session run. -/
def resumes (s : DebugSession) (r : Request) : Bool :=
  Command.ofName? r.command == some .resume && s.runtime.isSome

variable {s s' : DebugSession} {r : Request} {command : Command} {success : Bool}

/-! ## Turns -/

theorem still_stop (s : DebugSession) : s.stop.Still := by
  intro runtime hr
  obtain ⟨_, _, rfl⟩ := Option.map_eq_some_iff.mp hr
  rfl

theorem still_load (s : DebugSession) (program : Text) : (s.load program).Still := by
  intro runtime hr
  cases hr
  rfl

/-- A program that is still is let run by no turn but the one that is meant to. -/
theorem Turn.still (h : Turn s command success s') (hs : s.Still)
    (hr : ¬ (command = .resume ∧ s.runtime.isSome = true)) : s'.Still := by
  cases h with
  | fails => exact hs
  | asks => exact hs
  | initializes => exact hs
  | launches => exact s.still_load _
  | restarts => exact s.still_load _
  | sets => exact hs
  | waits => exact hs
  | resumes h => exact absurd ⟨rfl, by rw [h]; rfl⟩ hr
  | @pushes _ _ runtime _ h =>
    intro _ heq
    cases heq
    exact hs runtime h
  | @pops runtime h =>
    intro _ heq
    cases heq
    exact hs runtime h
  | stops => exact s.still_stop
  | leaves => exact s.still_stop

/-- A turn that neither opens an ended session anew nor moves its program on leaves it ended. -/
theorem Turn.ended (h : Turn s command success s') (hs : s.Ended)
    (ho : command.reopens success = false)
    (hm : ¬ (command.moves = true ∧ s.runtime.isSome = true)) : s'.Ended := by
  have hstill : s'.Still := by
    apply h.still hs.still
    rintro ⟨rfl, hr⟩
    exact hm ⟨rfl, hr⟩
  refine ⟨?_, hstill⟩
  cases h with
  | fails => exact hs.phase
  | asks => exact hs.phase
  | initializes => contradiction
  | launches => contradiction
  | restarts => contradiction
  | sets => exact hs.phase
  | waits => exact hs.phase
  | resumes h => exact absurd ⟨rfl, by rw [h]; rfl⟩ hm
  | pushes hf h => exact absurd ⟨Command.moves_of_frame? hf, by rw [h]; rfl⟩ hm
  | pops h => exact absurd ⟨rfl, by rw [h]; rfl⟩ hm
  | stops => rfl
  | leaves => rfl

/-- A turn that opens a session anew leaves its last phase. -/
theorem Turn.phase_of_reopens (h : Turn s command success s')
    (ho : command.reopens success = true) : s'.phase ≠ .terminated := by
  cases h with
  | fails h => cases command <;> contradiction
  | asks h => cases command <;> contradiction
  | waits h => cases command <;> contradiction
  | pushes hf => cases command <;> contradiction
  | initializes => exact nofun
  | launches => exact nofun
  | restarts => exact nofun
  | _ => contradiction

/-- A turn that moves a program on leaves the last phase too. -/
theorem Turn.phase_of_moves (h : Turn s command success s') (hm : command.moves = true)
    (hr : s.runtime.isSome = true) : s'.phase ≠ .terminated := by
  cases h with
  | fails h => cases command <;> contradiction
  | asks h => cases command <;> contradiction
  | waits _ h =>
    rw [h] at hr
    contradiction
  | resumes => exact nofun
  | pushes => exact nofun
  | pops => exact nofun
  | _ => contradiction

/-! ## Requests -/

/-- The session behind a request differs from what the request comes to in its number alone. -/
theorem Ended.handle_iff : (s.handle r).2.Ended ↔ (s.handled r).session.Ended :=
  ⟨fun h => ⟨h.phase, h.still⟩, fun h => ⟨h.phase, h.still⟩⟩

/-- What an ended session does with a request: it stays ended, whatever the request, unless the request
opens it anew or moves its program on; and then it never does. -/
theorem ended_handle_iff (hs : s.Ended) :
    (s.handle r).2.Ended ↔ ¬ (s.reopens r ∨ s.moves r) := by
  rw [Ended.handle_iff]
  rcases s.handled_cases r with ⟨command, hcommand, hturn⟩ | ⟨hnone, _, hsame⟩
  · simp only [reopens, moves, hcommand, Option.any_some, Bool.and_eq_true, not_or,
      Bool.not_eq_true]
    constructor
    · intro hended
      refine ⟨Bool.eq_false_iff.mpr fun ho => hturn.phase_of_reopens ho hended.phase, ?_⟩
      exact fun hm => hturn.phase_of_moves hm.1 hm.2 hended.phase
    · rintro ⟨ho, hm⟩
      exact hturn.ended hs ho hm
  · rw [hsame]
    simp [reopens, moves, hnone, hs]

theorem still_handle (hs : s.Still) (hr : ¬ s.resumes r) : (s.handle r).2.Still := by
  show (s.handled r).session.Still
  rcases s.handled_cases r with ⟨command, hcommand, hturn⟩ | ⟨_, _, hsame⟩
  · apply hturn.still hs
    rintro ⟨rfl, hruntime⟩
    exact hr (by rw [resumes, hcommand, hruntime]; rfl)
  · rw [hsame]
    exact hs

/-- The commands that end a session do so, from whatever it was in. -/
theorem ended_of_last (hlast : Command.ofName? r.command = some .terminate ∨
    Command.ofName? r.command = some .disconnect) : (s.handle r).2.Ended := by
  rw [Ended.handle_iff]
  rcases hlast with hlast | hlast
  · rw [handled_known hlast]
    exact ⟨rfl, s.still_stop⟩
  · rw [handled_known hlast]
    exact ⟨rfl, s.still_stop⟩

/-- A session that a request has ended stays ended until a request opens it anew or moves its program
on, and its program stays still until a request lets it run. -/
theorem ended_until {last : Request} (hlast : Command.ofName? last.command = some .terminate ∨
      Command.ofName? last.command = some .disconnect) (s : DebugSession)
    (requests : List Request) :
    ((s.handle last).2.Avoids (fun s r => s.reopens r ∨ s.moves r) requests →
      ((s.handle last).2.handleAll requests).2.Ended) ∧
    ((s.handle last).2.Avoids (fun s r => s.resumes r) requests →
      ((s.handle last).2.handleAll requests).2.Still) := by
  have hended : (s.handle last).2.Ended := ended_of_last hlast
  constructor
  · intro havoids
    refine havoids.keeps (I := Ended) ?_ hended
    intro t r ht hr
    exact (ended_handle_iff ht).mpr hr
  · intro havoids
    exact havoids.keeps (I := Still) (fun _ _ => still_handle) hended.still

/-- Behind the end of a session whose program runs come a launch without a program, an unknown command,
a query and a command whose arguments do not fit; and behind the end of the same session a step. -/
theorem ended_until_failing :
    let program := Json.obj [("program".toList, .str "a.ln".toList)]
    let s := ((start (.ofSeed 0)).handleAll
      [⟨1, "launch".toList, some program⟩, ⟨2, "continue".toList, none⟩]).2
    let last : Request := ⟨3, "terminate".toList, none⟩
    let requests : List Request := [⟨4, "launch".toList, none⟩, ⟨5, "pause".toList, none⟩,
      ⟨6, "stackTrace".toList, none⟩, ⟨7, "setBreakpoints".toList, none⟩]
    let step : Request := ⟨4, "next".toList, none⟩
    s.phase = .running ∧ Command.ofName? last.command = some .terminate ∧
      (s.handle last).2.Avoids (fun s r => s.reopens r ∨ s.moves r) requests ∧
      ((s.handle last).2.handleAll requests).2.Ended ∧
      (s.handle last).2.Avoids (fun s r => s.resumes r) [step] ∧
      ((s.handle last).2.handleAll [step]).2.Still := by
  intro program s last requests step
  have hlast : Command.ofName? last.command = some .terminate := by decide
  have hrequests : (s.handle last).2.Avoids (fun s r => s.reopens r ∨ s.moves r) requests :=
    .cons (by decide +kernel) (.cons (by decide +kernel) (.cons (by decide +kernel)
      (.cons (by decide) .nil)))
  have hstep : (s.handle last).2.Avoids (fun s r => s.resumes r) [step] :=
    .cons (by decide) .nil
  refine ⟨by decide +kernel, hlast, hrequests, ?_, hstep, ?_⟩
  · exact (ended_until (Or.inl hlast) s requests).1 hrequests
  · exact (ended_until (Or.inl hlast) s [step]).2 hstep

/-- A session that has been ended is let run by a request to go on, as if it had not. -/
theorem continue_behind_terminate :
    let program := Json.obj [("program".toList, .str "a.ln".toList)]
    let s := ((start (.ofSeed 0)).handle ⟨1, "launch".toList, some program⟩).2
    let ended := (s.handle ⟨2, "terminate".toList, none⟩).2
    let r : Request := ⟨3, "continue".toList, none⟩
    ended.Ended ∧ ended.reopens r = false ∧ (ended.handle r).2.phase = .running ∧
      (ended.handle r).2.runtime.map (·.running) = some true := by
  intro program s ended r
  have hended : ended.Ended := ended_of_last (Or.inl (by decide))
  exact ⟨hended, by decide +kernel, by decide +kernel, by decide +kernel⟩

end DebugSession

end LineScript.Debug
