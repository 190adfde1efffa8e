import LineScript.Debug.Session

/-!
What a request does to a session. `Turn` has one constructor for each thing that a command can do, with
what has to be there for it; every request of a known command takes such a turn (`turn_dispatch`), and
one of an unknown command fails and changes nothing (`handled_cases`). What every turn keeps is kept along
requests of any number (`handleAll_keeps`), and so is what they all keep but some that do not come
(`Avoids.keeps`).
-/

namespace LineScript.Debug

/-- Whether a response with this body tells of success. -/
def Body.succeeds (b : Body) : Bool := b.failureMessage?.isNone

namespace Command

/-- Commands that, when they succeed, answer and change nothing. -/
def asks : Command → Bool
  | configurationDone | threads | stackTrace | scopes | listVariables | evaluate | completions => true
  | _ => false

/-- Commands that can fail. -/
def canFail : Command → Bool
  | launch | setBreakpoints | stackTrace | listVariables | evaluate | completions | restart => true
  | _ => false

/-- Commands that move the program on. -/
def moves : Command → Bool
  | resume | next | stepIn | stepOut => true
  | _ => false

/-- The event that a command queues. -/
def queues? (success : Bool) : Command → Option EventKind
  | launch => if success then some .initialized else none
  | terminate => some .terminated
  | _ => none

/-- The name of the frame that a command pushes. -/
def frame? : Command → Option String
  | next => some "step_over"
  | stepIn => some "step_into"
  | _ => none

variable {command : Command}

theorem moves_of_frame? {name : String} (h : command.frame? = some name) :
    command.moves = true := by
  cases command <;> first | rfl | contradiction

theorem queues?_of_canFail (h : command.canFail = true) : command.queues? false = none := by
  cases command <;> first | rfl | contradiction

theorem queues?_of_asks (h : command.asks = true) (success : Bool) :
    command.queues? success = none := by
  cases command <;> first | rfl | contradiction

theorem queues?_of_moves (h : command.moves = true) (success : Bool) :
    command.queues? success = none := by
  cases command <;> first | rfl | contradiction

end Command

namespace DebugSession

variable {s : DebugSession} {r : Request} {command : Command}

/-! ## What a request comes to -/

theorem handled_known (h : Command.ofName? r.command = some command) :
    s.handled r = s.dispatch r command := by
  rw [handled, h]

theorem handled_unknown (h : Command.ofName? r.command = none) :
    s.handled r = s.fail (.unrecognized r.command) := by
  rw [handled, h]

theorem withArguments_cases {α : Type} (s : DebugSession) (r : Request)
    (read : Json → Except ArgumentError α) (handle : α → Handled) :
    (∃ a, s.withArguments r read handle = handle a) ∨
      ∃ f, s.withArguments r read handle = s.fail f := by
  rw [withArguments]
  split
  · exact Or.inl ⟨_, rfl⟩
  · exact Or.inr ⟨_, rfl⟩

/-! ## Turns -/

/-- What a request of a command does to the session `s`: whether it succeeds, and the session behind
it. -/
inductive Turn (s : DebugSession) : Command → Bool → DebugSession → Prop where
  | fails {command : Command} (h : command.canFail = true) : Turn s command false s
  | asks {command : Command} (h : command.asks = true) : Turn s command true s
  | initializes : Turn s .initializeSession true { s with phase := .initialized }
  | launches {program : Text} (h : program ≠ []) :
      Turn s .launch true ((s.load program).queue .initialized)
  | restarts {runtime : Runtime} (h : s.runtime = some runtime) :
      Turn s .restart true (s.load runtime.program)
  | sets (path : Text) (list : List Breakpoint) :
      Turn s .setBreakpoints true { s with breakpoints := s.breakpoints.insert path list }
  /-- There is no program to be moved on. -/
  | waits {command : Command} (hm : command.moves = true) (h : s.runtime = none) :
      Turn s command true s
  | resumes {runtime : Runtime} (h : s.runtime = some runtime) :
      Turn s .resume true
        { s with runtime := some { runtime with running := true }, phase := .running }
  | pushes {command : Command} {name : String} {runtime : Runtime} (hf : command.frame? = some name)
      (h : s.runtime = some runtime) :
      Turn s command true
        { s with
          runtime := some (runtime.push name.toList (s.chance.between 1 100).1)
          phase := .stepping
          chance := (s.chance.between 1 100).2 }
  | pops {runtime : Runtime} (h : s.runtime = some runtime) :
      Turn s .stepOut true { s with runtime := some runtime.pop, phase := .stepping }
  | stops : Turn s .terminate true (s.stop.queue .terminated)
  | leaves : Turn s .disconnect true { s.stop with finished := true }

/-- A turn that is taken unless the arguments do not fit. -/
theorem turn_withArguments {α : Type} {read : Json → Except ArgumentError α} {handle : α → Handled}
    (hf : command.canFail = true)
    (h : ∀ a, Turn s command (handle a).body.succeeds (handle a).session) :
    Turn s command (s.withArguments r read handle).body.succeeds
      (s.withArguments r read handle).session := by
  rcases withArguments_cases s r read handle with ⟨a, heq⟩ | ⟨f, heq⟩
  · rw [heq]
    exact h a
  · rw [heq]
    exact .fails hf

/-- A turn that is taken unless there is no runtime. -/
theorem turn_withRuntime {handle : Runtime → Handled} (hf : command.canFail = true)
    (h : ∀ runtime, s.runtime = some runtime →
      Turn s command (handle runtime).body.succeeds (handle runtime).session) :
    Turn s command (s.withRuntime handle).body.succeeds (s.withRuntime handle).session := by
  rw [withRuntime]
  split
  · next runtime hr => exact h runtime hr
  · exact .fails hf

theorem turn_launch (a : LaunchArguments) :
    Turn s .launch (s.launch a).body.succeeds (s.launch a).session := by
  rw [launch]
  split
  · exact .fails rfl
  · exact .fails rfl
  · next program hne _ => exact .launches fun heq => hne (heq ▸ rfl)

theorem turn_setBreakpoints (a : BreakpointArguments) :
    Turn s .setBreakpoints (s.setBreakpoints r a).body.succeeds
      (s.setBreakpoints r a).session := by
  rw [setBreakpoints]
  split
  · exact .fails rfl
  · next path _ => exact .sets path a.breakpoints

/-- A turn that moves the program on, if there is one. -/
theorem turn_advance {phase : Phase} {change : Runtime → Runtime} (hm : command.moves = true)
    (h : ∀ runtime, s.runtime = some runtime →
      Turn s command true { s with runtime := some (change runtime), phase }) :
    Turn s command true (s.advance phase change) := by
  rw [advance]
  split
  · next runtime hr => exact h runtime hr
  · next hr => exact .waits hm hr

theorem turn_step {name : String} (hm : command.moves = true) (hf : command.frame? = some name) :
    Turn s command true (s.step name) := by
  rw [step]
  split
  · next runtime hr =>
    simp only [advance, hr]
    exact .pushes hf hr
  · next hr => exact .waits hm hr

/-- Every request of a known command takes a turn. -/
theorem turn_dispatch (s : DebugSession) (r : Request) (command : Command) :
    Turn s command (s.dispatch r command).body.succeeds (s.dispatch r command).session := by
  cases command with
  | initializeSession => exact .initializes
  | launch => exact turn_withArguments rfl turn_launch
  | setBreakpoints => exact turn_withArguments rfl turn_setBreakpoints
  | configurationDone => exact .asks rfl
  | threads => exact .asks rfl
  | stackTrace => exact turn_withRuntime rfl fun _ _ => .asks rfl
  | scopes => exact .asks rfl
  | listVariables => exact turn_withArguments rfl fun _ => .asks rfl
  | resume => exact turn_advance rfl fun _ hr => .resumes hr
  | next => exact turn_step rfl rfl
  | stepIn => exact turn_step rfl rfl
  | stepOut => exact turn_advance rfl fun _ hr => .pops hr
  | evaluate => exact turn_withArguments rfl fun _ => turn_withRuntime rfl fun _ _ => .asks rfl
  | completions => exact turn_withArguments rfl fun _ => .asks rfl
  | restart => exact turn_withRuntime rfl fun _ hr => .restarts hr
  | terminate => exact .stops
  | disconnect => exact .leaves

/-- What a request comes to: a turn of its command, or nothing at all. -/
theorem handled_cases (s : DebugSession) (r : Request) :
    (∃ command, Command.ofName? r.command = some command ∧
      Turn s command (s.handled r).body.succeeds (s.handled r).session) ∨
    Command.ofName? r.command = none ∧ (s.handled r).body.succeeds = false ∧
      (s.handled r).session = s := by
  cases hcommand : Command.ofName? r.command with
  | none =>
    rw [handled_unknown hcommand]
    exact Or.inr ⟨rfl, rfl, rfl⟩
  | some command =>
    rw [handled_known hcommand]
    exact Or.inl ⟨command, rfl, s.turn_dispatch r command⟩

/-- No turn takes the number of a message. -/
theorem Turn.nextSeq_eq {s' : DebugSession} {success : Bool} (h : Turn s command success s') :
    s'.nextSeq = s.nextSeq := by
  cases h <;> rfl

/-- A turn puts the event of its command behind those that are queued. -/
theorem Turn.pending_eq {s' : DebugSession} {success : Bool} (h : Turn s command success s') :
    s'.pending = s.pending ++ (command.queues? success).toList := by
  cases h with
  | fails h => rw [Command.queues?_of_canFail h, Option.toList_none, List.append_nil]
  | asks h => rw [Command.queues?_of_asks h, Option.toList_none, List.append_nil]
  | waits h => rw [Command.queues?_of_moves h, Option.toList_none, List.append_nil]
  | pushes h =>
    rw [Command.queues?_of_moves (Command.moves_of_frame? h), Option.toList_none, List.append_nil]
  | launches => rfl
  | stops => rfl
  | _ => exact (List.append_nil _).symm

theorem nextSeq_handled (s : DebugSession) (r : Request) :
    (s.handled r).session.nextSeq = s.nextSeq := by
  rcases s.handled_cases r with ⟨_, _, hturn⟩ | ⟨_, _, hsame⟩
  · exact hturn.nextSeq_eq
  · rw [hsame]

/-! ## What is sent -/

/-- The response comes first, and then the queued events, of which none is left. -/
theorem handle_eq (s : DebugSession) (r : Request) : s.handle r =
    (.response s.nextSeq r.seq r.command (s.handled r).body ::
      eventMessages (s.nextSeq + 1) (s.handled r).session.pending,
      { (s.handled r).session with
        nextSeq := s.nextSeq + 1 + (s.handled r).session.pending.length
        pending := [] }) := by
  rw [← nextSeq_handled s r]
  rfl

/-- A request that is answered without any change takes the numbers of what is sent, and only that. -/
theorem handle_of_answer {body : Body} (h : s.handled r = s.answer body) : s.handle r =
    (.response s.nextSeq r.seq r.command body :: eventMessages (s.nextSeq + 1) s.pending,
      { s with nextSeq := s.nextSeq + 1 + s.pending.length, pending := [] }) := by
  rw [handle_eq, h]
  rfl

/-- What every turn keeps, whatever has been sent since, is kept by every request. -/
theorem handle_keeps {I : DebugSession → Prop}
    (hsent : ∀ s seq, I s → I { s with nextSeq := seq, pending := [] })
    (hturn : ∀ {s command success s'}, Turn s command success s' → I s → I s') (hs : I s) :
    I (s.handle r).2 := by
  rw [handle_eq]
  apply hsent
  rcases s.handled_cases r with ⟨command, _, hcases⟩ | ⟨_, _, hsame⟩
  · exact hturn hcases hs
  · rw [hsame]
    exact hs

/-! ## Requests in turn -/

/-- Handles requests in turn: all messages to the client, and the session behind the last. -/
def handleAll (s : DebugSession) : List Request → List Message × DebugSession
  | [] => ([], s)
  | r :: rest =>
    let (messages, s) := s.handle r
    let (more, s) := s.handleAll rest
    (messages ++ more, s)

/-- No request of a run is one of those that `P` tells, when it comes to its turn. -/
def Avoids (P : DebugSession → Request → Prop) (s : DebugSession) (requests : List Request) : Prop :=
  ∀ before r after, requests = before ++ r :: after → ¬ P (s.handleAll before).2 r

variable {P : DebugSession → Request → Prop} {requests : List Request}

theorem Avoids.nil : Avoids P s [] := by
  intro before r after h
  simp at h

theorem Avoids.cons (hr : ¬ P s r) (h : Avoids P (s.handle r).2 requests) :
    Avoids P s (r :: requests) := by
  intro before r' after heq
  cases before with
  | nil =>
    obtain ⟨rfl, _⟩ := List.cons.inj heq
    exact hr
  | cons first before =>
    obtain ⟨rfl, htail⟩ := List.cons.inj heq
    exact h before r' after htail

theorem Avoids.head (h : Avoids P s (r :: requests)) : ¬ P s r := h [] r requests rfl

theorem Avoids.tail (h : Avoids P s (r :: requests)) : Avoids P (s.handle r).2 requests := by
  intro before r' after heq
  exact h (r :: before) r' after (by rw [heq, List.cons_append])

/-- What every request keeps but those that are avoided holds behind all of them. -/
theorem Avoids.keeps {I : DebugSession → Prop}
    (hkeeps : ∀ (s : DebugSession) (r : Request), I s → ¬ P s r → I (s.handle r).2)
    (h : Avoids P s requests) (hs : I s) : I (s.handleAll requests).2 := by
  induction requests generalizing s with
  | nil => exact hs
  | cons r requests ih => exact ih h.tail (hkeeps s r hs h.head)

/-- What every request keeps holds behind all of them. -/
theorem handleAll_keeps {I : DebugSession → Prop}
    (hkeeps : ∀ (s : DebugSession) (r : Request), I s → I (s.handle r).2) (hs : I s)
    (requests : List Request) : I (s.handleAll requests).2 := by
  have hnone : Avoids (fun _ _ => False) s requests := fun _ _ _ _ => not_false
  exact hnone.keeps (fun s r h _ => hkeeps s r h) hs

/-- Between two requests no event is queued. -/
theorem pending_handleAll (hs : s.pending = []) (requests : List Request) :
    (s.handleAll requests).2.pending = [] :=
  handleAll_keeps (I := fun s => s.pending = []) (fun _ _ _ => rfl) hs requests

end DebugSession

end LineScript.Debug
