import LineScript.Proofs.Debug.Batches

/-!
Requests without effect. A request that fails, wherever it fails, and a request that only asks are
answered by one response and leave the session as it is, but for the number of the next message
(`handle_unchanged`).
-/

namespace LineScript.Debug

/-- Whether a message is the response to a request that failed. -/
def Message.isFailure : Message → Bool
  | response _ _ _ body => !body.succeeds
  | event .. => false

/-- Whether a request only asks. -/
def Request.asks (r : Request) : Bool := (Command.ofName? r.command).any Command.asks

theorem Command.asks_of_moves {command : Command} (h : command.moves = true) :
    command.asks = false := by
  cases command <;> first | rfl | contradiction

namespace DebugSession

/-- Whether a request is answered by a failure. -/
def fails (s : DebugSession) (r : Request) : Bool := (s.handle r).1.any Message.isFailure

variable {s s' : DebugSession} {r : Request} {command : Command} {success : Bool}

theorem isFailure_of_mem_eventMessages {seq : Int} {kinds : List EventKind} {m : Message}
    (h : m ∈ eventMessages seq kinds) : m.isFailure = false := by
  induction kinds generalizing seq with
  | nil => simp [eventMessages] at h
  | cons kind rest ih =>
    rcases List.mem_cons.mp h with rfl | h
    · rfl
    · exact ih h

/-- A request fails when the body of its response does not tell of success. -/
theorem fails_eq (s : DebugSession) (r : Request) : s.fails r = !(s.handled r).body.succeeds := by
  have hevents : (eventMessages (s.nextSeq + 1) (s.handled r).session.pending).any
      Message.isFailure = false :=
    List.any_eq_false.mpr fun m hm => by simp [isFailure_of_mem_eventMessages hm]
  rw [fails, handle_eq, List.any_cons, hevents, Bool.or_false]
  rfl

/-! ## Turns -/

/-- A turn that fails or only asks changes nothing. -/
theorem Turn.unchanged (h : Turn s command success s')
    (hidle : success = false ∨ command.asks = true) : s' = s := by
  cases h with
  | fails => rfl
  | asks => rfl
  | waits => rfl
  | pushes hf =>
    rw [Command.asks_of_moves (Command.moves_of_frame? hf)] at hidle
    rcases hidle with h | h <;> contradiction
  | _ => rcases hidle with h | h <;> contradiction

/-! ## Requests -/

/-- A request that fails or only asks comes to the body of its response and to nothing else. -/
theorem handled_unchanged (h : s.fails r = true ∨ r.asks = true) :
    s.handled r = s.answer (s.handled r).body := by
  have hsession : (s.handled r).session = s := by
    rw [fails_eq, Bool.not_eq_true', Request.asks] at h
    rcases s.handled_cases r with ⟨command, hcommand, hturn⟩ | ⟨_, _, hsame⟩
    · rw [hcommand, Option.any_some] at h
      exact hturn.unchanged h
    · exact hsame
  exact congrArg (Handled.mk (s.handled r).body) hsession

/-- A request that is answered by a failure leaves the session as it is, with its phase, runtime,
breakpoints and all, and only takes the numbers of what is sent; and so does a request that only asks,
whatever it is answered. Sent are the response and the events that are queued. Between two requests there
are none, and so the response is all that is sent and the number goes on by one. -/
theorem handle_unchanged (h : s.fails r = true ∨ r.asks = true) :
    s.handle r =
      (.response s.nextSeq r.seq r.command (s.handled r).body ::
          eventMessages (s.nextSeq + 1) s.pending,
        { s with nextSeq := s.nextSeq + 1 + s.pending.length, pending := [] }) ∧
    (s.pending = [] → s.handle r =
      ([.response s.nextSeq r.seq r.command (s.handled r).body],
        { s with nextSeq := s.nextSeq + 1 })) ∧
    ∀ chance requests, ((start chance).handleAll requests).2.pending = [] := by
  have hhandle := handle_of_answer (handled_unchanged h)
  refine ⟨hhandle, fun hs => ?_, fun chance => pending_handleAll rfl⟩
  have hsame : { s with nextSeq := s.nextSeq + 1, pending := [] } =
      { s with nextSeq := s.nextSeq + 1 } := by rw [← hs]
  rw [hhandle, ← hsame, hs]
  simp [eventMessages]

/-- A running program with a frame on its stack and a breakpoint: breakpoints without a path are refused
only when their arguments have been read, and a stack trace is given. -/
theorem handle_unchanged_running :
    let program := Json.arr [.str "a.ln".toList]
    let breakpoint := Json.arr [.arr [.null, .str "a.ln".toList], .arr [.arr [.int 3]]]
    let s := ((start (.ofSeed 0)).handleAll
      [⟨1, "launch".toList, some program⟩, ⟨2, "setBreakpoints".toList, some breakpoint⟩,
        ⟨3, "next".toList, none⟩, ⟨4, "continue".toList, none⟩]).2
    let pathless : Request := ⟨5, "setBreakpoints".toList, some (.arr [.arr []])⟩
    let trace : Request := ⟨6, "stackTrace".toList, none⟩
    s.phase = .running ∧ s.nextSeq = 6 ∧ s.pending = [] ∧ s.breakpoints.keys = ["a.ln".toList] ∧
      s.fails pathless = true ∧
      s.handle pathless =
        ([.response s.nextSeq 5 pathless.command (s.handled pathless).body],
          { s with nextSeq := s.nextSeq + 1 }) ∧
      trace.asks = true ∧ s.fails trace = false ∧
      s.handle trace =
        ([.response s.nextSeq 6 trace.command (s.handled trace).body],
          { s with nextSeq := s.nextSeq + 1 }) := by
  intro program breakpoint s pathless trace
  have hfails : s.fails pathless = true := by decide
  have hasks : trace.asks = true := by decide
  have hpending : s.pending = [] := by decide
  refine ⟨by decide, by decide, hpending, by decide, hfails, ?_, hasks,
    by decide, ?_⟩
  · exact (handle_unchanged (Or.inl hfails)).2.1 hpending
  · exact (handle_unchanged (Or.inr hasks)).2.1 hpending

end DebugSession

end LineScript.Debug
