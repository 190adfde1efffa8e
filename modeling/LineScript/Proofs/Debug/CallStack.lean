import LineScript.Proofs.Debug.Turn
import Mathlib.Data.List.DropRight
import Mathlib.Data.List.Infix

/-!
The call stack of a session and its history. A client that knows the requests so far, and which of them
succeeded, knows the stack: since a program was last started, every `next` and every `stepIn` has
pushed a frame, every `stepOut` has popped one if there was one, and nothing else has touched the stack
(`callsAfter`). What a session answers a client that asks for its stack are these frames
(`stack_history`).
-/

namespace LineScript.Debug

/-- A request as it was handled: whether it succeeded, and the line on which a new frame would have
been. -/
structure Exchange where
  request : Request
  success : Bool
  line : Int

/-- The program that a launch names. -/
def Request.program? (r : Request) : Option Text :=
  match LaunchArguments.read r.given with
  | .ok a => a.program
  | .error _ => none

/-! ## What requests do to a stack -/

namespace Command

/-- Commands that start a program from its beginning. -/
def starts : Command → Bool
  | launch | restart => true
  | _ => false

/-- The stack of a program behind a command, with a new frame on the given line. -/
def onStack (program : Text) (line : Int) (stack : List StackFrame) : Command → List StackFrame
  | next => ⟨"step_over".toList, program, line⟩ :: stack
  | stepIn => ⟨"step_into".toList, program, line⟩ :: stack
  | stepOut => stack.tail
  | _ => stack

variable {command : Command} {program : Text} {line : Int} {stack : List StackFrame}

theorem onStack_of_canFail (h : command.canFail = true) :
    command.onStack program line stack = stack := by
  cases command <;> first | rfl | contradiction

theorem onStack_of_asks (h : command.asks = true) :
    command.onStack program line stack = stack := by
  cases command <;> first | rfl | contradiction

theorem onStack_of_frame? {name : String} (h : command.frame? = some name) :
    command.onStack program line stack = ⟨name.toList, program, line⟩ :: stack := by
  cases command with
  | next =>
    cases h
    rfl
  | stepIn =>
    cases h
    rfl
  | _ => contradiction

/-- Frames at the bottom of a stack stay there if the stack does not become too short for them. -/
theorem suffix_onStack {frames : List StackFrame} (h : frames <:+ stack)
    (hlength : frames.length ≤ (command.onStack program line stack).length) :
    frames <:+ command.onStack program line stack := by
  cases command with
  | next => exact h.trans (List.suffix_cons _ _)
  | stepIn => exact h.trans (List.suffix_cons _ _)
  | stepOut =>
    rw [onStack] at hlength ⊢
    cases stack with
    | nil => exact h
    | cons top rest =>
      rcases List.suffix_cons_iff.mp h with rfl | h
      · exact absurd hlength (Nat.not_succ_le_self _)
      · exact h
  | _ => exact h

end Command

namespace Exchange

/-- The command of the request. -/
def command? (e : Exchange) : Option Command := Command.ofName? e.request.command

/-- Whether a program was started from its beginning. -/
def starts (e : Exchange) : Bool := e.success && e.command?.any Command.starts

/-- The program that was launched. -/
def launched? (e : Exchange) : Option Text :=
  if e.success && e.command? == some .launch then e.request.program? else none

/-- The stack of a program behind the exchange. -/
def onStack (program : Text) (stack : List StackFrame) (e : Exchange) : List StackFrame :=
  match e.command? with
  | some command => command.onStack program e.line stack
  | none => stack

end Exchange

/-- The program that was launched last. -/
def launchedLast? (history : List Exchange) : Option Text :=
  history.reverse.findSome? Exchange.launched?

/-- The exchanges since a program was last started. -/
def sinceStart (history : List Exchange) : List Exchange :=
  history.rtakeWhile fun e => !e.starts

/-- The frames of a program that exchanges leave on an empty stack, newest first. -/
def framesAfter (program : Text) (history : List Exchange) : List StackFrame :=
  history.foldl (Exchange.onStack program) []

/-- What a history tells of the program and its stack: the program that was launched last, and the frames
that it has been left with since it was last started. -/
def callsAfter (history : List Exchange) : Option (Text × List StackFrame) :=
  (launchedLast? history).map fun program => (program, framesAfter program (sinceStart history))

variable {program : Text} {frame : StackFrame} {frames : List StackFrame}
  {history : List Exchange} {e : Exchange}

theorem launchedLast?_concat (history : List Exchange) (e : Exchange) :
    launchedLast? (history ++ [e]) = e.launched?.or (launchedLast? history) := by
  rw [launchedLast?, List.reverse_append, List.reverse_singleton, List.singleton_append,
    List.findSome?_cons]
  cases e.launched? <;> rfl

theorem sinceStart_concat (history : List Exchange) (e : Exchange) :
    sinceStart (history ++ [e]) = if e.starts then [] else sinceStart history ++ [e] := by
  rw [sinceStart, List.rtakeWhile_concat]
  cases e.starts <;> rfl

theorem framesAfter_concat (program : Text) (history : List Exchange) (e : Exchange) :
    framesAfter program (history ++ [e]) = e.onStack program (framesAfter program history) := by
  rw [framesAfter, List.foldl_append]
  rfl

theorem Exchange.launched?_of_not_starts (h : e.starts = false) : e.launched? = none := by
  rw [launched?, if_neg]
  intro hlaunched
  obtain ⟨hsuccess, hlaunch⟩ := Bool.and_eq_true_iff.mp hlaunched
  rw [starts, hsuccess, beq_iff_eq.mp hlaunch] at h
  contradiction

theorem callsAfter_concat (h : e.starts = false) :
    callsAfter (history ++ [e]) =
      (callsAfter history).map fun c => (c.1, e.onStack c.1 c.2) := by
  rw [callsAfter, launchedLast?_concat, sinceStart_concat, Exchange.launched?_of_not_starts h, h,
    callsAfter, Option.map_map]
  simp [framesAfter_concat, Function.comp_def]

theorem callsAfter_concat_of_starts (h : e.starts = true) :
    callsAfter (history ++ [e]) =
      (e.launched?.or (launchedLast? history)).map fun program => (program, []) := by
  rw [callsAfter, launchedLast?_concat, sinceStart_concat, h]
  rfl

/-- A frame that an exchange puts on a stack is one of the program, on the line of the exchange. -/
theorem Exchange.mem_onStack (h : frame ∈ e.onStack program frames) :
    (frame.file = program ∧ frame.line = e.line) ∨ frame ∈ frames := by
  rw [onStack] at h
  split at h
  · next command _ =>
    cases command with
    | next =>
      rcases List.mem_cons.mp h with rfl | h
      · exact Or.inl ⟨rfl, rfl⟩
      · exact Or.inr h
    | stepIn =>
      rcases List.mem_cons.mp h with rfl | h
      · exact Or.inl ⟨rfl, rfl⟩
      · exact Or.inr h
    | stepOut => exact Or.inr (List.mem_of_mem_tail h)
    | _ => exact Or.inr h
  · exact Or.inr h

theorem Exchange.suffix_onStack {stack : List StackFrame} (h : frames <:+ stack)
    (hlength : frames.length ≤ (e.onStack program stack).length) :
    frames <:+ e.onStack program stack := by
  rw [onStack] at hlength ⊢
  split at hlength
  · exact Command.suffix_onStack h hlength
  · exact h

theorem mem_framesAfter (h : frame ∈ framesAfter program history) :
    frame.file = program ∧ ∃ e ∈ history, frame.line = e.line := by
  induction history using List.reverseRecOn with
  | nil => simp [framesAfter] at h
  | append_singleton history e ih =>
    rw [framesAfter_concat] at h
    rcases Exchange.mem_onStack h with ⟨hfile, hline⟩ | h
    · exact ⟨hfile, e, by simp, hline⟩
    · obtain ⟨hfile, earlier, hm, hline⟩ := ih h
      exact ⟨hfile, earlier, by simp [hm], hline⟩

namespace DebugSession

/-- The program and the call stack of a session, if it has a runtime. -/
def calls (s : DebugSession) : Option (Text × List StackFrame) :=
  s.runtime.map fun runtime => (runtime.program, runtime.stack)

/-- The call stack of a session, which is empty without a runtime. -/
def stack (s : DebugSession) : List StackFrame := (s.calls.map (·.2)).getD []

/-- A request as the session handles it. -/
def exchange (s : DebugSession) (r : Request) : Exchange :=
  ⟨r, (s.handled r).body.succeeds, (s.chance.between 1 100).1⟩

/-- Requests in turn, each as it is handled. -/
def exchanges (s : DebugSession) : List Request → List Exchange
  | [] => []
  | r :: rest => s.exchange r :: (s.handle r).2.exchanges rest

variable {s s' : DebugSession} {r : Request} {command : Command} {success : Bool}

theorem line_between (c : Chance) : 1 ≤ (c.between 1 100).1 ∧ (c.between 1 100).1 ≤ 100 := by
  simp only [Chance.between]
  omega

theorem line_of_mem_exchanges {requests : List Request} (h : e ∈ s.exchanges requests) :
    1 ≤ e.line ∧ e.line ≤ 100 := by
  induction requests generalizing s with
  | nil => simp [exchanges] at h
  | cons r requests ih =>
    rcases List.mem_cons.mp h with rfl | h
    · exact line_between s.chance
    · exact ih h

/-! ## One request -/

theorem calls_map_of_onStack {line : Int} (s : DebugSession)
    (h : ∀ program stack, command.onStack program line stack = stack) :
    s.calls = s.calls.map fun c => (c.1, command.onStack c.1 line c.2) := by
  simp [h]

theorem calls_stop (s : DebugSession) : s.stop.calls = s.calls := by
  rw [calls, stop, Option.map_map]
  rfl

/-- A turn that starts no program does to the stack what its command does. -/
theorem Turn.calls_eq (h : Turn s command success s') (hstart : (success && command.starts) = false) :
    s'.calls = s.calls.map fun c =>
      (c.1, command.onStack c.1 (s.chance.between 1 100).1 c.2) := by
  cases h with
  | fails h => exact s.calls_map_of_onStack fun _ _ => Command.onStack_of_canFail h
  | asks h => exact s.calls_map_of_onStack fun _ _ => Command.onStack_of_asks h
  | initializes => exact s.calls_map_of_onStack fun _ _ => rfl
  | launches => contradiction
  | restarts => contradiction
  | sets => exact s.calls_map_of_onStack fun _ _ => rfl
  | waits _ h => simp [calls, h]
  | resumes h => simp [calls, h, Command.onStack]
  | pushes hf h => simp [calls, h, Command.onStack_of_frame? hf, Runtime.push]
  | pops h => simp [calls, h, Command.onStack, Runtime.pop]
  | stops => exact s.calls_stop.trans (s.calls_map_of_onStack fun _ _ => rfl)
  | leaves => exact s.calls_stop.trans (s.calls_map_of_onStack fun _ _ => rfl)

/-- A request that starts no program does to the stack what it does to any. -/
theorem calls_handle (h : (s.exchange r).starts = false) :
    (s.handle r).2.calls = s.calls.map fun c => (c.1, (s.exchange r).onStack c.1 c.2) := by
  show (s.handled r).session.calls = _
  rcases s.handled_cases r with ⟨command, hcommand, hturn⟩ | ⟨hnone, _, hsame⟩
  · have hknown : (s.exchange r).command? = some command := hcommand
    rw [Exchange.starts, hknown, Option.any_some] at h
    simp only [Exchange.onStack, hknown]
    exact hturn.calls_eq h
  · have hunknown : (s.exchange r).command? = none := hnone
    simp [Exchange.onStack, hunknown, hsame]

/-- A launch that succeeds has started the program that it names. -/
theorem launch_succeeds (h : (s.dispatch r .launch).body.succeeds = true) :
    ∃ program, r.program? = some program ∧
      (s.dispatch r .launch).session = (s.load program).queue .initialized := by
  rw [dispatch, withArguments] at h ⊢
  rw [Request.program?]
  split at h
  · next a ha =>
    rw [ha]
    simp only [launch] at h ⊢
    split at h
    · contradiction
    · contradiction
    · next program _ hprogram => exact ⟨program, hprogram, rfl⟩
  · contradiction

/-- A restart that succeeds has started the program that there was. -/
theorem Turn.exists_runtime (h : Turn s .restart true s') :
    ∃ runtime, s.runtime = some runtime ∧ s' = s.load runtime.program := by
  cases h with
  | asks h => contradiction
  | restarts h => exact ⟨_, h, rfl⟩
  | waits h => contradiction
  | pushes h => contradiction

/-- A request that starts a program leaves its stack empty. The program is the one that it launches or
the one that it restarts. -/
theorem calls_handle_of_starts (h : (s.exchange r).starts = true) :
    ∃ program, (s.handle r).2.calls = some (program, []) ∧
      ((s.exchange r).launched? = some program ∨
        (s.exchange r).launched? = none ∧ ∃ stack, s.calls = some (program, stack)) := by
  obtain ⟨hsuccess, hstarts⟩ := Bool.and_eq_true_iff.mp h
  obtain ⟨command, hcommand, hstarts⟩ := (Option.any_eq_true _ _).mp hstarts
  have hhandled : s.handled r = s.dispatch r command := handled_known hcommand
  have hbody : (s.dispatch r command).body.succeeds = true := hhandled ▸ hsuccess
  have hcalls : (s.handle r).2.calls = (s.dispatch r command).session.calls := by
    rw [handle_eq, hhandled]
    rfl
  rw [hcalls, Exchange.launched?, hsuccess, hcommand]
  cases command with
  | launch =>
    obtain ⟨program, hprogram, hload⟩ := launch_succeeds hbody
    refine ⟨program, ?_, Or.inl hprogram⟩
    rw [hload]
    rfl
  | restart =>
    have hturn := s.turn_dispatch r .restart
    rw [hbody] at hturn
    obtain ⟨runtime, hruntime, hload⟩ := hturn.exists_runtime
    refine ⟨runtime.program, ?_, Or.inr ⟨rfl, runtime.stack, ?_⟩⟩
    · rw [hload]
      rfl
    · rw [calls, hruntime]
      rfl
  | _ => contradiction

/-! ## Requests in turn -/

/-- A request takes a stack that its history tells to one that its history tells. -/
theorem calls_handle_eq_callsAfter {history : List Exchange} (h : s.calls = callsAfter history) :
    (s.handle r).2.calls = callsAfter (history ++ [s.exchange r]) := by
  cases hstarts : (s.exchange r).starts with
  | false => rw [calls_handle hstarts, callsAfter_concat hstarts, h]
  | true =>
    obtain ⟨program, hcalls, hprogram⟩ := calls_handle_of_starts hstarts
    rw [hcalls, callsAfter_concat_of_starts hstarts]
    rcases hprogram with hlaunched | ⟨hnone, stack, hbefore⟩
    · rw [hlaunched]
      rfl
    · obtain ⟨_, hlast, heq⟩ := Option.map_eq_some_iff.mp (h.symm.trans hbefore)
      obtain ⟨rfl, _⟩ := Prod.mk.inj heq
      rw [hnone, hlast]
      rfl

theorem calls_handleAll {history : List Exchange} (h : s.calls = callsAfter history)
    (requests : List Request) :
    (s.handleAll requests).2.calls = callsAfter (history ++ s.exchanges requests) := by
  induction requests generalizing s history with
  | nil => rwa [exchanges, List.append_nil]
  | cons r requests ih =>
    rw [exchanges, List.append_cons]
    exact ih (calls_handle_eq_callsAfter h)

theorem suffix_handle (h : frames <:+ s.stack)
    (hlength : frames.length ≤ (s.handle r).2.stack.length) : frames <:+ (s.handle r).2.stack := by
  cases hstarts : (s.exchange r).starts with
  | true =>
    obtain ⟨program, hcalls, _⟩ := calls_handle_of_starts hstarts
    rw [stack, hcalls] at hlength ⊢
    rw [List.eq_nil_of_length_eq_zero (Nat.le_zero.mp hlength)]
    exact List.nil_suffix
  | false =>
    rw [stack] at h
    rw [stack, calls_handle hstarts] at hlength ⊢
    cases hcalls : s.calls with
    | none =>
      rw [hcalls] at h
      exact h
    | some c =>
      rw [hcalls] at h hlength
      exact Exchange.suffix_onStack h hlength

/-- Frames at the bottom of the stack stay there, each with its line, as long as the stack does not
become too short for them. -/
theorem suffix_handleAll {more : List Request} (h : frames <:+ s.stack)
    (hlength : ∀ before, before <+: more →
      frames.length ≤ (s.handleAll before).2.stack.length) :
    frames <:+ (s.handleAll more).2.stack := by
  induction more generalizing s with
  | nil => exact h
  | cons r more ih =>
    have hfirst : frames <:+ (s.handle r).2.stack :=
      suffix_handle h (hlength [r] (by simp))
    apply ih hfirst
    intro before hbefore
    exact hlength (r :: before) ((List.prefix_cons_inj r).mpr hbefore)

/-! ## Answers -/

/-- A client that asks for the stack of a runtime gets its frames, newest first. -/
theorem handle_stackTrace (hs : s.pending = [])
    (hcommand : Command.ofName? r.command = some .stackTrace) (hruntime : s.runtime.isSome = true) :
    (s.handle r).1 = [.response s.nextSeq r.seq r.command (.stackTrace s.stack)] := by
  obtain ⟨runtime, hr⟩ := Option.isSome_iff_exists.mp hruntime
  have hhandled : s.handled r = s.answer (.stackTrace s.stack) := by
    rw [handled_known hcommand]
    simp [dispatch, withRuntime, hr, stack, calls]
  rw [handle_of_answer hhandled, hs]
  rfl

/-- In an answer the frames are numbered through from 0, and counted. -/
theorem json_stackTrace (frames : List StackFrame) :
    ∃ items, (Body.stackTrace frames).json =
        .record [("stackFrames", .arr items), ("totalFrames", .int frames.length)] ∧
      ∀ id, items[id]? = frames[id]?.map (frameJson id) := by
  refine ⟨_, rfl, fun id => ?_⟩
  rw [List.getElem?_map, List.getElem?_zipIdx, Option.map_map, Nat.zero_add]
  rfl

/-- Whatever requests have led to a session, its call stack is that of the program launched last, with
the frames that the requests since its start have pushed and not popped; their lines are from 1 to 100.
A client that asks for them gets them newest first and numbered through from 0. The frames at the bottom
of the stack stay as they are, whatever requests follow, as long as the stack does not become too short
for them. -/
theorem stack_history (chance : Chance) (requests : List Request) :
    let s := ((start chance).handleAll requests).2
    let history := (start chance).exchanges requests
    s.calls = callsAfter history ∧
      (∀ frame ∈ s.stack,
        launchedLast? history = some frame.file ∧ 1 ≤ frame.line ∧ frame.line ≤ 100) ∧
      (∀ r, Command.ofName? r.command = some .stackTrace → s.runtime.isSome = true →
        (s.handle r).1 = [.response s.nextSeq r.seq r.command (.stackTrace s.stack)]) ∧
      (∃ items, (Body.stackTrace s.stack).json =
          .record [("stackFrames", .arr items), ("totalFrames", .int s.stack.length)] ∧
        ∀ id, items[id]? = s.stack[id]?.map (frameJson id)) ∧
      ∀ frames more, frames <:+ s.stack →
        (∀ before, before <+: more → frames.length ≤ (s.handleAll before).2.stack.length) →
        frames <:+ (s.handleAll more).2.stack := by
  intro s history
  have hstart : (start chance).calls = callsAfter [] := rfl
  have hcalls : s.calls = callsAfter history := calls_handleAll hstart requests
  have hpending : s.pending = [] := pending_handleAll rfl requests
  refine ⟨hcalls, ?_, fun _ => handle_stackTrace hpending, json_stackTrace s.stack,
    fun _ _ => suffix_handleAll⟩
  intro frame hframe
  rw [stack, hcalls, callsAfter] at hframe
  cases hlast : launchedLast? history with
  | none => simp [hlast] at hframe
  | some program =>
    have hmem : frame ∈ framesAfter program (sinceStart history) := by simpa [hlast] using hframe
    obtain ⟨hfile, e, he, hline⟩ := mem_framesAfter hmem
    have hrange := line_of_mem_exchanges ((List.rtakeWhile_suffix _ _).subset he)
    rw [hfile, hline]
    exact ⟨rfl, hrange⟩

/-- Steps before the launch count for nothing, nor does a launch without a program, and a step out of an
empty stack leaves it empty. -/
example (chance : Chance) :
    let program := Json.arr [.str "a.ln".toList]
    (((start chance).handleAll [⟨1, "next".toList, none⟩, ⟨2, "launch".toList, some program⟩,
      ⟨3, "stepOut".toList, none⟩, ⟨4, "next".toList, none⟩, ⟨5, "launch".toList, none⟩,
      ⟨6, "stepIn".toList, none⟩]).2.stack.map StackFrame.name) =
        ["step_into".toList, "step_over".toList] := by
  cbv

end DebugSession

end LineScript.Debug
