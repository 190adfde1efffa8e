import LineScript.Proofs.Debug.Turn
import Mathlib.Data.List.Forall2

/-!
The batches of messages that answer requests. Events are queued, and a batch is a response and what is in
the queue by then. Only a launch that succeeds and a termination queue an event (`pending_handled`), and a
batch leaves nothing in the queue. So the messages of a session are numbered through from 1, however its
requests come and whatever becomes of them, and no batch holds anything that an earlier request caused
(`batches_start`).
-/

namespace LineScript.Debug

/-- The number of a message. -/
def Message.seq : Message → Int
  | response seq _ _ _ => seq
  | event seq _ => seq

/-- The event that the answer to a command causes. -/
def EventKind.causedBy? (command : Text) (success : Bool) : Option EventKind :=
  if command = "launch".toList then if success then some initialized else none
  else if command = "terminate".toList then some terminated
  else none

/-- The batch that answers a request: the response to it, and the event that it causes. -/
def Request.AnsweredBy (r : Request) (batch : List Message) : Prop :=
  ∃ seq body, batch = .response seq r.seq r.command body ::
    ((EventKind.causedBy? r.command body.succeeds).map (Message.event (seq + 1))).toList

/-- So many numbers from `first` on. -/
def numbersFrom : (first : Int) → (count : Nat) → List Int
  | _, 0 => []
  | first, count + 1 => first :: numbersFrom (first + 1) count

@[simp] theorem length_numbersFrom (first : Int) (count : Nat) :
    (numbersFrom first count).length = count := by
  induction count generalizing first with
  | zero => rfl
  | succ count ih => rw [numbersFrom, List.length_cons, ih]

theorem numbersFrom_add (first : Int) (m n : Nat) :
    numbersFrom first (m + n) = numbersFrom first m ++ numbersFrom (first + m) n := by
  induction m generalizing first with
  | zero => simp [numbersFrom]
  | succ m ih =>
    have hcount : m + 1 + n = m + n + 1 := by omega
    have hfirst : first + ((m + 1 : Nat) : Int) = first + 1 + (m : Int) := by omega
    rw [hcount, numbersFrom, ih, numbersFrom, hfirst, List.cons_append]

namespace DebugSession

variable {s : DebugSession} {r : Request}

/-! ## The event of one request -/

/-- The event that an answer causes is the one that the command queues. -/
theorem causedBy?_eq (name : Text) (success : Bool) : EventKind.causedBy? name success =
    (Command.ofName? name).bind (Command.queues? success) := by
  by_cases hlaunch : name = "launch".toList
  · have hcommand : Command.ofName? name = some .launch := by
      rw [hlaunch]
      decide
    rw [EventKind.causedBy?, if_pos hlaunch, hcommand]
    rfl
  by_cases hterminate : name = "terminate".toList
  · have hcommand : Command.ofName? name = some .terminate := by
      rw [hterminate]
      decide
    rw [EventKind.causedBy?, if_neg hlaunch, if_pos hterminate, hcommand]
    rfl
  rw [EventKind.causedBy?, if_neg hlaunch, if_neg hterminate]
  cases hcommand : Command.ofName? name with
  | none => rfl
  | some command =>
    -- A command has one name only, so this one is neither of the two.
    have table : ∀ entry ∈ Command.names,
        (entry.2 = .launch → entry.1 = "launch".toList) ∧
          (entry.2 = .terminate → entry.1 = "terminate".toList) := by
      decide
    obtain ⟨hl, ht⟩ := table _ (Entries.mem_of_get? hcommand)
    cases command with
    | launch => exact absurd (hl rfl) hlaunch
    | terminate => exact absurd (ht rfl) hterminate
    | _ => rfl

/-- A request puts the event that its answer causes behind those that are queued. -/
theorem pending_handled (s : DebugSession) (r : Request) : (s.handled r).session.pending =
    s.pending ++ (EventKind.causedBy? r.command (s.handled r).body.succeeds).toList := by
  rw [causedBy?_eq]
  rcases s.handled_cases r with ⟨command, hcommand, hturn⟩ | ⟨hnone, _, hsame⟩
  · rw [hcommand]
    exact hturn.pending_eq
  · rw [hnone, hsame]
    exact (List.append_nil _).symm

/-! ## Batches -/

/-- Handles requests in turn: the batch of messages that answers each. -/
def batches (s : DebugSession) : List Request → List (List Message)
  | [] => []
  | r :: rest => (s.handle r).1 :: (s.handle r).2.batches rest

theorem handleAll_messages (s : DebugSession) (requests : List Request) :
    (s.handleAll requests).1 = (s.batches requests).flatten := by
  induction requests generalizing s with
  | nil => rfl
  | cons r rest ih => rw [handleAll, batches, List.flatten_cons, ← ih]

theorem answeredBy_handle (hs : s.pending = []) (r : Request) : r.AnsweredBy (s.handle r).1 := by
  refine ⟨s.nextSeq, (s.handled r).body, ?_⟩
  rw [handle_eq, pending_handled, hs, List.nil_append]
  cases EventKind.causedBy? r.command (s.handled r).body.succeeds <;> rfl

theorem seq_eventMessages (seq : Int) (kinds : List EventKind) :
    (eventMessages seq kinds).map Message.seq = numbersFrom seq kinds.length := by
  induction kinds generalizing seq with
  | nil => rfl
  | cons kind rest ih =>
    rw [eventMessages, List.map_cons, ih]
    rfl

/-- A batch takes the numbers up to the one that the next batch begins with. -/
theorem seq_handle (s : DebugSession) (r : Request) :
    (s.handle r).1.map Message.seq = numbersFrom s.nextSeq (s.handle r).1.length ∧
      (s.handle r).2.nextSeq = s.nextSeq + (s.handle r).1.length := by
  have hevents := seq_eventMessages (s.nextSeq + 1) (s.handled r).session.pending
  have hlength : (eventMessages (s.nextSeq + 1) (s.handled r).session.pending).length =
      (s.handled r).session.pending.length := by
    have hcount := congrArg List.length hevents
    rwa [List.length_map, length_numbersFrom] at hcount
  rw [handle_eq, List.map_cons, hevents, List.length_cons, hlength]
  refine ⟨rfl, ?_⟩
  show s.nextSeq + 1 + (s.handled r).session.pending.length = _
  omega

/-- The messages of a run are numbered on from the number that the session has come to. -/
theorem seq_batches (s : DebugSession) (requests : List Request) :
    (s.batches requests).flatten.map Message.seq =
      numbersFrom s.nextSeq (s.batches requests).flatten.length := by
  induction requests generalizing s with
  | nil => rfl
  | cons r rest ih =>
    obtain ⟨hbatch, hnext⟩ := s.seq_handle r
    rw [batches, List.flatten_cons, List.map_append, hbatch, ih, hnext, List.length_append,
      numbersFrom_add]

/-- A batch leaves no event behind, so the next one holds none but that of its own request. -/
theorem answeredBy_batches (hs : s.pending = []) (requests : List Request) :
    List.Forall₂ Request.AnsweredBy requests (s.batches requests) := by
  induction requests generalizing s with
  | nil => exact .nil
  | cons r rest ih => exact .cons (answeredBy_handle hs r) (ih rfl)

/-- From its start on, the messages of a session are numbered through from 1, and every request is
answered by one batch: the response to it, and the one event that it causes, if it causes any. No event
is left in the queue. -/
theorem batches_start (chance : Chance) (requests : List Request) :
    let batches := (start chance).batches requests
    ((start chance).handleAll requests).1 = batches.flatten ∧
      batches.flatten.map Message.seq = numbersFrom 1 batches.flatten.length ∧
      List.Forall₂ Request.AnsweredBy requests batches ∧
      ((start chance).handleAll requests).2.pending = [] :=
  ⟨handleAll_messages _ requests, seq_batches _ requests, answeredBy_batches rfl requests,
    pending_handleAll rfl requests⟩

/-- A launch without a program is answered by its failure alone, also behind one that succeeded. -/
example (chance : Chance) :
    let program := Json.obj [("program".toList, .str "a.ln".toList)]
    ((start chance).batches [⟨7, "launch".toList, none⟩, ⟨7, "launch".toList, some program⟩,
      ⟨8, "launch".toList, none⟩, ⟨9, "terminate".toList, none⟩]).map (·.map Message.seq) =
        [[1], [2, 3], [4], [5, 6]] := by
  cbv

end DebugSession

end LineScript.Debug
