import LineScript.CommandLine.Invocation
import LineScript.Proofs.Debug.Frame
import LineScript.Proofs.Debug.Turn

/-!
Serving a stream of items. Of a stream only the requests in its frames matter, up to and including the
first one that disconnects: serving it is handling these in turn and writing what that gives
(`serve_items`). Malformed items and bodies that are no requests leave no trace, wherever they stand.
-/

namespace LineScript.Debug

open Text CommandLine

/-! ## When a session is finished -/

namespace DebugSession

variable {s s' : DebugSession} {command : Command} {success : Bool}

/-- No command but the one to disconnect finishes a session. -/
theorem Turn.finished_eq (h : Turn s command success s') (hne : command ≠ .disconnect) :
    s'.finished = s.finished := by
  cases h with
  | leaves => contradiction
  | _ => rfl

/-- The name of the command that ends a session. -/
def disconnectName : Text := "disconnect".toList

theorem ofName?_eq_disconnect {name : Text} :
    Command.ofName? name = some .disconnect ↔ name = disconnectName := by
  constructor
  · intro h
    have table : ∀ entry ∈ Command.names, entry.2 = .disconnect → entry.1 = disconnectName := by
      decide
    exact table _ (Entries.mem_of_get? h) rfl
  · rintro rfl
    decide

theorem finished_handle (s : DebugSession) (r : Request) :
    (s.handle r).2.finished = (s.finished || r.command == disconnectName) := by
  show (s.handled r).session.finished = _
  by_cases hname : r.command = disconnectName
  · rw [handled_known (ofName?_eq_disconnect.mpr hname)]
    simp [dispatch, answer, hname]
  · have hkeep : (s.handled r).session.finished = s.finished := by
      rcases s.handled_cases r with ⟨command, hcommand, hturn⟩ | ⟨_, _, hsame⟩
      · apply hturn.finished_eq
        rintro rfl
        exact hname (ofName?_eq_disconnect.mp hcommand)
      · rw [hsame]
    simp [hkeep, hname]

end DebugSession

/-! ## Handling requests in turn -/

/-- The requests up to and including the first that disconnects. -/
def throughDisconnect : List Request → List Request
  | [] => []
  | r :: rest =>
    if r.command = DebugSession.disconnectName then [r] else r :: throughDisconnect rest

/-- The request in the body of a frame. -/
def request? (body : List UInt8) : Option Request :=
  match Incoming.ofBytes? body with
  | some (.request r) => some r
  | _ => none

/-- The request that an item carries. -/
def Item.request? : Item → Option Request
  | .framed _ _ _ _ body _ _ _ => Debug.request? body
  | .refused .. => none
  | .lengthless .. => none

namespace DebugSession

variable {s : DebugSession} {body : List UInt8} {rest : List FrameResult}

theorem serveFrames_no_request (h : request? body = none) :
    s.serveFrames (.ok body :: rest) = s.serveFrames rest := by
  rw [serveFrames]
  rw [request?] at h
  split
  · next r hr =>
    rw [hr] at h
    contradiction
  · rfl

theorem serveFrames_request {r : Request} (h : request? body = some r) :
    s.serveFrames (.ok body :: rest) =
      if (s.handle r).2.finished then ⟨none, (s.handle r).1, (s.handle r).2⟩
      else
        let served := (s.handle r).2.serveFrames rest
        { served with messages := (s.handle r).1 ++ served.messages } := by
  have hbody : Incoming.ofBytes? body = some (.request r) := by
    rw [request?] at h
    split at h
    · next r' hr =>
      obtain rfl := Option.some.inj h
      exact hr
    · contradiction
  rw [serveFrames, hbody]

/-- The items of a stream are served like their requests in turn. -/
theorem serveFrames_items (h : s.finished = false) (items : List Item) :
    s.serveFrames (items.map Item.result) =
      let handled := s.handleAll (throughDisconnect (items.filterMap Item.request?))
      ⟨none, handled.1, handled.2⟩ := by
  -- A request that does not disconnect leaves the session unfinished, which is what the hypothesis says
  -- of the items behind it.
  induction items generalizing s with
  | nil => rfl
  | cons item items ih =>
    cases item with
    | refused line value empty hvalue hnone => exact ih h
    | lengthless lines empty hne hothers => exact ih h
    | framed before given behind empty body hbefore hbehind hgiven =>
      rw [List.map_cons, Item.result, List.filterMap_cons, Item.request?]
      cases hr : request? body with
      | none =>
        rw [serveFrames_no_request hr]
        exact ih h
      | some r =>
        have hfinished := finished_handle s r
        rw [h, Bool.false_or] at hfinished
        rw [serveFrames_request hr, hfinished, throughDisconnect]
        by_cases hname : r.command = disconnectName
        · simp [hname, handleAll]
        · have hopen : (s.handle r).2.finished = false :=
            hfinished.trans (beq_eq_false_iff_ne.mpr hname)
          simp only [hname, beq_iff_eq, if_false, ih hopen, handleAll]

/-- The texts of the messages, in bytes. -/
def Served.texts (served : Served) : List (List UInt8) :=
  served.messages.map fun m => toBytes m.json.render

/-- A message goes out as a header with the length of its text in bytes, an empty line, and the text. -/
theorem Served.output_eq (served : Served) :
    served.output = served.texts.flatMap fun text =>
      toBytes ("Content-Length: ".toList ++ Nat.toDigits 10 text.length ++ "\r\n\r\n".toList) ++
        text := by
  rw [texts, List.flatMap_map]
  rfl

/-- What has been written is read back as the texts of the messages, one by one, where none is longer than
a body may be. -/
theorem Served.readAll_output (served : Served)
    (h : ∀ text ∈ served.texts, text.length ≤ maxBodyLength) :
    FrameReader.start.readAll served.output = served.texts.map .ok := by
  have hread := FrameReader.readAll_frames h []
  rw [List.append_nil, texts, List.flatMap_map] at hread
  exact hread.trans (List.append_nil _)

/-- Serving a stream of items ends without an error. The messages are those that handling the requests in
turn gives, and the session is the one behind the last of them. Every message is written as a header with
the length of its text in bytes, an empty line, and the text, and nothing else is written; so a client
reads these texts and nothing else, where none is longer than a body may be. -/
theorem serve_items (h : s.finished = false) (items : List Item) :
    let handled := s.handleAll (throughDisconnect (items.filterMap Item.request?))
    let served := s.serve (items.flatMap Item.bytes)
    let texts := handled.1.map fun m => toBytes m.json.render
    served = ⟨none, handled.1, handled.2⟩ ∧
      Invocation.ofServed served = ⟨0, served.output, []⟩ ∧
      (served.output = texts.flatMap fun text =>
        toBytes ("Content-Length: ".toList ++ Nat.toDigits 10 text.length ++ "\r\n\r\n".toList) ++
          text) ∧
      ((∀ text ∈ texts, text.length ≤ maxBodyLength) →
        FrameReader.start.readAll served.output = texts.map .ok) := by
  intro handled served texts
  have hserved : served = ⟨none, handled.1, handled.2⟩ := by
    show s.serveFrames (FrameReader.start.readAll (items.flatMap Item.bytes)) = _
    rw [FrameReader.readAll_items, serveFrames_items h]
  have htexts : served.texts = texts := by rw [hserved]; rfl
  refine ⟨hserved, ?_, ?_, ?_⟩
  · rw [hserved]
    rfl
  · rw [served.output_eq, htexts]
  · rw [← htexts]
    exact served.readAll_output

/-- Between a request and the one that disconnects stand a length that is none, a block that gives none
and a body that is no request. The request behind the disconnect is not handled. -/
theorem serve_items_malformed :
    let s : DebugSession := .start (.ofSeed 0)
    let threads := toBytes "[\"request\",1,\"threads\"]".toList
    let disconnect := toBytes "[\"request\",2,\"disconnect\"]".toList
    let garbled : HeaderLine :=
      ⟨"Content-Length: some".toList, .feed, by decide, by decide, by decide⟩
    let host : HeaderLine := ⟨"Host: here".toList, .returnFeed, by decide, by decide, by decide⟩
    let items : List Item :=
      [.ofBody threads (by decide),
       .refused garbled " some".toList .feed (by decide) (by decide),
       .lengthless [host] .returnFeed (by decide) (by decide),
       .ofBody (toBytes "[1,2".toList) (by decide),
       .ofBody disconnect (by decide),
       .ofBody threads (by decide)]
    let requests := throughDisconnect (items.filterMap Item.request?)
    let handled := s.handleAll requests
    let served := s.serve (items.flatMap Item.bytes)
    let texts := [
      toBytes ("\x7b\"type\":\"response\",\"seq\":1,\"request_seq\":1,\"success\":true,".toList ++
        "\"command\":\"threads\",\"body\":".toList ++
        "\x7b\"threads\":[\x7b\"id\":1,\"name\":\"GameLang Thread\"\x7d]\x7d\x7d".toList),
      toBytes ("\x7b\"type\":\"response\",\"seq\":2,\"request_seq\":2,\"success\":true,".toList ++
        "\"command\":\"disconnect\",\"body\":\x7b\x7d\x7d".toList)]
    s.finished = false ∧
      requests.map Request.command = ["threads".toList, disconnectName] ∧
      handled.2.finished = true ∧
      (∀ text ∈ texts, text.length ≤ maxBodyLength) ∧
      served = ⟨none, handled.1, handled.2⟩ ∧
      Invocation.ofServed served = ⟨0, served.output, []⟩ ∧
      served.output = toBytes "Content-Length: 133\r\n\r\n".toList ++ texts[0] ++
        (toBytes "Content-Length: 91\r\n\r\n".toList ++ texts[1]) ∧
      FrameReader.start.readAll served.output = [.ok texts[0], .ok texts[1]] := by
  intro s threads disconnect garbled host items requests handled served texts
  have htexts : handled.1.map (fun m => toBytes m.json.render) = texts := by decide +kernel
  have hshort : ∀ text ∈ texts, text.length ≤ maxBodyLength := by decide +kernel
  obtain ⟨hserved, hinvoked, houtput, hread⟩ := serve_items (s := s) rfl items
  refine ⟨rfl, ?_, ?_, hshort, hserved, hinvoked, ?_, ?_⟩
  · decide +kernel
  · decide +kernel
  · rw [houtput, htexts]
    decide +kernel
  · rw [hread (htexts ▸ hshort), htexts]
    rfl

end DebugSession

end LineScript.Debug
