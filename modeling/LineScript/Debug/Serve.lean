import LineScript.Debug.Frame
import LineScript.Debug.Session

/-!
Serving a client: the frames of the input are decoded and handled in turn. A frame that is malformed and
a body that is no request are passed over. Serving ends with the input, after a disconnect has been
answered, or at an error after which no frame can be read.
-/

namespace LineScript.Debug

/-- A message as it goes to the client. -/
def Message.body (m : Message) : List UInt8 := Text.toBytes m.json.render

namespace DebugSession

/-- What serving comes to: the error that ended it, the messages, and the session. -/
structure Served where
  error : Option FrameError
  messages : List Message
  session : DebugSession

/-- What is written: the frame of every message. -/
def Served.output (s : Served) : List UInt8 := s.messages.flatMap fun m => frame m.body

/-- Serves frames that have been read. -/
def serveFrames (s : DebugSession) : List FrameResult → Served
  | [] => ⟨none, [], s⟩
  | .error e :: rest => if e.isFatal then ⟨some e, [], s⟩ else s.serveFrames rest
  | .ok body :: rest =>
    match Incoming.ofBytes? body with
    | some (.request r) =>
      let (messages, s) := s.handle r
      if s.finished then ⟨none, messages, s⟩
      else
        let served := s.serveFrames rest
        { served with messages := messages ++ served.messages }
    | _ => s.serveFrames rest

/-- Serves an input. -/
def serve (s : DebugSession) (input : List UInt8) : Served :=
  s.serveFrames (FrameReader.start.readAll input)

end DebugSession

end LineScript.Debug
