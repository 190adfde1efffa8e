import LineScript.Debug.Serve
import LineScript.Proofs.Debug.Frame

/-!
Messages as they are written. The writer counts the bytes of a message and the reader takes as many, so
nothing of what a message says is looked at: messages that are written one after the other are read again
as they were, be there line ends, headers or characters of several bytes in them (`readAll_written`).
-/

namespace LineScript.Debug

open Text

/-- Messages, however they are put into texts, are read again from what is written of them as long as
none of the texts is too long for a frame: a reader gets the bytes of the texts in turn and then comes to
the end of the input. If there is more behind them, it is read as it would be without them. -/
theorem readAll_written (text : Message → Text) {messages : List Message}
    (h : ∀ m ∈ messages, (toBytes (text m)).length ≤ maxBodyLength) :
    let written := messages.flatMap fun m => frame (toBytes (text m))
    let texts : List FrameResult := messages.map fun m => .ok (toBytes (text m))
    FrameReader.start.readAll written = texts ∧
      ∀ behind, FrameReader.start.readAll (written ++ behind) =
        texts ++ FrameReader.start.readAll behind := by
  intro written texts
  let bodies := messages.map fun m => toBytes (text m)
  have hbodies : ∀ body ∈ bodies, body.length ≤ maxBodyLength := List.forall_mem_map.mpr h
  have hwritten : written = bodies.flatMap frame := by rw [List.flatMap_map]
  have htexts : texts = bodies.map .ok := by rw [List.map_map]; rfl
  have hread : ∀ behind, FrameReader.start.readAll (written ++ behind) =
      texts ++ FrameReader.start.readAll behind := by
    rw [hwritten, htexts]
    exact FrameReader.readAll_frames hbodies
  refine ⟨?_, hread⟩
  have hend : FrameReader.start.readAll [] = [] := rfl
  simpa [hend] using hread []

/-- The JSON of a failure that repeats a command with a header, line ends and a character of several
bytes in it, and of an event behind it. -/
theorem readAll_written_headerLike :
    let command := "né\r\n\r\nContent-Length: 9\r\n\r\n".toList
    let messages : List Message :=
      [.response 1 7 command (.failure (.unrecognized command)), .event 2 .terminated]
    let written := messages.flatMap fun m => frame m.body
    (∀ m ∈ messages, m.body.length ≤ maxBodyLength) ∧
      FrameReader.start.readAll written = messages.map fun m => .ok m.body := by
  intro command messages written
  have hlength : ∀ m ∈ messages, m.body.length ≤ maxBodyLength := by
    decide +kernel
  exact ⟨hlength, (readAll_written (fun m => m.json.render) hlength).1⟩

end LineScript.Debug
