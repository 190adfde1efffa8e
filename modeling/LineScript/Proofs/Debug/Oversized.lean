import LineScript.Proofs.Debug.Serve

/-!
Frames whose bodies are too long. Such a frame is refused at the header with its length, and nothing
behind that header is taken off the input with it: the body is read as what the next frame begins with
(`readAll_oversized`). It goes unnoticed only if it is made of whole lines that look like headers without
a length; a frame in it is read, and a request in that frame is handled (`serve_hidden_request`).
-/

namespace LineScript.Debug

open Text

/-- A frame with a body that is too long: a header with its length, an empty line, and the body. -/
structure OversizedFrame where
  given : HeaderLine
  empty : LineEnd
  body : List UInt8
  given_length : ∃ value, given.length? = some value ∧ value.trim = Text.ofNat body.length
  too_long : maxBodyLength < body.length

namespace OversizedFrame

/-- The frame as it is sent. -/
def bytes (f : OversizedFrame) : List UInt8 := f.given.bytes ++ f.empty.bytes ++ f.body

/-- What is said of the frame. -/
def refusal (f : OversizedFrame) : FrameResult :=
  .error (.lengthInvalid (Text.ofNat f.body.length))

/-- A body that is too long, with the frame that it is written with. -/
def ofBody (body : List UInt8) (h : maxBodyLength < body.length) : OversizedFrame :=
  ⟨.ofLength body.length, .returnFeed, body,
    ⟨_, HeaderLine.length?_ofLength body.length, trim_space_ofNat body.length⟩, h⟩

theorem bytes_ofBody (body : List UInt8) (h : maxBodyLength < body.length) :
    (ofBody body h).bytes = frame body := (frame_eq body).symm

end OversizedFrame

/-- A body that leaves no trace when it is read for a header: whole lines, first empty ones and then ones
that give no length. -/
def Traceless (body : List UInt8) : Prop :=
  ∃ (blank : List LineEnd) (lines : List HeaderLine), (∀ line ∈ lines, line.length? = none) ∧
    body = blank.flatMap LineEnd.bytes ++ lines.flatMap HeaderLine.bytes

namespace FrameReader

theorem readAll_blank (blank : List LineEnd) (rest : List UInt8) :
    readAll start (blank.flatMap LineEnd.bytes ++ rest) = readAll start rest := by
  induction blank with
  | nil => rfl
  | cons e blank ih => rw [List.flatMap_cons, List.append_assoc, readAll_empty_start, ih]

/-- The header with the length is the last of the frame that is read as such. -/
theorem readAll_oversizedFrame (f : OversizedFrame) (rest : List UInt8) :
    readAll start (f.bytes ++ rest) = f.refusal :: readAll start (f.body ++ rest) := by
  obtain ⟨value, hgiven, hvalue⟩ := f.given_length
  have hnone : readLength? value.trim = none := by
    rw [hvalue, readLength?_ofNat, if_neg (Nat.not_le.mpr f.too_long)]
  have hitem := readAll_item (.refused f.given value f.empty hgiven hnone) (f.body ++ rest)
  rw [Item.bytes, Item.result, hvalue] at hitem
  rw [OversizedFrame.bytes, List.append_assoc]
  exact hitem

/-- Behind a body without a trace the items of a stream are read as they are without it. -/
theorem readAll_traceless {body : List UInt8} (h : Traceless body) (items : List Item) :
    readAll start (body ++ items.flatMap Item.bytes) = items.map Item.result := by
  obtain ⟨blank, lines, hlines, rfl⟩ := h
  rw [List.append_assoc, readAll_blank, start, readAll_others hlines]
  cases items with
  | nil => rfl
  | cons item items =>
    rw [List.flatMap_cons, readAll_item_behind, readAll_items, List.map_cons]

end FrameReader

/-- Reading a stream that begins with a frame that is too long reports the length, once, and goes on with
the body of that frame as if the stream began there; serving does the same. If the body leaves no trace,
what is read behind the report are the items behind the frame, and serving the stream is handling their
requests in turn. -/
theorem readAll_oversized (f : OversizedFrame) :
    (∀ rest, FrameReader.start.readAll (f.bytes ++ rest) =
        f.refusal :: FrameReader.start.readAll (f.body ++ rest) ∧
      ∀ s : DebugSession, s.serve (f.bytes ++ rest) = s.serve (f.body ++ rest)) ∧
    (Traceless f.body → ∀ items : List Item,
      FrameReader.start.readAll (f.bytes ++ items.flatMap Item.bytes) =
        f.refusal :: items.map Item.result ∧
      ∀ s : DebugSession, s.finished = false →
        s.serve (f.bytes ++ items.flatMap Item.bytes) =
          let handled := s.handleAll (throughDisconnect (items.filterMap Item.request?))
          ⟨none, handled.1, handled.2⟩) := by
  have hread := FrameReader.readAll_oversizedFrame f
  have hserve : ∀ rest (s : DebugSession), s.serve (f.bytes ++ rest) = s.serve (f.body ++ rest) := by
    intro rest s
    rw [DebugSession.serve, hread]
    rfl
  refine ⟨fun rest => ⟨hread rest, hserve rest⟩, fun htrace items => ?_⟩
  have hitems := FrameReader.readAll_traceless htrace items
  refine ⟨(hread _).trans (congrArg (f.refusal :: ·) hitems), fun s hs => ?_⟩
  rw [hserve, DebugSession.serve, hitems, DebugSession.serveFrames_items hs]

/-- So many line feeds. -/
def feeds (n : Nat) : List UInt8 := (List.replicate n LineEnd.feed).flatMap LineEnd.bytes

theorem length_feeds (n : Nat) : (feeds n).length = n := by
  induction n with
  | zero => rfl
  | succ n ih =>
    rw [feeds, List.replicate_succ, List.flatMap_cons, List.length_append, ← feeds, ih]
    exact Nat.add_comm 1 n

theorem readAll_feeds (n : Nat) : FrameReader.start.readAll (feeds n) = [] := by
  have hblank := FrameReader.readAll_blank (List.replicate n LineEnd.feed) []
  rw [List.append_nil] at hblank
  exact hblank

/-- A body of line feeds, and a request behind it. -/
theorem readAll_oversized_feeds :
    ∃ too_long : maxBodyLength < (feeds (maxBodyLength + 1)).length,
      let f : OversizedFrame := .ofBody (feeds (maxBodyLength + 1)) too_long
      let items : List Item := [.ofBody (toBytes "[\"request\",1,\"threads\"]".toList) (by decide)]
      let s : DebugSession := .start (.ofSeed 0)
      Traceless f.body ∧ s.finished = false ∧
        (items.filterMap Item.request?).map Request.command = ["threads".toList] ∧
        s.serve (f.bytes ++ items.flatMap Item.bytes) =
          let handled := s.handleAll (throughDisconnect (items.filterMap Item.request?))
          ⟨none, handled.1, handled.2⟩ := by
  have too_long : maxBodyLength < (feeds (maxBodyLength + 1)).length := by
    rw [length_feeds]
    exact Nat.lt_succ_self _
  refine ⟨too_long, ?_⟩
  intro f items s
  have htrace : Traceless f.body := ⟨_, [], by simp, (List.append_nil _).symm⟩
  exact ⟨htrace, rfl, by decide +kernel, ((readAll_oversized f).2 htrace items).2 s rfl⟩

/-- In a body that is too long, a frame with a request to disconnect, and line feeds behind it. Nothing
follows the body, and yet a frame is read and its request handled. -/
theorem serve_hidden_request :
    let hidden := toBytes "[\"request\",1,\"disconnect\"]".toList
    let body := frame hidden ++ feeds maxBodyLength
    let s : DebugSession := .start (.ofSeed 0)
    ∃ too_long : maxBodyLength < body.length,
      let f : OversizedFrame := .ofBody body too_long
      f.bytes = frame body ∧
      ¬ FrameReader.start.readAll f.bytes = [f.refusal] ∧
      FrameReader.start.readAll f.bytes = [f.refusal, .ok hidden] ∧
      s.finished = false ∧ (s.serve f.bytes).session.finished = true := by
  intro hidden body s
  have too_long : maxBodyLength < body.length := by
    have hframe : 0 < (frame hidden).length := by decide
    rw [List.length_append, length_feeds]
    omega
  refine ⟨too_long, ?_⟩
  intro f
  have hframe := FrameReader.readAll_item (.ofBody hidden (by decide)) (feeds maxBodyLength)
  rw [Item.bytes_ofBody, readAll_feeds] at hframe
  have hread := FrameReader.readAll_oversizedFrame f []
  rw [List.append_nil, List.append_nil] at hread
  have hread : FrameReader.start.readAll f.bytes = [f.refusal, .ok hidden] :=
    hread.trans (congrArg (f.refusal :: ·) hframe)
  have hmore : [f.refusal, .ok hidden] ≠ [f.refusal] := by simp
  have hskip : s.serveFrames [f.refusal, .ok hidden] = s.serveFrames [.ok hidden] := rfl
  refine ⟨OversizedFrame.bytes_ofBody body too_long, fun h => hmore (hread.symm.trans h), hread,
    rfl, ?_⟩
  rw [DebugSession.serve, hread, hskip]
  decide +kernel

end LineScript.Debug
