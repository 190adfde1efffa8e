import LineScript.Text.Quoted
import LineScript.Text.Utf8

/-!
Framing. A frame is a block of header lines with the length of the body, an empty line, and the body.
Frames are read one byte at a time, so a reader can wait for more at any point; an error in a header
takes the reader to the start of the next line. Writing is the other direction (`frame`).
-/

namespace LineScript.Debug

/-- The header that gives the length of the body. -/
def lengthHeader : Text := "Content-Length:".toList

/-- The greatest length of a body. -/
def maxBodyLength : Nat := 16 * 1024 * 1024

/-- The body as a frame. -/
def frame (body : List UInt8) : List UInt8 :=
  Text.toBytes (lengthHeader ++ [' '] ++ Text.ofNat body.length ++ "\r\n\r\n".toList) ++ body

/-- What is wrong with a frame. -/
inductive FrameError where
  /-- The input ended inside a body. -/
  | bodyCutOff
  /-- A header line that is not UTF-8. -/
  | headerNotText
  | lengthMissing
  | lengthInvalid (value : Text)
deriving DecidableEq

namespace FrameError

/-- Whether no more frames can be read after the error. -/
def isFatal : FrameError → Bool
  | bodyCutOff => true
  | headerNotText => true
  | lengthMissing => false
  | lengthInvalid _ => false

/-- What is said of the error. -/
def message : FrameError → Text
  | bodyCutOff => "I/O error: failed to fill whole buffer".toList
  | headerNotText => "I/O error: stream did not contain valid UTF-8".toList
  | lengthMissing => "message header has no Content-Length".toList
  | lengthInvalid value => "invalid Content-Length: ".toList ++ Text.quoted value

end FrameError

/-- The body of a frame, or what is wrong with it. -/
abbrev FrameResult := Except FrameError (List UInt8)

/-- Where the reading of a frame is. -/
inductive FrameReader where
  /-- In the header: the bytes of the line so far in reverse, the length if it has been given, and
  whether there has been a line that is not empty. -/
  | header (line : List UInt8) (length : Option Nat) (begun : Bool)
  /-- In the body: how many bytes are missing, and the bytes so far in reverse. -/
  | body (missing : Nat) (bytes : List UInt8)
deriving DecidableEq

namespace FrameReader

/-- Before a frame. -/
def start : FrameReader := header [] none false

/-- The length that a header gives: digits, with a plus sign before them or none, for at most
`maxBodyLength`. -/
def readLength? (value : Text) : Option Nat :=
  let digits := (Text.stripPrefix? ['+'] value).getD value
  if digits.isEmpty || !digits.all Char.isDigit then none
  else
    let n := Nat.ofDigitChars 10 digits 0
    if n ≤ maxBodyLength then some n else none

/-- The end of a header. A body of no bytes is complete at once. -/
def endHeader : Option Nat → FrameReader × Option FrameResult
  | none => (start, some (.error .lengthMissing))
  | some 0 => (start, some (.ok []))
  | some n => (body n [], none)

/-- The end of a header line. Empty lines before the first header are passed over. -/
def endLine (line : List UInt8) (length : Option Nat) (begun : Bool) :
    FrameReader × Option FrameResult :=
  match Text.ofBytes? line with
  | none => (start, some (.error .headerNotText))
  | some t =>
    let t := t.dropEndWhile fun c => c == '\r' || c == '\n'
    if t.isEmpty then if begun then endHeader length else (header [] length false, none)
    else
      match Text.stripPrefix? lengthHeader t with
      | none => (header [] length true, none)
      | some value =>
        match readLength? value.trim with
        | some n => (header [] (some n) true, none)
        | none => (start, some (.error (.lengthInvalid value.trim)))

/-- Reads one byte, which may complete a frame. -/
def step (b : UInt8) : FrameReader → FrameReader × Option FrameResult
  | header line length begun =>
    if b = 10 then endLine line.reverse length begun else (header (b :: line) length begun, none)
  | body missing bytes =>
    if missing ≤ 1 then (start, some (.ok (b :: bytes).reverse))
    else (body (missing - 1) (b :: bytes), none)

/-- The frame that the end of the input completes or breaks off. A line that is not ended counts as one
that is. -/
def finish : FrameReader → Option FrameResult
  | header [] _ _ => none
  | header (b :: line) length begun =>
    match endLine (b :: line).reverse length begun with
    | (_, some result) => some result
    | (body .., none) => some (.error .bodyCutOff)
    | (header .., none) => none
  | body .. => some (.error .bodyCutOff)

/-- The frames in the rest of an input, up to the first error after which none can be read. -/
def readAll (r : FrameReader) : List UInt8 → List FrameResult
  | [] => r.finish.toList
  | b :: rest =>
    match r.step b with
    | (r, none) => readAll r rest
    | (_, some (.error e)) => if e.isFatal then [.error e] else .error e :: readAll start rest
    | (r, some (.ok bytes)) => .ok bytes :: readAll r rest

end FrameReader

end LineScript.Debug
