import LineScript.Debug.Frame
import LineScript.Proofs.Text.Blanks

/-!
Reading a stream of items. An item is a frame, with any other headers before and behind the one that
gives the length of its body, or one of the malformed blocks that a reader passes over: a length that is
none, or headers that give no length. Whatever item a reader has come through, it is at the start of
the next one, so a stream of items is read item by item (`readAll_items`), and what is written is read
again (`readAll_frames`).
-/

namespace LineScript.Debug

open Text

/-! ## What a stream is made of -/

/-- How a line ends. -/
inductive LineEnd where
  | feed
  | returnFeed
deriving DecidableEq

/-- What stands before the line feed that ends a line. -/
def LineEnd.before : LineEnd → Text
  | feed => []
  | returnFeed => ['\r']

/-- An empty line. -/
def LineEnd.bytes (e : LineEnd) : List UInt8 := toBytes e.before ++ [10]

/-- A header line. -/
structure HeaderLine where
  text : Text
  ending : LineEnd
  ne_nil : text ≠ []
  return_not_mem : '\r' ∉ text
  feed_not_mem : '\n' ∉ text

namespace HeaderLine

def bytes (line : HeaderLine) : List UInt8 := toBytes line.text ++ line.ending.bytes

/-- What the line gives as the length of the body, if it is the header for that. -/
def length? (line : HeaderLine) : Option Text := stripPrefix? lengthHeader line.text

end HeaderLine

/-- A piece of a stream that is read as a whole. -/
inductive Item where
  /-- A frame: exactly one of its headers gives a length, which is that of the body. -/
  | framed (before : List HeaderLine) (given : HeaderLine) (behind : List HeaderLine)
      (empty : LineEnd) (body : List UInt8)
      (before_others : ∀ line ∈ before, line.length? = none)
      (behind_others : ∀ line ∈ behind, line.length? = none)
      (given_length : ∃ value, given.length? = some value ∧
        FrameReader.readLength? value.trim = some body.length)
  /-- A length that is none, or too great. -/
  | refused (line : HeaderLine) (value : Text) (empty : LineEnd)
      (given : line.length? = some value) (refuses : FrameReader.readLength? value.trim = none)
  /-- Headers of which none gives a length. -/
  | lengthless (lines : List HeaderLine) (empty : LineEnd) (ne_nil : lines ≠ [])
      (others : ∀ line ∈ lines, line.length? = none)

namespace Item

/-- The item as it is sent. -/
def bytes : Item → List UInt8
  | framed before given behind empty body _ _ _ =>
    before.flatMap HeaderLine.bytes ++ given.bytes ++ behind.flatMap HeaderLine.bytes ++
      empty.bytes ++ body
  | refused line _ empty _ _ => line.bytes ++ empty.bytes
  | lengthless lines empty _ _ => lines.flatMap HeaderLine.bytes ++ empty.bytes

/-- What a reader makes of the item. -/
def result : Item → FrameResult
  | framed _ _ _ _ body _ _ _ => .ok body
  | refused _ value _ _ _ => .error (.lengthInvalid value.trim)
  | lengthless .. => .error .lengthMissing

end Item

/-! ## Lines -/

namespace FrameReader

/-- Reading on after a step. -/
def goOn (taken : FrameReader × Option FrameResult) (rest : List UInt8) : List FrameResult :=
  match taken with
  | (r, none) => readAll r rest
  | (_, some (.error e)) => if e.isFatal then [.error e] else .error e :: readAll start rest
  | (r, some (.ok bytes)) => .ok bytes :: readAll r rest

theorem readAll_cons (r : FrameReader) (b : UInt8) (rest : List UInt8) :
    readAll r (b :: rest) = goOn (r.step b) rest := rfl

variable {length : Option Nat} {begun : Bool}

theorem readAll_line {line : List UInt8} (h : 10 ∉ line) (seen rest : List UInt8) :
    readAll (header seen length begun) (line ++ 10 :: rest) =
      goOn (endLine (seen.reverse ++ line) length begun) rest := by
  induction line generalizing seen with
  | nil =>
    rw [List.nil_append, readAll_cons, step, if_pos rfl, List.append_nil]
  | cons b line ih =>
    have hb : b ≠ 10 := fun e => h (by simp [e])
    have hline := ih (fun hm => h (List.mem_cons_of_mem b hm)) (b :: seen)
    rw [List.cons_append, readAll_cons, step, if_neg hb]
    show readAll (header (b :: seen) length begun) (line ++ 10 :: rest) = _
    rw [hline, List.reverse_cons, List.append_assoc, List.singleton_append]

theorem dropEndWhile_append {p : Char → Bool} {t s : Text} (ht : ∀ c ∈ t, p c = false)
    (hs : ∀ c ∈ s, p c = true) : dropEndWhile p (t ++ s) = t := by
  have hrest : t.reverse.dropWhile p = t.reverse := by
    cases h : t.reverse with
    | nil => rfl
    | cons c rest =>
      have hc : c ∈ t := by
        rw [← List.mem_reverse, h]
        exact List.mem_cons_self
      rw [List.dropWhile_cons, ht c hc, if_neg Bool.false_ne_true]
  rw [dropEndWhile, List.reverse_append,
    List.dropWhile_append_of_pos fun c hc => hs c (List.mem_reverse.mp hc), hrest,
    List.reverse_reverse]

/-- What comes of a header line, by what it gives as the length of the body. -/
def takeHeader (given : Option Text) (length : Option Nat) : FrameReader × Option FrameResult :=
  match given with
  | none => (header [] length true, none)
  | some value =>
    match readLength? value.trim with
    | some n => (header [] (some n) true, none)
    | none => (start, some (.error (.lengthInvalid value.trim)))

/-- What comes of a line whose text, without its end, is `t`. -/
def takeLine (t : Text) (length : Option Nat) (begun : Bool) : FrameReader × Option FrameResult :=
  if t.isEmpty then if begun then endHeader length else (header [] length false, none)
  else takeHeader (stripPrefix? lengthHeader t) length

/-- A line of text is taken without its end. -/
theorem endLine_text {t : Text} (hreturn : '\r' ∉ t) (hfeed : '\n' ∉ t) (ending : LineEnd) :
    endLine (toBytes t ++ toBytes ending.before) length begun = takeLine t length begun := by
  have hends : dropEndWhile (fun c => c == '\r' || c == '\n') (t ++ ending.before) = t := by
    apply dropEndWhile_append
    · intro c hc
      have hr : c ≠ '\r' := fun e => hreturn (e ▸ hc)
      have hf : c ≠ '\n' := fun e => hfeed (e ▸ hc)
      simp [hr, hf]
    · cases ending <;> simp [LineEnd.before]
  rw [endLine, ← toBytes_append, ofBytes?_toBytes]
  simp only [hends]
  rfl

theorem readAll_text {t : Text} (hreturn : '\r' ∉ t) (hfeed : '\n' ∉ t) (ending : LineEnd)
    (rest : List UInt8) :
    readAll (header [] length begun) (toBytes t ++ ending.bytes ++ rest) =
      goOn (takeLine t length begun) rest := by
  have hline : 10 ∉ toBytes t ++ toBytes ending.before := by
    intro hm
    rcases List.mem_append.mp hm with hm | hm
    · exact feed_not_mem_toBytes hfeed hm
    · cases ending <;> revert hm <;> decide
  have hjoin : toBytes t ++ ending.bytes ++ rest =
      (toBytes t ++ toBytes ending.before) ++ 10 :: rest := by
    simp [LineEnd.bytes]
  rw [hjoin, readAll_line hline, List.reverse_nil, List.nil_append,
    endLine_text hreturn hfeed ending]

/-- Empty lines before a header are passed over. -/
theorem readAll_empty_start (e : LineEnd) (rest : List UInt8) :
    readAll start (e.bytes ++ rest) = readAll start rest :=
  readAll_text (t := []) List.not_mem_nil List.not_mem_nil e rest

/-- An empty line behind a header ends it. -/
theorem readAll_empty (e : LineEnd) (rest : List UInt8) :
    readAll (header [] length true) (e.bytes ++ rest) = goOn (endHeader length) rest :=
  readAll_text (t := []) List.not_mem_nil List.not_mem_nil e rest

theorem readAll_headerLine (line : HeaderLine) (rest : List UInt8) :
    readAll (header [] length begun) (line.bytes ++ rest) =
      goOn (takeHeader line.length? length) rest := by
  have hne : line.text.isEmpty = false := by simpa using line.ne_nil
  have htake : takeLine line.text length begun = takeHeader line.length? length := by
    rw [takeLine, hne]
    rfl
  rw [← htake]
  exact readAll_text line.return_not_mem line.feed_not_mem line.ending rest

theorem readAll_other {line : HeaderLine} (h : line.length? = none) (rest : List UInt8) :
    readAll (header [] length begun) (line.bytes ++ rest) = readAll (header [] length true) rest := by
  rw [readAll_headerLine, h]
  rfl

theorem readAll_given {line : HeaderLine} {value : Text} {n : Nat} (h : line.length? = some value)
    (hn : readLength? value.trim = some n) (rest : List UInt8) :
    readAll (header [] length begun) (line.bytes ++ rest) =
      readAll (header [] (some n) true) rest := by
  rw [readAll_headerLine, h, takeHeader, hn]
  rfl

/-- A length that is none takes the reader to the start of the next line. -/
theorem readAll_refused {line : HeaderLine} {value : Text} (h : line.length? = some value)
    (hn : readLength? value.trim = none) (rest : List UInt8) :
    readAll (header [] length begun) (line.bytes ++ rest) =
      .error (.lengthInvalid value.trim) :: readAll start rest := by
  rw [readAll_headerLine, h, takeHeader, hn]
  rfl

theorem readAll_others {lines : List HeaderLine} (h : ∀ line ∈ lines, line.length? = none)
    (rest : List UInt8) :
    readAll (header [] length begun) (lines.flatMap HeaderLine.bytes ++ rest) =
      readAll (header [] length (begun || !lines.isEmpty)) rest := by
  induction lines generalizing begun with
  | nil => simp
  | cons line lines ih =>
    rw [List.flatMap_cons, List.append_assoc, readAll_other (h line (by simp)),
      ih fun l hl => h l (List.mem_cons_of_mem line hl)]
    simp

/-! ## Bodies and items -/

/-- A body is complete with its last byte. -/
theorem readAll_body {bytes : List UInt8} (hne : bytes ≠ []) (seen rest : List UInt8) :
    readAll (body bytes.length seen) (bytes ++ rest) =
      .ok (seen.reverse ++ bytes) :: readAll start rest := by
  induction bytes generalizing seen with
  | nil => contradiction
  | cons b bytes ih =>
    rw [List.cons_append, readAll_cons, step]
    by_cases hlast : bytes = []
    · subst hlast
      simp [goOn]
    · have hlong : ¬ (b :: bytes).length ≤ 1 := by
        have hpos := List.length_pos_iff.mpr hlast
        rw [List.length_cons]
        omega
      rw [if_neg hlong, List.length_cons, Nat.add_sub_cancel]
      show readAll (body bytes.length (b :: seen)) (bytes ++ rest) = _
      rw [ih hlast, List.reverse_cons, List.append_assoc, List.singleton_append]

theorem goOn_endHeader (bytes rest : List UInt8) :
    goOn (endHeader (some bytes.length)) (bytes ++ rest) = .ok bytes :: readAll start rest := by
  cases bytes with
  | nil => rfl
  | cons b bytes => exact readAll_body (List.cons_ne_nil b bytes) [] rest

/-- Whatever the item, the reader is at the start behind it, also if there have been headers in front of
it that give no length. -/
theorem readAll_item_behind (item : Item) (rest : List UInt8) :
    readAll (header [] none begun) (item.bytes ++ rest) = item.result :: readAll start rest := by
  cases item with
  | framed before given behind empty body hbefore hbehind hgiven =>
    obtain ⟨value, hvalue, hlength⟩ := hgiven
    -- Headers before the length leave none to the reader, and those behind it leave it as it is.
    simp only [Item.bytes, List.append_assoc]
    rw [readAll_others hbefore, readAll_given hvalue hlength, readAll_others hbehind,
      Bool.true_or, readAll_empty, goOn_endHeader]
    rfl
  | refused line value empty hvalue hnone =>
    -- The error comes with the line itself, so the empty line is one before the next header.
    rw [Item.bytes, List.append_assoc, readAll_refused hvalue hnone, readAll_empty_start]
    rfl
  | lengthless lines empty hne hothers =>
    have hsome : lines.isEmpty = false := by simpa using hne
    rw [Item.bytes, List.append_assoc, readAll_others hothers, hsome, Bool.not_false, Bool.or_true]
    exact readAll_empty empty rest

theorem readAll_item (item : Item) (rest : List UInt8) :
    readAll start (item.bytes ++ rest) = item.result :: readAll start rest :=
  readAll_item_behind item rest

/-- A stream of items is read item by item. -/
theorem readAll_items (items : List Item) :
    readAll start (items.flatMap Item.bytes) = items.map Item.result := by
  induction items with
  | nil => rfl
  | cons item items ih => rw [List.flatMap_cons, readAll_item, ih, List.map_cons]

end FrameReader

/-! ## Frames as they are written -/

/-- A number in decimal digits is a length unless it is too great. -/
theorem FrameReader.readLength?_ofNat (n : Nat) :
    FrameReader.readLength? (Text.ofNat n) = if n ≤ maxBodyLength then some n else none := by
  have hvalue : Nat.ofDigitChars 10 (Text.ofNat n) 0 = n := Nat.ofDigitChars_ten_toDigits
  have hall : (Text.ofNat n).all Char.isDigit = true :=
    List.all_eq_true.mpr fun c hc => isDigit_of_mem_ofNat hc
  obtain ⟨c, rest, ht⟩ := List.exists_cons_of_ne_nil (ofNat_ne_nil n)
  have hplus : stripPrefix? ['+'] (Text.ofNat n) = none := by
    have hc : '+' ≠ c := by
      rintro rfl
      have hd : '+'.isDigit = true := isDigit_of_mem_ofNat (n := n) (by rw [ht]; simp)
      contradiction
    rw [ht, stripPrefix?, if_neg hc]
  have hsome : (Text.ofNat n).isEmpty = false := by
    rw [ht]
    rfl
  simp only [FrameReader.readLength?, hplus, Option.getD_none, hsome, hall, hvalue]
  rfl

theorem not_mem_lengthLine {c : Char} (hc : c.isDigit = false) (hspace : c ≠ ' ')
    (hheader : c ∉ lengthHeader) (n : Nat) : c ∉ lengthHeader ++ ' ' :: Text.ofNat n := by
  intro hm
  rcases List.mem_append.mp hm with hm | hm
  · exact hheader hm
  · rcases List.mem_cons.mp hm with rfl | hm
    · exact hspace rfl
    · rw [isDigit_of_mem_ofNat hm] at hc
      contradiction

/-- The header with the length of a body, as it is written. -/
def HeaderLine.ofLength (n : Nat) : HeaderLine where
  text := lengthHeader ++ ' ' :: Text.ofNat n
  ending := .returnFeed
  ne_nil := List.cons_ne_nil _ _
  return_not_mem := not_mem_lengthLine (by decide) (by decide) (by decide) n
  feed_not_mem := not_mem_lengthLine (by decide) (by decide) (by decide) n

theorem HeaderLine.length?_ofLength (n : Nat) :
    (HeaderLine.ofLength n).length? = some (' ' :: Text.ofNat n) :=
  stripPrefix?_eq_some.mpr rfl

theorem trim_space_ofNat (n : Nat) : trim (' ' :: Text.ofNat n) = Text.ofNat n := by
  have hblank : Blank [' '] := by decide
  apply (trim_blank_append hblank (Text.ofNat n)).trans
  exact trim_of_not_blank fun c hc => isBlank_of_isDigit (isDigit_of_mem_ofNat hc)

/-- A frame is the header with the length of its body, an empty line, and the body. -/
theorem frame_eq (body : List UInt8) :
    frame body = (HeaderLine.ofLength body.length).bytes ++ LineEnd.returnFeed.bytes ++ body := by
  have hends : toBytes "\r\n\r\n".toList = LineEnd.returnFeed.bytes ++ LineEnd.returnFeed.bytes := by
    decide
  have hheader : lengthHeader ++ [' '] ++ Text.ofNat body.length =
      lengthHeader ++ ' ' :: Text.ofNat body.length := List.append_assoc ..
  rw [frame, hheader, toBytes_append, hends]
  simp only [HeaderLine.bytes, HeaderLine.ofLength, List.append_assoc]

/-- A body as the item that it is written as. -/
def Item.ofBody (body : List UInt8) (h : body.length ≤ maxBodyLength) : Item :=
  .framed [] (.ofLength body.length) [] .returnFeed body (by simp) (by simp)
    ⟨_, HeaderLine.length?_ofLength body.length, by
      rw [trim_space_ofNat, FrameReader.readLength?_ofNat, if_pos h]⟩

/-- What is written can be read: a frame is an item. -/
theorem Item.bytes_ofBody (body : List UInt8) (h : body.length ≤ maxBodyLength) :
    (Item.ofBody body h).bytes = frame body := by
  rw [frame_eq]
  simp only [Item.ofBody, Item.bytes, List.flatMap_nil, List.nil_append, List.append_nil]

/-- Frames that are written one after the other are read as their bodies, and what is behind them as it is
without them. -/
theorem FrameReader.readAll_frames {bodies : List (List UInt8)}
    (h : ∀ body ∈ bodies, body.length ≤ maxBodyLength) (rest : List UInt8) :
    readAll start (bodies.flatMap frame ++ rest) = bodies.map .ok ++ readAll start rest := by
  induction bodies with
  | nil => rfl
  | cons body bodies ih =>
    have hbodies := ih fun b hb => h b (List.mem_cons_of_mem body hb)
    rw [List.flatMap_cons, ← Item.bytes_ofBody body (h body (by simp)), List.append_assoc,
      readAll_item, hbodies]
    rfl

end LineScript.Debug
