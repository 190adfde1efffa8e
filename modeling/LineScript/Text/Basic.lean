import LineScript.Unicode.CharClass

/-!
Text as a list of characters, which is how every rule of the language looks at it: a scan from left
to right. Here are trimming, prefixes and suffixes, words, lines, and the size of a text in UTF-8.
-/

namespace LineScript

/-- A text is the list of its characters. -/
abbrev Text := List Char

namespace Text

open Unicode

/-- The text without the characters at its end that satisfy `p`. -/
def dropEndWhile (p : Char → Bool) (t : Text) : Text := (t.reverse.dropWhile p).reverse

/-- The text without leading blanks. -/
def trimStart (t : Text) : Text := t.dropWhile isBlank

/-- The text without trailing blanks. -/
def trimEnd (t : Text) : Text := dropEndWhile isBlank t

/-- The text without leading and trailing blanks. -/
def trim (t : Text) : Text := trimEnd (trimStart t)

/-- What follows `pre`, when the text begins with it. -/
def stripPrefix? : (pre t : Text) → Option Text
  | [], t => some t
  | _ :: _, [] => none
  | c :: pre, d :: t => if c = d then stripPrefix? pre t else none

/-- What precedes `suf`, when the text ends with it. -/
def stripSuffix? (suf t : Text) : Option Text :=
  (stripPrefix? suf.reverse t.reverse).map List.reverse

/-- What lies between a first character `first` and a last character `last`, two characters of the
text. -/
def between? (first last : Char) (t : Text) : Option Text :=
  (stripPrefix? [first] t).bind (stripSuffix? [last])

/-- What follows `word` and at least one blank, without leading blanks. -/
def stripWord? (word t : Text) : Option Text :=
  match stripPrefix? word t with
  | some (c :: rest) => if isBlank c then some (trimStart (c :: rest)) else none
  | _ => none

/-- Cuts the text at the first character that satisfies `p`: what is before it, and what is after
it. -/
def cutAt? (p : Char → Bool) : Text → Option (Text × Text)
  | [] => none
  | c :: rest =>
    if p c then some ([], rest) else (cutAt? p rest).map fun (a, b) => (c :: a, b)

/-- The pieces between the characters that satisfy `p`; there is always at least one. -/
def pieces (p : Char → Bool) : Text → List Text
  | [] => [[]]
  | c :: rest => if p c then [] :: pieces p rest else (pieces p rest).modifyHead (c :: ·)

/-- The maximal runs of characters that are not blank. -/
def words (t : Text) : List Text := (pieces isBlank t).filter (!·.isEmpty)

/-- A line without the carriage return before its line feed. -/
def dropReturn (line : Text) : Text := (stripSuffix? ['\r'] line).getD line

/-- The lines of a list of pieces between line feeds. The last piece is ended by no line feed: it is
a line only when it is not empty, and keeps a carriage return. -/
def linesOfPieces : List Text → List Text
  | [] => []
  | [last] => if last.isEmpty then [] else [last]
  | line :: rest => dropReturn line :: linesOfPieces rest

/-- The lines of a text. A carriage return before a line feed is part of the line's end, and a line
feed at the end of the text begins no further line. -/
def lines (t : Text) : List Text := linesOfPieces (pieces (· == '\n') t)

/-- The texts, with `sep` between neighbours. -/
def joinWith (sep : Text) (texts : List Text) : Text := List.intercalate sep texts

/-- The number of bytes of the text in UTF-8. -/
def byteSize : Text → Nat
  | [] => 0
  | c :: rest => c.utf8Size + byteSize rest

/-- Whether `s` does not come after `t` in the order of their code points. -/
def precedes (s t : Text) : Bool := !decide (t < s)

theorem precedes_iff {s t : Text} : precedes s t = true ↔ ¬ t < s := by
  rw [precedes, Bool.not_eq_true', decide_eq_false_iff_not]

theorem precedes_trans (s t u : Text) (hst : precedes s t = true) (htu : precedes t u = true) :
    precedes s u = true := by
  rw [precedes_iff] at hst htu ⊢
  exact List.le_trans hst htu

theorem precedes_total (s t : Text) : (precedes s t || precedes t s) = true := by
  rw [Bool.or_eq_true, precedes_iff, precedes_iff]
  exact List.le_total s t

/-- A natural number in decimal digits. -/
def ofNat (n : Nat) : Text := Nat.toDigits 10 n

/-- An integer in decimal digits, with a minus sign when it is negative. -/
def ofInt : Int → Text
  | .ofNat n => ofNat n
  | .negSucc n => '-' :: ofNat (n + 1)

theorem isDigit_of_mem_ofNat {n : Nat} {c : Char} (h : c ∈ ofNat n) : c.isDigit = true :=
  Nat.isDigit_of_mem_toDigits (by decide) (by decide) h

theorem ofNat_ne_nil (n : Nat) : ofNat n ≠ [] := Nat.toDigits_ne_nil

theorem joinWith_cons_cons (sep p q : Text) (rest : List Text) :
    joinWith sep (p :: q :: rest) = p ++ sep ++ joinWith sep (q :: rest) := by
  simp [joinWith, List.intercalate]

theorem joinWith_singleton (sep p : Text) : joinWith sep [p] = p := by
  simp [joinWith, List.intercalate]

theorem joinWith_cons_of_ne_nil {sep p : Text} {rest : List Text} (h : rest ≠ []) :
    joinWith sep (p :: rest) = p ++ sep ++ joinWith sep rest := by
  obtain ⟨q, qs, rfl⟩ := List.exists_cons_of_ne_nil h
  exact joinWith_cons_cons sep p q qs

theorem stripPrefix?_eq_some {pre t rest : Text} :
    stripPrefix? pre t = some rest ↔ t = pre ++ rest := by
  induction pre generalizing t with
  | nil => simp [stripPrefix?]
  | cons c pre ih =>
    cases t with
    | nil => simp [stripPrefix?]
    | cons d t =>
      by_cases h : c = d
      · simp [stripPrefix?, h, ih]
      · simp [stripPrefix?, h, Ne.symm h]

theorem stripSuffix?_eq_some {suf t rest : Text} :
    stripSuffix? suf t = some rest ↔ t = rest ++ suf := by
  simp only [stripSuffix?, Option.map_eq_some_iff, stripPrefix?_eq_some]
  constructor
  · rintro ⟨r, h, rfl⟩
    simpa using congrArg List.reverse h
  · rintro rfl
    exact ⟨rest.reverse, by simp, by simp⟩

theorem cutAt?_eq_some {p : Char → Bool} {t before behind : Text} :
    cutAt? p t = some (before, behind) ↔
      ∃ c, p c = true ∧ (∀ d ∈ before, p d = false) ∧ t = before ++ c :: behind := by
  induction t generalizing before with
  | nil => simp [cutAt?]
  | cons e rest ih =>
    rw [cutAt?]
    split
    · next he =>
      constructor
      · rintro ⟨⟩
        exact ⟨e, he, by simp, rfl⟩
      · rintro ⟨c, hc, hbefore, heq⟩
        cases before with
        | nil =>
          obtain ⟨rfl, rfl⟩ := List.cons.inj heq
          rfl
        | cons d before =>
          obtain ⟨rfl, -⟩ := List.cons.inj heq
          rw [hbefore e List.mem_cons_self] at he
          contradiction
    · next he =>
      rw [Option.map_eq_some_iff]
      constructor
      · rintro ⟨⟨first, last⟩, hcut, ⟨⟩⟩
        obtain ⟨c, hc, hfirst, rfl⟩ := ih.mp hcut
        exact ⟨c, hc, List.forall_mem_cons.mpr ⟨Bool.eq_false_iff.mpr he, hfirst⟩, rfl⟩
      · rintro ⟨c, hc, hbefore, heq⟩
        cases before with
        | nil =>
          obtain ⟨rfl, -⟩ := List.cons.inj heq
          exact absurd hc he
        | cons d before =>
          obtain ⟨rfl, rfl⟩ := List.cons.inj heq
          exact ⟨(before, behind), ih.mpr ⟨c, hc, (List.forall_mem_cons.mp hbefore).2, rfl⟩, rfl⟩

theorem cutAt?_eq_none {p : Char → Bool} {t : Text} :
    cutAt? p t = none ↔ ∀ c ∈ t, p c = false := by
  induction t with
  | nil => simp [cutAt?]
  | cons c rest ih => cases hc : p c <;> simp [cutAt?, hc, ih]

theorem between?_eq_some {a b : Char} {t inner : Text} :
    between? a b t = some inner ↔ t = a :: (inner ++ [b]) := by
  simp [between?, Option.bind_eq_some_iff, stripPrefix?_eq_some, stripSuffix?_eq_some]

end Text

end LineScript
