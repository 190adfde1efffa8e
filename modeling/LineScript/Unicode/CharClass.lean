import LineScript.Unicode.AlphabeticTable
import LineScript.Unicode.NumericTable
import LineScript.Unicode.HiddenTable

/-!
Classes of characters: blanks, letters, the characters of a word, and the characters that have no
shape of their own. A class is a table of code point ranges in increasing order, so a search may stop
at the first range that begins past the code point.
-/

namespace LineScript.Unicode

/-- Whether a code point lies in one of the ranges, which must be in increasing order. -/
def inRanges : List (Nat × Nat) → Nat → Bool
  | [], _ => false
  | (first, last) :: rest, n =>
    if n < first then false else if n ≤ last then true else inRanges rest n

/-- The ranges of the property `White_Space`. -/
def blankRanges : List (Nat × Nat) := [
  (0x9, 0xD), (0x20, 0x20), (0x85, 0x85), (0xA0, 0xA0), (0x1680, 0x1680), (0x2000, 0x200A),
  (0x2028, 0x2029), (0x202F, 0x202F), (0x205F, 0x205F), (0x3000, 0x3000)]

/-- White space, line feeds included. -/
def isBlank (c : Char) : Bool := inRanges blankRanges c.toNat

/-- Letters and letter-like marks. -/
def isAlphabetic (c : Char) : Bool := inRanges alphabeticRanges c.toNat

/-- Decimal digits, letter-like numbers and other numbers. -/
def isNumeric (c : Char) : Bool := inRanges numericRanges c.toNat

/-- Letters and numbers. -/
def isAlphanumeric (c : Char) : Bool := isAlphabetic c || isNumeric c

/-- The characters that words and names are made of. -/
def isWordChar (c : Char) : Bool := isAlphanumeric c || c == '_'

/-- Characters that have no shape of their own on a page. -/
def isHidden (c : Char) : Bool := inRanges hiddenRanges c.toNat

/-- A hit is a range of the table that holds the code point. -/
theorem exists_of_inRanges {table : List (Nat × Nat)} {n : Nat} (h : inRanges table n = true) :
    ∃ r ∈ table, r.1 ≤ n ∧ n ≤ r.2 := by
  induction table with
  | nil => simp [inRanges] at h
  | cons r rest ih =>
    simp only [inRanges] at h
    split at h
    · simp at h
    · split at h
      · exact ⟨r, by simp, by omega, by omega⟩
      · obtain ⟨s, hs, hb⟩ := ih h
        exact ⟨s, by simp [hs], hb⟩

end LineScript.Unicode
