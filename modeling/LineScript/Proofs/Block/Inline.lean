import LineScript.Proofs.Block.Braces
import LineScript.Proofs.Block.Layout
import LineScript.Proofs.Statement.Precedence

/-!
A try with its body on its own line. The braces of the line are counted to see that the region ends
there, and a walk looks for the braces that the body stands between. On a body after which the walk is
back at the top level, and in which it meets no closing brace there, the two agree: the construct is the
line, and the text between the braces is the body (`scanFrom_inlineTry`, `inlineBody?_inlineTry`).
-/

namespace LineScript

open Text

/-! ## Braces of a walk -/

/-- A walk is at least as deep in braces as the counts say, since it ignores closing braces that close
nothing. -/
theorem braces_le_step (n : Nesting) (c : Char) :
    n.braces + (braceCounts n.quote [c]).1 ≤ (n.step c).braces + (braceCounts n.quote [c]).2 := by
  by_cases h : (braceCounts n.quote [c]).2 ≤ n.braces
  · exact Nat.le_of_eq (braces_step n c h).symm
  · -- The character is a closing brace, and no brace is open.
    have hone : (braceCounts n.quote [c]).1 + (braceCounts n.quote [c]).2 ≤ 1 := by
      cases n.quote <;> simp only [braceCounts] <;> repeat' split
      all_goals decide
    omega

theorem braces_le_after (n : Nesting) (t : Text) :
    n.braces + (braceCounts n.quote t).1 ≤ (n.after t).braces + (braceCounts n.quote t).2 := by
  induction t generalizing n with
  | nil => exact Nat.le_refl _
  | cons c t ih =>
    have hstep := braces_le_step n c
    have hrest := ih (n.step c)
    have happend := braceCounts_append n [c] t
    simp only [Nesting.after_cons, Nesting.after_nil, List.singleton_append] at happend
    rw [happend, Nesting.after_cons]
    simp only
    omega

/-! ## The line and its body -/

/-- What a try can hold on its own line. -/
structure FitsInline (body : Text) : Prop where
  trimmed : body.trim = body
  plain : (Statement.classify body).isPlain = true
  notComment : body.head? ≠ some '#'
  /-- A walk past the body comes back to the top level. -/
  closed : Nesting.top.after body = .top
  /-- No closing brace is at the top level. -/
  uncut : cutTop? '\x7d' body = none

/-- The line with a try and its body. -/
def inlineTry (body : Text) : Text := "try \x7b ".toList ++ body ++ " \x7d".toList

section

variable {body : Text}

theorem FitsInline.isSkippable (h : FitsInline body) : isSkippable body = false := by
  have hplain := h.plain
  have hcomment := h.notComment
  rw [LineScript.isSkippable, h.trimmed]
  cases body with
  | nil => exact absurd hplain (by decide)
  | cons c rest => simpa using hcomment

/-- The body is not another try. -/
theorem FitsInline.opensTry (h : FitsInline body) : opensTry body = false := by
  rw [Bool.eq_false_iff]
  intro hopens
  obtain ⟨o, ho, hkind⟩ := opensTry_iff.mp hopens
  have hplain := h.plain
  rw [Statement.classify_of_read? ho, if_pos hkind] at hplain
  cases hplain

theorem read?_inlineTry (body : Text) :
    Opener.read? (inlineTry body) =
      some ⟨.tryBlock, 0, " \x7b ".toList ++ body ++ " \x7d".toList⟩ := by
  have hword : Unicode.isWordChar ' ' = false := by decide
  have hfirst : (" \x7b ".toList ++ body ++ " \x7d".toList).head?.any Unicode.isWordChar = false :=
    hword
  have hbehind : (trimStart (" \x7b ".toList ++ body ++ " \x7d".toList)).head? = some '\x7b' := rfl
  have hends : Opener.endsKeyword (" \x7b ".toList ++ body ++ " \x7d".toList) = true := by
    rw [Opener.endsKeyword, hfirst, hbehind]
    rfl
  have hkeyword : ("try".toList, BlockKind.tryBlock) ∈ Opener.keywords := by decide
  have hlead : ∀ c ∈ ([] : Text), Opener.isLead c = true := by simp
  exact Opener.read?_keyword hlead hkeyword hends

theorem trim_inlineTry (body : Text) : (inlineTry body).trim = inlineTry body := by
  have hline : inlineTry body = "try \x7b ".toList ++ body ++ ([' '] ++ ['\x7d']) := rfl
  rw [← List.append_assoc] at hline
  have hfirst : Unicode.isBlank 't' = false := by decide
  have hlast : Unicode.isBlank '\x7d' = false := by decide
  have htrim := trim_enclosed hfirst hlast ("ry \x7b ".toList ++ body ++ [' '])
  rw [hline]
  exact htrim

theorem classify_inlineTry (body : Text) :
    Statement.classify (inlineTry body).trim = .tryOpener := by
  rw [trim_inlineTry, Statement.classify_of_read? (read?_inlineTry body), if_pos rfl]

/-- The braces of the line are closed behind the body, in which no more braces are opened than
closed. -/
theorem isClosed_inlineTry (h : Nesting.top.after body = .top) :
    (BraceDepth.start.past (" \x7b ".toList ++ body ++ " \x7d".toList)).isClosed = true := by
  have hle := braces_le_after .top body
  have hcounts := braceCounts_append .top body " \x7d".toList
  have hnone : Nesting.top.quote = none := rfl
  have hzero : Nesting.top.braces = 0 := rfl
  have hopen : ∀ t, braceCounts none (" \x7b ".toList ++ t) =
      ((braceCounts none t).1 + 1, (braceCounts none t).2) := fun _ => rfl
  have hclose : braceCounts none " \x7d".toList = (0, 1) := rfl
  rw [h, hnone, hzero] at hle
  rw [h, hnone, hclose] at hcounts
  rw [List.append_assoc]
  simp only [BraceDepth.past, BraceDepth.start, BraceDepth.isClosed, hopen, hcounts,
    Bool.false_or, Bool.and_eq_true, decide_eq_true_eq]
  omega

/-- The text between the braces of the line is the body. -/
theorem inlineBody?_inlineTry (h : FitsInline body) : inlineBody? (inlineTry body) = some body := by
  have hfront : cutTop? '\x7b' (" \x7b ".toList ++ body ++ " \x7d".toList) =
      some ([' '], ' ' :: (body ++ " \x7d".toList)) := rfl
  have hbehind : cutTop? '\x7d' (body ++ " \x7d".toList) = some (body ++ [' '], []) := by
    rw [cutTop?, cutFrom?_append_of_none h.uncut, h.closed]
    rfl
  have hblank : cutTop? '\x7d' (' ' :: (body ++ " \x7d".toList)) =
      (cutTop? '\x7d' (body ++ " \x7d".toList)).map fun cut => (' ' :: cut.1, cut.2) := rfl
  have hspace : Blank [' '] := by decide
  have htrim : trim ([' '] ++ body ++ [' ']) = body := by
    rw [trim_blank_ends hspace hspace, h.trimmed]
  rw [inlineBody?, read?_inlineTry]
  simp only [hfront, hblank, hbehind, Option.map_some]
  exact congrArg some htrim

end

namespace Construct

/-- Before lines that do not go on with it, the construct is the line, with an inline body. -/
theorem scanFrom_inlineTry {body : Text} (h : FitsInline body) {rest : List Text}
    (hrest : BlockKind.tryBlock.EndsBefore rest) (i : Nat) :
    scanFrom i (inlineTry body) rest = ⟨⟨.tryBlock, i, i + 1, true⟩, none, none, none, i + 1, none⟩ := by
  have hnested : (Opener.read? body).any (·.kind = .tryBlock) = false := h.opensTry
  rw [scanFrom, read?_inlineTry]
  simp only [Option.map_some, Option.getD_some, openRegion_inline (isClosed_inlineTry h.closed)]
  rw [scanLines_endsBefore hrest, inlineBody?_inlineTry h, Option.bind_some, noteTry_eq, hnested]
  rfl

end Construct

end LineScript
