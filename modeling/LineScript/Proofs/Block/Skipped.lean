import LineScript.Proofs.Block.Layout
import LineScript.Proofs.Block.Matter
import Mathlib.Data.List.Infix

/-!
Bodies that are skipped. A header opens its body with a brace that it leaves open, or with one on the
next line that says something (`OpensBody`). If the braces of the lines behind it balance, none of these
lines ends the body, whatever is in it, and the next closing brace does (`bodyEndAfter_balance`).
-/

namespace LineScript

open Text

/-- The number of opening braces in lines less that of closing ones, outside quotes. Lines that say
nothing are left out. -/
def netBraces : List Text → Int
  | [] => 0
  | line :: rest =>
    if isSkippable line then netBraces rest
    else (braceCounts none line).1 - (braceCounts none line).2 + netBraces rest

/-- Lines that close the braces that they open, and no others. -/
structure BracesBalance (lines : List Text) : Prop where
  level : ∀ p, p <+: lines → 0 ≤ netBraces p
  settled : netBraces lines = 0

instance (lines : List Text) : Decidable (BracesBalance lines) :=
  decidable_of_iff ((∀ p ∈ lines.inits, 0 ≤ netBraces p) ∧ netBraces lines = 0)
    ⟨fun ⟨h₁, h₂⟩ => ⟨fun p hp => h₁ p ((List.mem_inits p lines).mpr hp), h₂⟩,
      fun ⟨h₁, h₂⟩ => ⟨fun p hp => h₁ p ((List.mem_inits p lines).mp hp), h₂⟩⟩

/-- The lines with which the body behind a header is opened. Closing braces in front of the header
belong to the block around it. -/
inductive OpensBody (header : Text) : List Text → Prop where
  /-- The header leaves one brace open. -/
  | sameLine (leaves : (braceCounts none (header.dropWhile Opener.isLead)).1 =
      (braceCounts none (header.dropWhile Opener.isLead)).2 + 1) : OpensBody header []
  /-- The header has no brace, and the next line that says something is one. -/
  | ownLine {between : List Text} {brace : Text}
      (braceless : braceCounts none (header.dropWhile Opener.isLead) = (0, 0))
      (skippable : ∀ line ∈ between, isSkippable line = true) (isBrace : brace.trim = ['\x7b']) :
      OpensBody header (between ++ [brace])

variable {i : Nat} {d : BraceDepth} {lines behind : List Text}

theorem bodyEndFrom_skippable (h : ∀ line ∈ lines, isSkippable line = true) :
    bodyEndFrom d i (lines ++ behind) = bodyEndFrom d (i + lines.length) behind := by
  induction lines generalizing i with
  | nil => rfl
  | cons line rest ih =>
    rw [List.cons_append, bodyEndFrom, if_pos (h line List.mem_cons_self),
      ih fun l hl => h l (List.mem_cons_of_mem line hl), List.length_cons]
    congr 1
    omega

/-- Where the body is open, lines in which more braces are never closed than are open do not end it. -/
theorem bodyEndFrom_open {depth : Int} (h : ∀ p, p <+: lines → 0 < depth + netBraces p) :
    bodyEndFrom ⟨depth, true⟩ i (lines ++ behind) =
      bodyEndFrom ⟨depth + netBraces lines, true⟩ (i + lines.length) behind := by
  induction lines generalizing i depth with
  | nil => simp only [List.nil_append, netBraces, Int.add_zero, List.length_nil, Nat.add_zero]
  | cons line rest ih =>
    have hlength : i + (line :: rest).length = i + 1 + rest.length := by
      rw [List.length_cons]
      omega
    have htail : ∀ p, p <+: rest → 0 < depth + netBraces (line :: p) :=
      fun p hp => h (line :: p) ((List.prefix_cons_inj line).mpr hp)
    rw [List.cons_append, bodyEndFrom, hlength]
    split
    · next hs =>
      simp only [netBraces, hs, ↓reduceIte] at htail ⊢
      exact ih htail
    · next hs =>
      simp only [netBraces, hs, Bool.false_eq_true, ↓reduceIte] at htail ⊢
      have hpast : (⟨depth, true⟩ : BraceDepth).past line =
          ⟨depth + ((braceCounts none line).1 - (braceCounts none line).2), true⟩ := by
        simp only [BraceDepth.past, Bool.true_or, BraceDepth.mk.injEq, and_true]
        omega
      have hopen : ((⟨depth, true⟩ : BraceDepth).past line).isClosed = false := by
        have hpositive := htail [] (List.nil_prefix)
        simp only [netBraces, Int.add_zero] at hpositive
        rw [hpast]
        simp only [BraceDepth.isClosed, Bool.true_and, decide_eq_false_iff_not]
        omega
      rw [if_neg (by simp), hopen, if_neg (by simp), hpast, ih fun p hp => ?_, Int.add_assoc]
      have hpositive := htail p hp
      omega

/-- Behind one open brace, lines with balanced braces and a closing brace are a body. -/
theorem bodyEndFrom_balance {body : List Text} (hb : BracesBalance body) (closing : Closing) :
    bodyEndFrom ⟨1, true⟩ i (body ++ closing.text :: behind) = i + body.length + 1 := by
  have hopen : ∀ p, p <+: body → 0 < 1 + netBraces p := by
    intro p hp
    have hlevel := hb.level p hp
    omega
  have hclosed : ((⟨1, true⟩ : BraceDepth).past closing.text).isClosed = true := by
    rw [closing.past_text]
    rfl
  rw [bodyEndFrom_open hopen, hb.settled, Int.add_zero, bodyEndFrom, closing.isSkippable_text,
    hclosed]
  rfl

/-- The body of a header ends behind the first closing brace that its lines leave over. -/
theorem bodyEndAfter_balance {header : Text} {opening body : List Text}
    (ho : OpensBody header opening) (hb : BracesBalance body) (closing : Closing) :
    bodyEndAfter i header (opening ++ body ++ closing.text :: behind) =
      i + 1 + opening.length + body.length + 1 := by
  simp only [bodyEndAfter]
  cases ho with
  | sameLine leaves =>
    have hpast : BraceDepth.start.past (header.dropWhile Opener.isLead) = ⟨1, true⟩ := by
      simp only [BraceDepth.past, BraceDepth.start, leaves, BraceDepth.mk.injEq, Bool.false_or,
        decide_eq_true_eq]
      omega
    rw [hpast, if_neg (by decide), List.nil_append, bodyEndFrom_balance hb closing]
    rfl
  | @ownLine between brace braceless skippable isBrace =>
    have hpast : BraceDepth.start.past (header.dropWhile Opener.isLead) = .start := by
      simp only [BraceDepth.past, BraceDepth.start, braceless]
      rfl
    have hsays : isSkippable brace = false := by
      rw [← isSkippable_trim, isBrace]
      decide
    have hfirst : brace.trimStart.head? = some '\x7b' := by
      rw [← head?_trimStart hsays, isBrace]
      decide
    have hbrace : BraceDepth.start.past brace = ⟨1, true⟩ := by
      rw [← BraceDepth.past_trim, isBrace]
      rfl
    rw [hpast, if_neg (by decide), List.append_assoc, List.append_assoc,
      bodyEndFrom_skippable skippable, List.singleton_append, bodyEndFrom, hsays, hfirst, hbrace,
      if_neg (by simp), if_neg (by simp), if_neg (by decide), bodyEndFrom_balance hb closing,
      List.length_append, List.length_singleton]
    omega

end LineScript
