import LineScript.Proofs.Block.Scan
import LineScript.Proofs.Text.Splitting
import Mathlib.Data.List.Infix

/-!
Where braces are closed. A scan counts the braces of whole lines; here the counts are followed from
character to character. The place where a region's braces are closed for the first time is a closing
brace outside quotes (`Closes`), and on its line the scan is past the region exactly if there are no
more opening than closing braces behind that place (`Closes.isClosed_past`).
-/

namespace LineScript

open Text

/-! ## Counting in a text and in what is behind it -/

theorem quote_step (n : Nesting) (c : Char) :
    (n.step c).quote =
      match n.quote with
      | some q => if c == q then none else some q
      | none => if c == '"' || c == '\'' then some c else none := by
  obtain ⟨quote, parens, brackets, braces⟩ := n
  cases quote with
  | some q =>
    simp only [Nesting.step]
    split <;> rfl
  | none =>
    simp only [Nesting.step]
    repeat' split
    all_goals rfl

/-- The braces of two texts in a row are those of the first, and those of the second as the quotes of
the first leave it. -/
theorem braceCounts_append (n : Nesting) (s t : Text) :
    braceCounts n.quote (s ++ t) =
      ((braceCounts n.quote s).1 + (braceCounts (n.after s).quote t).1,
        (braceCounts n.quote s).2 + (braceCounts (n.after s).quote t).2) := by
  induction s generalizing n with
  | nil => simp [braceCounts]
  | cons c s ih =>
    have hs := ih (n.step c)
    rw [quote_step] at hs
    rw [List.cons_append, Nesting.after_cons]
    cases hq : n.quote with
    | some q =>
      simp only [hq] at hs
      simp only [braceCounts, hs]
    | none =>
      simp only [hq] at hs
      simp only [braceCounts]
      split
      · next hc =>
        rw [if_pos hc] at hs
        exact hs
      · next hc =>
        rw [if_neg hc] at hs
        simp only [hs]
        split
        · simp only [Prod.mk.injEq, and_true]
          omega
        · split
          · simp only [Prod.mk.injEq, true_and]
            omega
          · rfl

namespace BraceDepth

/-- Outside quotes a text can be passed in two parts. -/
theorem past_append {s : Text} (h : (Nesting.top.after s).quote = none) (d : BraceDepth) (t : Text) :
    d.past (s ++ t) = (d.past s).past t := by
  have hcounts := braceCounts_append .top s t
  rw [h] at hcounts
  have hnone : Nesting.top.quote = none := rfl
  rw [hnone] at hcounts
  simp only [past, hcounts, mk.injEq]
  constructor
  · push_cast
    omega
  · rw [Bool.or_assoc]
    congr 1
    rw [Bool.eq_iff_iff, Bool.or_eq_true]
    simp only [decide_eq_true_eq]
    omega

/-- The scan does not get past the region on this text. -/
def Stays (d : BraceDepth) (t : Text) : Prop := ∀ p, p <+: t → (d.past p).isClosed = false

instance (d : BraceDepth) (t : Text) : Decidable (d.Stays t) :=
  decidable_of_iff (∀ p ∈ t.inits, (d.past p).isClosed = false) <| by
    simp only [List.mem_inits, Stays]

/-- The braces are closed by the brace between two parts of a line, and not before. -/
structure Closes (d : BraceDepth) (line before behind : Text) : Prop where
  line_eq : line = before ++ '\x7d' :: behind
  closed : (d.past (before ++ ['\x7d'])).isClosed = true
  first : d.Stays before

instance (d : BraceDepth) (line before behind : Text) : Decidable (d.Closes line before behind) :=
  decidable_of_iff (line = before ++ '\x7d' :: behind ∧
      (d.past (before ++ ['\x7d'])).isClosed = true ∧ d.Stays before)
    ⟨fun ⟨h₁, h₂, h₃⟩ => ⟨h₁, h₂, h₃⟩, fun ⟨h₁, h₂, h₃⟩ => ⟨h₁, h₂, h₃⟩⟩

section

variable {d : BraceDepth} {line before behind : Text}

/-- A brace in quotes would close nothing. -/
theorem Closes.unquoted (h : d.Closes line before behind) :
    (Nesting.top.after before).quote = none := by
  cases hq : (Nesting.top.after before).quote with
  | none => rfl
  | some q =>
    have hcounts := braceCounts_append .top before ['\x7d']
    have hnone : Nesting.top.quote = none := rfl
    rw [hq, hnone] at hcounts
    have hbrace : braceCounts (some q) ['\x7d'] = (0, 0) := rfl
    have hsame : d.past (before ++ ['\x7d']) = d.past before := by
      simp only [past, hcounts, hbrace, Nat.add_zero]
    have hclosed := h.closed
    rw [hsame, h.first before (List.prefix_refl before)] at hclosed
    contradiction

/-- In front of the brace exactly one is open. -/
theorem Closes.past_before (h : d.Closes line before behind) : d.past before = ⟨1, true⟩ := by
  have hopen := h.first before (List.prefix_refl before)
  have hclosed := h.closed
  rw [past_append h.unquoted] at hclosed
  generalize d.past before = e at hopen hclosed
  obtain ⟨depth, opened⟩ := e
  have hbrace : braceCounts none ['\x7d'] = (0, 1) := rfl
  simp only [past, isClosed, hbrace, Bool.and_eq_true, decide_eq_true_eq] at hclosed
  obtain ⟨hopened, hdepth⟩ := hclosed
  have htrue : opened = true := by simpa using hopened
  subst htrue
  have hpositive : ¬ depth ≤ 0 := by simpa [isClosed] using hopen
  congr 1
  push_cast at hdepth
  omega

/-- The scan past the whole line has counted the braces behind the closing one as well. -/
theorem Closes.isClosed_past (h : d.Closes line before behind) :
    (d.past line).isClosed = true ↔ (braceCounts none behind).1 ≤ (braceCounts none behind).2 := by
  have hbrace : braceCounts none ('\x7d' :: behind) =
      ((braceCounts none behind).1, (braceCounts none behind).2 + 1) := rfl
  rw [h.line_eq, past_append h.unquoted, h.past_before]
  simp only [past, isClosed, hbrace, Bool.true_or, Bool.true_and, decide_eq_true_eq]
  omega

end

end BraceDepth

/-! ## The text between the braces -/

theorem braces_step (n : Nesting) (c : Char) (h : (braceCounts n.quote [c]).2 ≤ n.braces) :
    (n.step c).braces + (braceCounts n.quote [c]).2 = n.braces + (braceCounts n.quote [c]).1 := by
  obtain ⟨quote, parens, brackets, braces⟩ := n
  cases quote with
  | some q =>
    simp only [Nesting.step, braceCounts]
    split <;> rfl
  | none =>
    by_cases hopen : c = '\x7b'
    · subst hopen
      rfl
    · by_cases hclose : c = '\x7d'
      · subst hclose
        have hpositive : 1 ≤ braces := h
        show braces - 1 + 1 = braces + 0
        omega
      · simp only [Nesting.step, braceCounts, beq_iff_eq, hopen, hclose, if_false]
        repeat' split
        all_goals rfl

/-- A walk that never meets a closing brace without an opening one counts the braces exactly. -/
theorem braces_after (n : Nesting) (t : Text)
    (h : ∀ p, p <+: t → (braceCounts n.quote p).2 ≤ n.braces + (braceCounts n.quote p).1) :
    (n.after t).braces + (braceCounts n.quote t).2 = n.braces + (braceCounts n.quote t).1 := by
  induction t generalizing n with
  | nil => rfl
  | cons c t ih =>
    have hfirst := h [c] (by simp)
    have hone : (braceCounts n.quote [c]).2 ≤ n.braces := by
      by_cases hopen : (braceCounts n.quote [c]).1 = 0
      · omega
      · -- No character is an opening and a closing brace.
        have hzero : (braceCounts n.quote [c]).2 = 0 := by
          revert hopen
          cases n.quote <;> simp only [braceCounts] <;> repeat' split
          all_goals simp
        omega
    have hstep := braces_step n c hone
    have happend := fun p => braceCounts_append n [c] p
    simp only [Nesting.after_cons, Nesting.after_nil, List.singleton_append] at happend
    have hrest := ih (n.step c) fun p hp => by
      have hprefix := h (c :: p) ((List.prefix_cons_inj c).mpr hp)
      rw [happend p] at hprefix
      simp only at hprefix
      omega
    rw [Nesting.after_cons, happend t]
    simp only
    omega

/-- Between balanced texts the braces that are counted are the ones that the text is cut at. -/
theorem BraceDepth.Closes.cut {rest before behind front inside : Text}
    (h : BraceDepth.start.Closes rest before behind) (hbefore : before = front ++ '\x7b' :: inside)
    (hunopened : (BraceDepth.start.past front).opened = false)
    (hfront : Nesting.top.after front = .top) (hinside : Nesting.top.after inside = .top) :
    cutTop? '\x7b' rest = some (front, inside ++ '\x7d' :: behind) ∧
      cutTop? '\x7d' (inside ++ '\x7d' :: behind) = some (inside, behind) := by
  have hopens : (braceCounts none front).1 = 0 := by
    simpa [past, start] using hunopened
  have hunquoted : (Nesting.top.after (front ++ ['\x7b'])).quote = none := by
    rw [Nesting.after_append, hfront]
    rfl
  have hcounts := braceCounts_append .top front ['\x7b']
  rw [hfront] at hcounts
  have hbrace : braceCounts none ['\x7b'] = (1, 0) := rfl
  have hnone : Nesting.top.quote = none := rfl
  rw [hnone, hbrace, hopens] at hcounts
  -- The brace behind `front` stays open up to the end of `inside`, so no part of it closes more braces
  -- than it opens.
  have hinner : ∀ p, p <+: inside → (braceCounts none p).2 ≤ (braceCounts none p).1 := by
    intro p hp
    have hprefix : front ++ ['\x7b'] ++ p <+: before := by
      rw [hbefore, List.append_assoc]
      exact (List.prefix_append_right_inj front).mpr ((List.prefix_cons_inj _).mpr hp)
    have hopen := h.first _ hprefix
    rw [past_append hunquoted] at hopen
    simp only [past, start, hcounts, isClosed, Bool.and_eq_false_iff, decide_eq_false_iff_not] at hopen
    rcases hopen with hopen | hopen
    · simp at hopen
    · push_cast at hopen
      omega
  constructor
  · have hrest : rest = front ++ '\x7b' :: (inside ++ '\x7d' :: behind) := by
      rw [h.line_eq, hbefore, List.append_assoc, List.cons_append]
    rw [hrest]
    refine cutFrom?_eq_some_iff.mpr ⟨rfl, hfront, cutFrom?_eq_none_iff.mpr ?_⟩
    intro p q hp htop
    have hsplit := braceCounts_append .top p ('\x7b' :: q)
    rw [htop, hnone, ← hp] at hsplit
    have hfirst := congrArg Prod.fst hsplit
    rw [hopens] at hfirst
    simp [braceCounts] at hfirst
  · refine cutFrom?_eq_some_iff.mpr ⟨rfl, hinside, cutFrom?_eq_none_iff.mpr ?_⟩
    intro p q hp htop
    have hprefix : p ++ ['\x7d'] <+: inside := by
      rw [hp]
      exact ⟨q, by simp⟩
    -- At a brace that the text could be cut at, as many have been closed as opened.
    have hbalanced := braces_after .top p fun p' hp' =>
      Nat.le_trans (hinner p' (hp'.trans ((List.prefix_append p _).trans hprefix))) (by
        simp [hnone])
    have hlast := hinner _ hprefix
    have hsplit := braceCounts_append .top p ['\x7d']
    have hclose : braceCounts none ['\x7d'] = (0, 1) := rfl
    rw [htop, hnone, hclose] at hsplit
    rw [hsplit] at hlast
    rw [htop, hnone] at hbalanced
    have hzero : Nesting.top.braces = 0 := rfl
    simp only at hlast
    omega

/-! ## Closing braces in front of an opener -/

namespace Opener

theorem braceCounts_lead {lead : Text} (h : ∀ c ∈ lead, isLead c = true) :
    braceCounts none lead = (0, lead.count '\x7d') := by
  induction lead with
  | nil => rfl
  | cons c lead ih =>
    have hlead := ih fun d hd => h d (List.mem_cons_of_mem c hd)
    have hc := h c List.mem_cons_self
    rw [isLead, Bool.or_eq_true, beq_iff_eq] at hc
    rcases hc with rfl | hc
    · simp [braceCounts, hlead]
    · obtain ⟨h₁, h₂, h₃, h₄⟩ := isPlain_of_isBlank hc
      simp [braceCounts, h₁, h₂, h₃, h₄, hlead]

/-- Braces in front of an opener only make it deeper. -/
theorem past_lead {lead : Text} (h : ∀ c ∈ lead, isLead c = true) (d : BraceDepth) :
    d.past lead = ⟨d.depth - lead.count '\x7d', d.opened⟩ := by
  simp [BraceDepth.past, braceCounts_lead h]

/-- An opener with closing braces and blanks in front of it has these closing braces more. -/
theorem read?_lead_append {lead : Text} (h : ∀ c ∈ lead, isLead c = true) (t : Text) :
    read? (lead ++ t) = (read? t).map fun o => { o with closers := lead.count '\x7d' + o.closers } := by
  apply read?_congr
  intro k _
  simp only [ofKeyword?, List.dropWhile_append_of_pos h, List.takeWhile_append_of_pos h,
    List.count_append, Option.map_map]
  rfl

theorem closers_of_read? {line : Text} {o : Opener} (h : read? line = some o) :
    o.closers = (line.takeWhile isLead).count '\x7d' := by
  rw [read?_eq] at h
  obtain ⟨k, _, hk⟩ := List.exists_of_findSome?_eq_some h
  obtain ⟨rest, _, rfl⟩ := Option.map_eq_some_iff.mp hk
  rfl

end Opener

namespace Construct

/-- Behind the brace that closes a region an opener of another kind than try ends the region too, when
nothing but closing braces and blanks is in front of that brace. -/
theorem closingOpener?_of_closes (region : OpenRegion) {line before behind : Text} {o : Opener}
    (h : region.braces.Closes line before behind) (hlead : ∀ c ∈ before, Opener.isLead c = true)
    (ho : Opener.read? behind = some o) (ht : o.kind ≠ .tryBlock) :
    closingOpener? region (Opener.read? line) =
      some { o with closers := before.count '\x7d' + 1 + o.closers } := by
  have hbrace : ∀ c ∈ before ++ ['\x7d'], Opener.isLead c = true := by
    intro c hc
    rcases List.mem_append.mp hc with hc | hc
    · exact hlead c hc
    · obtain rfl := List.mem_singleton.mp hc
      rfl
  have hread : Opener.read? line =
      some { o with closers := before.count '\x7d' + 1 + o.closers } := by
    rw [h.line_eq, List.append_cons, Opener.read?_lead_append hbrace, ho, Option.map_some,
      List.count_append]
    rfl
  rw [closingOpener?_eq_some]
  refine ⟨hread, ht, ?_⟩
  have hone := congrArg BraceDepth.depth h.past_before
  rw [Opener.past_lead hlead] at hone
  simp only at hone ⊢
  push_cast
  omega

/-- While braces are open, an opener ends the region only if the closing braces in front of it do. -/
theorem closingOpener?_of_stays (region : OpenRegion) {line : Text}
    (hopened : region.braces.opened = true ∨ ∀ o, Opener.read? line = some o → o.kind = .tryBlock)
    (h : region.braces.Stays line) : closingOpener? region (Opener.read? line) = none := by
  cases hc : closingOpener? region (Opener.read? line) with
  | none => rfl
  | some o =>
    obtain ⟨ho, ht, hdepth⟩ := closingOpener?_eq_some.mp hc
    rcases hopened with hopened | hnone
    · have hlead : ∀ c ∈ line.takeWhile Opener.isLead, Opener.isLead c = true :=
        List.all_eq_true.mp List.all_takeWhile
      have hopen := h _ (List.takeWhile_prefix Opener.isLead)
      rw [Opener.past_lead hlead, ← Opener.closers_of_read? ho] at hopen
      simp [BraceDepth.isClosed, hopened] at hopen
      omega
    · exact absurd (hnone o ho) ht

end Construct

end LineScript
