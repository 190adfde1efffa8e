import LineScript.Expression.Operands
import LineScript.Proofs.Text.Splitting

/-!
Closed texts: a walk that enters one outside quotes leaves it where it entered it, and meets no
separator that counts. Quoted texts are closed, and so is everything between brackets or braces whose
quotes and brackets pair up. Closed texts with commas between them are split at these commas
(`splitArguments_joinWith`).
-/

namespace LineScript

open Unicode

namespace Nesting

/-- No quote is open. -/
def Unquoted (n : Nesting) : Prop := n.quote = none

/-- No quote is open, and a parenthesis, bracket or brace is. -/
def Inside (n : Nesting) : Prop := n.quote = none ∧ n ≠ top

/-- A double quote is open. -/
def InQuotes (n : Nesting) : Prop := n.quote = some '"'

theorem unquoted_top : top.Unquoted := rfl

theorem InQuotes.ne_top {n : Nesting} (h : n.InQuotes) : n ≠ top := by
  rintro rfl
  contradiction

theorem InQuotes.step {n : Nesting} (h : n.InQuotes) {c : Char} (hc : c ≠ '"') :
    n.step c = n := by
  rw [InQuotes] at h
  simp [Nesting.step, h, hc]

end Nesting

namespace Text

open Nesting

theorem Whole.cons {sep c : Char} {n : Nesting} {t : Text} (hc : n ≠ top ∨ c ≠ sep)
    (h : Whole sep (n.step c) t) : Whole sep n (c :: t) := by
  rw [whole_iff_cutFrom?] at h ⊢
  rw [cutFrom?, if_neg fun hcuts => ?_, h, Option.map_none]
  obtain ⟨htop, hsep⟩ := cuts_iff.mp hcuts
  exact hc.elim (absurd htop) (absurd hsep)

/-- A walk for which `P` holds before the text is where it was behind it, and no separator in the text
is at its top level. -/
structure Closed (sep : Char) (P : Nesting → Prop) (t : Text) : Prop where
  after : ∀ n, P n → n.after t = n
  whole : ∀ n, P n → Whole sep n t

variable {sep : Char} {P : Nesting → Prop} {s t : Text}

theorem Closed.inside (h : Closed sep Unquoted t) : Closed sep Inside t :=
  ⟨fun n hn => h.after n hn.1, fun n hn => h.whole n hn.1⟩

theorem Closed.append (hs : Closed sep P s) (ht : Closed sep P t) : Closed sep P (s ++ t) := by
  constructor
  · intro n hn
    rw [after_append, hs.after n hn, ht.after n hn]
  · intro n hn
    apply (hs.whole n hn).append
    rw [hs.after n hn]
    exact ht.whole n hn

theorem closed_nil : Closed sep P [] := ⟨fun _ _ => rfl, fun _ _ => rfl⟩

theorem Closed.joinWith {mid : Text} (hmid : Closed sep P mid) {ts : List Text}
    (h : ∀ t ∈ ts, Closed sep P t) : Closed sep P (joinWith mid ts) := by
  induction ts with
  | nil => exact closed_nil
  | cons t ts ih =>
    have hts := ih fun s hs => h s (List.mem_cons_of_mem t hs)
    have ht := h t (by simp)
    cases ts with
    | nil => rwa [joinWith_singleton]
    | cons s ts =>
      rw [joinWith_cons_cons]
      exact (ht.append hmid).append hts

/-- Text without quotes and brackets is closed if the separator is not in it. -/
theorem closed_of_plain (h : ∀ c ∈ t, c ∉ marks) (hsep : sep ∉ t) : Closed sep Unquoted t :=
  ⟨fun _ hn => after_of_no_mark hn h, fun n _ => whole_of_not_mem hsep n⟩

/-- Inside brackets no separator counts. -/
theorem closed_inside_of_plain (h : ∀ c ∈ t, c ∉ marks) : Closed sep Inside t := by
  constructor
  · intro n hn
    exact after_of_no_mark hn.1 h
  · intro n hn
    induction t with
    | nil => rfl
    | cons c t ih =>
      apply Whole.cons (Or.inl hn.2)
      rw [step_of_not_mark hn.1 (h c (by simp))]
      exact ih fun d hd => h d (List.mem_cons_of_mem c hd)

/-- Inside quotes nothing counts but the quote that ends them. -/
theorem closed_inQuotes (h : '"' ∉ t) : Closed sep InQuotes t := by
  induction t with
  | nil => exact closed_nil
  | cons c t ih =>
    have hc : c ≠ '"' := fun e => h (by simp [e])
    have ht := ih fun hm => h (List.mem_cons_of_mem c hm)
    constructor
    · intro n hn
      rw [after_cons, hn.step hc]
      exact ht.after n hn
    · intro n hn
      apply Whole.cons (Or.inl hn.ne_top)
      rw [hn.step hc]
      exact ht.whole n hn

/-- What opens something, a text that is closed in there, and what ends it again. -/
theorem Closed.enclose {first last : Char} (h : Closed sep P t) (htop : ∀ n, P n → n ≠ top)
    (hfirst : ∀ n, Unquoted n → P (n.step first))
    (hlast : ∀ n, Unquoted n → (n.step first).step last = n) (hsep : first ≠ sep) :
    Closed sep Unquoted (first :: (t ++ [last])) := by
  constructor
  · intro n hn
    rw [after_cons, after_append, h.after _ (hfirst n hn)]
    exact hlast n hn
  · intro n hn
    have hin := hfirst n hn
    apply Whole.cons (Or.inr hsep)
    apply (h.whole _ hin).append
    rw [h.after _ hin]
    exact Whole.cons (Or.inl (htop _ hin)) rfl

theorem closed_quoted (h : '"' ∉ t) (hsep : '"' ≠ sep) :
    Closed sep Unquoted ('"' :: (t ++ ['"'])) := by
  apply (closed_inQuotes h).enclose (fun n hn => hn.ne_top) _ _ hsep
  · intro n hn
    rw [Unquoted] at hn
    simp [InQuotes, step, hn]
  · rintro ⟨quote, parens, brackets, braces⟩ rfl
    rfl

theorem Closed.brackets (h : Closed sep Inside t) (hsep : '[' ≠ sep) :
    Closed sep Unquoted ('[' :: (t ++ [']'])) := by
  apply h.enclose (fun n hn => hn.2) _ _ hsep
  · rintro ⟨quote, parens, brackets, braces⟩ rfl
    refine ⟨rfl, fun he => ?_⟩
    have hb : brackets + 1 = 0 := congrArg Nesting.brackets he
    omega
  · rintro ⟨quote, parens, brackets, braces⟩ rfl
    rfl

theorem Closed.braces (h : Closed sep Inside t) (hsep : '\x7b' ≠ sep) :
    Closed sep Unquoted ('\x7b' :: (t ++ ['\x7d'])) := by
  apply h.enclose (fun n hn => hn.2) _ _ hsep
  · rintro ⟨quote, parens, brackets, braces⟩ rfl
    refine ⟨rfl, fun he => ?_⟩
    have hb : braces + 1 = 0 := congrArg Nesting.braces he
    omega
  · rintro ⟨quote, parens, brackets, braces⟩ rfl
    rfl

/-! ## Lists of closed texts -/

/-- Texts in one piece, with separators in between, are the pieces of the whole. -/
theorem splitTop_joinWith (hsep : top.step sep = top) {ts : List Text} (hne : ts ≠ [])
    (h : ∀ t ∈ ts, top.after t = top ∧ Whole sep top t) :
    splitTop sep (Text.joinWith [sep] ts) = ts := by
  induction ts with
  | nil => contradiction
  | cons t ts ih =>
    obtain ⟨hclosed, hwhole⟩ := h t List.mem_cons_self
    cases ts with
    | nil =>
      rw [joinWith_singleton]
      exact hwhole
    | cons s ts =>
      have hrest := ih (List.cons_ne_nil s ts) fun q hq => h q (List.mem_cons_of_mem t hq)
      rw [joinWith_cons_cons, List.append_assoc, List.singleton_append,
        splitTop_append hsep hclosed, hrest, splitTop, hwhole]
      rfl

/-- The blank behind a comma goes to the text behind it. -/
theorem joinWith_comma_space (first : Text) (ts : List Text) :
    Text.joinWith [',', ' '] (first :: ts) =
      Text.joinWith [','] (first :: ts.map (' ' :: ·)) := by
  induction ts generalizing first with
  | nil => rw [joinWith_singleton, List.map_nil, joinWith_singleton]
  | cons t ts ih =>
    have hspace : Text.joinWith [','] ((' ' :: t) :: ts.map (' ' :: ·)) =
        ' ' :: Text.joinWith [','] (t :: ts.map (' ' :: ·)) :=
      joinWith_modifyHead (List.cons_ne_nil t _)
    rw [joinWith_cons_cons, ih, List.map_cons, joinWith_cons_cons, hspace]
    simp

/-- Closed texts with commas between them are the arguments of the whole. -/
theorem splitArguments_joinWith {ts : List Text}
    (h : ∀ t ∈ ts, Closed ',' Unquoted t ∧ trim t = t ∧ t ≠ []) :
    splitArguments (Text.joinWith [',', ' '] ts) = ts := by
  have hfilter : ts.filter (!·.isEmpty) = ts := by
    rw [List.filter_eq_self]
    intro t ht
    simpa using (h t ht).2.2
  have hspace : Closed ',' Unquoted [' '] := by
    have hblank : Blank [' '] := by decide
    exact closed_of_plain (fun c hc => not_mark_of_isBlank (hblank c hc)) (by decide)
  cases ts with
  | nil => rfl
  | cons first ts =>
    have hclosed : ∀ t ∈ first :: ts.map (' ' :: ·), Closed ',' Unquoted t := by
      refine List.forall_mem_cons.mpr ⟨(h first List.mem_cons_self).1, ?_⟩
      rw [List.forall_mem_map]
      intro t ht
      exact hspace.append (h t (List.mem_cons_of_mem first ht)).1
    have htrim : (ts.map (' ' :: ·)).map trim = ts := by
      rw [List.map_map]
      conv => rhs; rw [← List.map_id ts]
      apply List.map_congr_left
      intro t ht
      have hblank : Blank [' '] := by decide
      exact (trim_blank_append hblank t).trans (h t (List.mem_cons_of_mem first ht)).2.1
    rw [splitArguments, joinWith_comma_space,
      splitTop_joinWith (by decide) (List.cons_ne_nil first _) fun t ht =>
        ⟨(hclosed t ht).after top unquoted_top, (hclosed t ht).whole top unquoted_top⟩,
      List.map_cons, htrim, (h first List.mem_cons_self).2.1, hfilter]

end Text

end LineScript
