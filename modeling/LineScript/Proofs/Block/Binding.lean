import LineScript.Proofs.Block.Heading
import LineScript.Proofs.Block.Regions

/-!
The name that a construct binds an error to. It is read off a line that opens a handler
(`binding_scan`) and is a word (`isWord_of_binding?`). That is less than a name has to be: a word may
begin with a number.
-/

namespace LineScript

open Unicode

/-- A word that is no name begins with a number. -/
theorem IsWord.isNumeric_of_not_identifier {x : Text} (h : IsWord x) (hx : isIdentifier x = false) :
    ∃ c rest, x = c :: rest ∧ isNumeric c = true := by
  obtain ⟨hne, hword⟩ := h
  obtain ⟨c, rest, rfl⟩ := List.exists_cons_of_ne_nil hne
  have hc := hword c List.mem_cons_self
  have hrest : rest.all isWordChar = true :=
    List.all_eq_true.mpr fun d hd => hword d (List.mem_cons_of_mem c hd)
  rw [isIdentifier, hrest, Bool.and_true, Bool.or_eq_false_iff] at hx
  rw [isWordChar, isAlphanumeric, hx.1, hx.2, Bool.false_or, Bool.or_false] at hc
  exact ⟨c, rest, rfl, hc⟩

namespace Opener

/-- A line opens a handler that binds the error to `x`. -/
def Binds (line x : Text) : Prop :=
  ∃ o, read? line = some o ∧ o.kind = .catchBlock ∧ binding? o.rest = some x

theorem isWord_of_binding? {rest x : Text} (h : binding? rest = some x) : IsWord x := by
  simp only [binding?] at h
  split at h
  · cases h
  · next hne =>
    obtain rfl := Option.some.inj h
    exact ⟨fun he => hne (by rw [he]; rfl), List.all_eq_true.mp List.all_takeWhile⟩

theorem Binds.isWord {line x : Text} (h : Binds line x) : IsWord x := by
  obtain ⟨o, -, -, hx⟩ := h
  exact isWord_of_binding? hx

end Opener

/-- Only the opener of a catch is followed by a catch region. -/
theorem BlockKind.eq_catch_of_next? {before opener : BlockKind}
    (h : before.next? opener = some .catchBlock) : opener = .catchBlock := by
  cases before <;> cases opener <;> simp [BlockKind.next?] at h ⊢

namespace Construct

variable {lines : List Text} {i : Nat} {line : Text} {c c' : Construct} {search : Search}

theorem binding_record (c : Construct) (region : Region) :
    (c.record region).binding = c.binding := by
  unfold record
  split <;> rfl

theorem binding_noteTry (c : Construct) (i : Nat) (opener : Option Opener) :
    (c.noteTry i opener).binding = c.binding := by
  unfold noteTry
  split <;> rfl

theorem binding_close (c : Construct) (region : OpenRegion) (stop : Nat) :
    (c.close region stop).binding = c.binding := c.binding_record _

theorem binding_openRegion (c : Construct) (kind : BlockKind) (i : Nat) (line rest : Text) :
    (c.openRegion kind i line rest).1.binding =
      if kind = .catchBlock then Opener.binding? rest else c.binding := by
  have hname : (c.name kind rest).binding =
      if kind = .catchBlock then Opener.binding? rest else c.binding := by
    unfold name
    split <;> rfl
  cases hclosed : (BraceDepth.start.past rest).isClosed with
  | true => rw [openRegion_inline hclosed, binding_record, binding_noteTry, hname]
  | false => rw [openRegion_open hclosed, hname]

/-- The binding of a construct, if it has one, is that of one of the lines. -/
def Bound (lines : List Text) (c : Construct) : Prop :=
  ∀ x, c.binding = some x → ∃ line ∈ lines, Opener.Binds line x

theorem Bound.congr (h : Bound lines c) (hb : c'.binding = c.binding) : Bound lines c' :=
  fun x hx => h x (hb ▸ hx)

theorem Bound.openRegion (h : Bound lines c) (hline : line ∈ lines) {before kind : BlockKind}
    {o : Opener} (ho : Opener.read? line = some o) (hk : before.next? o.kind = some kind) :
    Bound lines (c.openRegion kind i line o.rest).1 := by
  intro x hx
  rw [binding_openRegion] at hx
  split at hx
  · next hcatch => exact ⟨line, hline, o, ho, BlockKind.eq_catch_of_next? (hcatch ▸ hk), hx⟩
  · exact h x hx

theorem Bound.step {next : Option Search} (h : Bound lines c) (hline : line ∈ lines)
    (hstep : ScanStep i line c search c' next) : Bound lines c' := by
  cases hstep with
  | skip => exact h
  | chain ho _ hk => exact (h.congr (c.binding_close _ i)).openRegion hline ho hk
  | cutOff => exact h.congr (c.binding_close _ i)
  | shut => exact h.congr ((binding_close _ _ i).trans (c.binding_noteTry i _))
  | inside => exact h.congr (c.binding_noteTry i _)
  | follow ho _ hk => exact h.openRegion hline ho hk
  | leave => exact h

theorem Bound.runOut (h : Bound lines c) : Bound lines (scanLines c search i []) := by
  cases search with
  | close region => exact h.congr (c.binding_close region i)
  | continuation before resume => exact h

/-- The error is bound to the name that a line of the construct says. -/
theorem binding_scan (lines : List Text) (start : Nat) : Bound lines (scan lines start) := by
  rw [scan]
  split
  · intro x hx
    cases hx
  · next line rest hdrop =>
    obtain ⟨hlt, -⟩ := scan_of_drop hdrop
    have hopened : Bound lines (openedAt start) := fun x hx => by cases hx
    have hrest : lines.drop (start + 1) = rest := by
      rw [← List.drop_drop, hdrop]
      rfl
    have hstart (behind : Text) :
        Bound lines ((openedAt start).openRegion .tryBlock start line behind).1 :=
      hopened.congr (by rw [binding_openRegion, if_neg (by decide)])
    rw [scanFrom, ← hrest]
    generalize ((Opener.read? line).map (·.rest)).getD [] = behind
    exact scanLines_invariant (P := fun _ c _ => Bound lines c)
      (fun hline h hstep => h.step (List.mem_of_getElem? hline) hstep)
      (fun hline h hstep => h.step (List.mem_of_getElem? hline) hstep)
      (fun h => h.runOut) hlt (hstart behind)

end Construct

end LineScript
