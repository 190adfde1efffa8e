import LineScript.Nesting

/-!
Names and calls. A call is a name and arguments between parentheses, where the parenthesis behind the
name is closed by the last character; parentheses inside quotes do not count.
-/

namespace LineScript

open Unicode

/-- Whether a text is a name: a letter or underscore, then letters, numbers and underscores. -/
def isIdentifier : Text → Bool
  | [] => false
  | c :: rest => (isAlphabetic c || c == '_') && rest.all isWordChar

/-- Cuts a text at the parenthesis that closes one opened before it: what is before it, and what is
after it. `depth` more are open. -/
def closeParen? (quote : Option Char) (depth : Nat) : Text → Option (Text × Text)
  | [] => none
  | c :: rest =>
    let push := fun (inside, behind) => (c :: inside, behind)
    match quote with
    | some q => (closeParen? (if c == q then none else some q) depth rest).map push
    | none =>
      if c == '"' || c == '\'' then (closeParen? (some c) depth rest).map push
      else if c == '(' then (closeParen? none (depth + 1) rest).map push
      else if c == ')' then
        match depth with
        | 0 => some ([], rest)
        | depth + 1 => (closeParen? none depth rest).map push
      else (closeParen? none depth rest).map push

/-- The name and the text of the arguments, if a text is a call. -/
def splitCall? (t : Text) : Option (Text × Text) :=
  match Text.cutAt? (· == '(') t.trim with
  | none => none
  | some (before, inside) =>
    if isIdentifier before.trim then
      match closeParen? none 0 inside with
      | some (args, []) => some (before.trim, args)
      | _ => none
    else none

theorem cutAt?_append {p : Char → Bool} {t before behind : Text}
    (h : Text.cutAt? p t = some (before, behind)) :
    before.length + behind.length + 1 = t.length := by
  obtain ⟨c, -, -, rfl⟩ := Text.cutAt?_eq_some.mp h
  simp only [List.length_append, List.length_cons]
  omega

theorem closeParen?_length {quote : Option Char} {depth : Nat} {t inside behind : Text}
    (h : closeParen? quote depth t = some (inside, behind)) :
    inside.length + behind.length + 1 = t.length := by
  induction t generalizing quote depth inside with
  | nil => simp [closeParen?] at h
  | cons c rest ih =>
    have hpush : ∀ {q : Option Char} {d : Nat},
        (closeParen? q d rest).map (fun (i, b) => (c :: i, b)) = some (inside, behind) →
          inside.length + behind.length + 1 = (c :: rest).length := by
      intro q d hm
      simp only [Option.map_eq_some_iff, Prod.mk.injEq] at hm
      obtain ⟨⟨i, b⟩, hb, rfl, rfl⟩ := hm
      have hl : i.length + b.length + 1 = rest.length := ih hb
      simp only [List.length_cons]
      omega
    simp only [closeParen?] at h
    split at h
    · exact hpush h
    · split at h
      · exact hpush h
      · split at h
        · exact hpush h
        · split at h
          · split at h
            · simp only [Option.some.injEq, Prod.mk.injEq] at h
              simp [← h.1, ← h.2]
            · exact hpush h
          · exact hpush h

/-- The arguments of a call are shorter than the call. -/
theorem length_of_splitCall? {t name args : Text} (h : splitCall? t = some (name, args)) :
    args.length < t.length := by
  simp only [splitCall?] at h
  split at h
  · simp at h
  · next before inside hc =>
    split at h
    · split at h
      · next args' hp =>
        simp only [Option.some.injEq, Prod.mk.injEq] at h
        obtain ⟨_, rfl⟩ := h
        have h1 := cutAt?_append hc
        have h2 := closeParen?_length hp
        have h3 := Text.length_trim_le t
        simp only [List.length_nil] at h2
        omega
      · simp at h
    · simp at h

end LineScript
