import LineScript.Proofs.Expression.Identifier

/-!
The grammar of calls. A call is a name, blanks, and arguments between parentheses in which parentheses
outside quotes pair up and no quote is left open (`Balanced`); nothing else is one
(`splitCall?_accepts`). The search for the closing parenthesis carries the quote that is open and the
number of parentheses that are, so what it has passed is said for any of these (`Settles`).
-/

namespace LineScript

open Text

/-! ## Parentheses outside quotes -/

/-- The quote that is open behind a character. -/
def quoteAfter (quote : Option Char) (c : Char) : Option Char :=
  match quote with
  | some q => if c == q then none else some q
  | none => if c == '"' || c == '\'' then some c else none

/-- The characters of a text that stand outside quotes, without the quotes themselves. -/
def unquoted (quote : Option Char) : Text → Text
  | [] => []
  | c :: rest =>
    let behind := quoteAfter quote c
    if quote.isNone && behind.isNone then c :: unquoted behind rest else unquoted behind rest

/-- The number of opening parentheses less that of closing ones, outside quotes. -/
def netParens (quote : Option Char) (t : Text) : Int :=
  (unquoted quote t).count '(' - (unquoted quote t).count ')'

/-- A text that closes the quote and the parentheses that are open in front of it, and all that it
opens itself, but no parenthesis that is not open. -/
structure Settles (quote : Option Char) (depth : Nat) (t : Text) : Prop where
  level : ∀ p, p <+: t → 0 ≤ depth + netParens quote p
  settled : depth + netParens quote t = 0
  closed : t.foldl quoteAfter quote = none

/-- Parentheses pair up outside quotes, and no quote is left open. -/
def Balanced (t : Text) : Prop := Settles none 0 t

section

variable {quote : Option Char} {depth : Nat} {c : Char} {t inside behind : Text}

theorem netParens_open (t : Text) : netParens none ('(' :: t) = netParens none t + 1 := by
  have hquote : quoteAfter none '(' = none := rfl
  simp only [netParens, unquoted, hquote]
  simp
  omega

theorem netParens_close (t : Text) : netParens none (')' :: t) = netParens none t - 1 := by
  have hquote : quoteAfter none ')' = none := rfl
  simp only [netParens, unquoted, hquote]
  simp
  omega

/-- In quotes, and outside for any other character, nothing is counted. -/
theorem netParens_cons (h : quote = none → c ≠ '(' ∧ c ≠ ')') (t : Text) :
    netParens quote (c :: t) = netParens (quoteAfter quote c) t := by
  rw [netParens, netParens, unquoted]
  split
  · next hboth =>
    obtain ⟨hopen, hclose⟩ := h (by simp_all)
    simp [hopen, hclose]
  · rfl

theorem settles_nil : Settles quote depth [] ↔ quote = none ∧ depth = 0 := by
  constructor
  · rintro ⟨-, hsettled, hclosed⟩
    exact ⟨hclosed, by simpa [netParens, unquoted] using hsettled⟩
  · rintro ⟨rfl, rfl⟩
    exact ⟨fun p hp => by simp [List.prefix_nil.mp hp, netParens, unquoted], rfl, rfl⟩

/-- What is left to settle behind a first character. -/
theorem settles_cons {quote' : Option Char} {depth' : Nat} (hquote : quoteAfter quote c = quote')
    (hnet : ∀ p, depth + netParens quote (c :: p) = depth' + netParens quote' p) :
    Settles quote depth (c :: t) ↔ Settles quote' depth' t := by
  subst hquote
  constructor
  · rintro ⟨hlevel, hsettled, hclosed⟩
    exact ⟨fun p hp => hnet p ▸ hlevel (c :: p) ((List.prefix_cons_inj c).mpr hp),
      (hnet t).symm.trans hsettled, hclosed⟩
  · rintro ⟨hlevel, hsettled, hclosed⟩
    refine ⟨fun p hp => ?_, (hnet t).trans hsettled, hclosed⟩
    rcases List.prefix_cons_iff.mp hp with rfl | ⟨q, rfl, hq⟩
    · simp [netParens, unquoted]
    · exact (hnet q).symm ▸ hlevel q hq

theorem settles_plain (h : quote = none → c ≠ '(' ∧ c ≠ ')') :
    Settles quote depth (c :: t) ↔ Settles (quoteAfter quote c) depth t :=
  settles_cons rfl fun p => by rw [netParens_cons h]

theorem settles_open : Settles none depth ('(' :: t) ↔ Settles none (depth + 1) t := by
  apply settles_cons (show quoteAfter none '(' = none from rfl)
  intro p
  rw [netParens_open]
  omega

theorem settles_close : Settles none (depth + 1) (')' :: t) ↔ Settles none depth t := by
  apply settles_cons (show quoteAfter none ')' = none from rfl)
  intro p
  rw [netParens_close]
  omega

/-- A closing parenthesis closes one that is open. -/
theorem not_settles_close (t : Text) : ¬ Settles none 0 (')' :: t) := by
  intro h
  have hlevel := h.level [')'] ⟨t, rfl⟩
  rw [netParens_close] at hlevel
  simp [netParens, unquoted] at hlevel

/-! ## The closing parenthesis -/

theorem closeParen?_open (depth : Nat) (t : Text) : closeParen? none depth ('(' :: t) =
    (closeParen? none (depth + 1) t).map fun (s, behind) => ('(' :: s, behind) :=
  rfl

theorem closeParen?_close (depth : Nat) (t : Text) : closeParen? none (depth + 1) (')' :: t) =
    (closeParen? none depth t).map fun (s, behind) => (')' :: s, behind) :=
  rfl

theorem closeParen?_cons (h : quote = none → c ≠ '(' ∧ c ≠ ')') (depth : Nat) (t : Text) :
    closeParen? quote depth (c :: t) =
      (closeParen? (quoteAfter quote c) depth t).map fun (s, behind) => (c :: s, behind) := by
  cases quote with
  | some q => rfl
  | none =>
    obtain ⟨hopen, hclose⟩ := h rfl
    simp only [closeParen?, quoteAfter]
    split <;> simp [hopen, hclose]

/-- The search goes on behind a character that does not end it. -/
theorem map_closeParen?_iff {quote' : Option Char} {depth' : Nat}
    (hrest : ∀ s, closeParen? quote' depth' t = some (s, behind) ↔
      t = s ++ ')' :: behind ∧ Settles quote' depth' s)
    (hcons : ∀ s, Settles quote depth (c :: s) ↔ Settles quote' depth' s)
    (hnil : c = ')' → ¬ Settles quote depth []) :
    (closeParen? quote' depth' t).map (fun (s, behind) => (c :: s, behind)) =
        some (inside, behind) ↔
      c :: t = inside ++ ')' :: behind ∧ Settles quote depth inside := by
  rw [Option.map_eq_some_iff]
  constructor
  · rintro ⟨⟨s, b⟩, hclose, ⟨⟩⟩
    obtain ⟨rfl, hs⟩ := (hrest s).mp hclose
    exact ⟨rfl, (hcons s).mpr hs⟩
  · rintro ⟨heq, hinside⟩
    cases inside with
    | nil =>
      obtain ⟨rfl, -⟩ := List.cons.inj heq
      exact absurd hinside (hnil rfl)
    | cons d s =>
      obtain ⟨rfl, rfl⟩ := List.cons.inj heq
      exact ⟨(s, behind), (hrest s).mpr ⟨rfl, (hcons s).mp hinside⟩, rfl⟩

/-- The text is cut at the parenthesis in front of which all is settled. -/
theorem closeParen?_eq_some : closeParen? quote depth t = some (inside, behind) ↔
    t = inside ++ ')' :: behind ∧ Settles quote depth inside := by
  induction t generalizing quote depth inside with
  | nil => simp [closeParen?]
  | cons c rest ih =>
    by_cases hplain : quote = none → c ≠ '(' ∧ c ≠ ')'
    · rw [closeParen?_cons hplain]
      apply map_closeParen?_iff (fun s => ih) fun s => settles_plain hplain
      rintro rfl hs
      exact (hplain (settles_nil.mp hs).1).2 rfl
    · obtain ⟨rfl, hc⟩ : quote = none ∧ (c = '(' ∨ c = ')') := by
        simpa [Decidable.or_iff_not_imp_left] using hplain
      rcases hc with rfl | rfl
      · rw [closeParen?_open]
        apply map_closeParen?_iff (fun s => ih) fun s => settles_open
        rintro ⟨⟩
      · cases depth with
        | succ depth =>
          rw [closeParen?_close]
          apply map_closeParen?_iff (fun s => ih) fun s => settles_close
          intro _ hs
          exact Nat.succ_ne_zero depth (settles_nil.mp hs).2
        | zero =>
          -- Nothing is open, so the search ends here.
          constructor
          · rintro ⟨⟩
            exact ⟨rfl, settles_nil.mpr ⟨rfl, rfl⟩⟩
          · rintro ⟨heq, hinside⟩
            cases inside with
            | nil =>
              cases heq
              rfl
            | cons d s =>
              obtain ⟨rfl, -⟩ := List.cons.inj heq
              exact absurd hinside (not_settles_close s)

/-! ## Calls -/

/-- A text without blanks around it that is a call: a name, blanks, and balanced arguments between
parentheses. -/
structure IsCall (t name args : Text) : Prop where
  named : isIdentifier name = true
  balanced : Balanced args
  shape : ∃ gap, Blank gap ∧ t = name ++ gap ++ '(' :: (args ++ [')'])

/-- What is in front of the parenthesis of a trimmed text begins with no blank. -/
theorem exists_gap {before : Text} (htrim : t.trim = before ++ '(' :: inside) :
    ∃ gap, Blank gap ∧ before = before.trim ++ gap := by
  obtain ⟨lead, gap, hlead, hgap, heq⟩ := exists_blank_ends before
  cases lead with
  | nil => exact ⟨gap, hgap, heq⟩
  | cons d lead =>
    have hhead : t.trim.head? = some d := by
      rw [htrim, heq]
      rfl
    have hblank := isBlank_head_of_trim (trim_trim t) d hhead
    rw [hlead d List.mem_cons_self] at hblank
    contradiction

theorem splitCall?_eq_some {name args : Text} :
    splitCall? t = some (name, args) ↔ IsCall t.trim name args := by
  constructor
  · intro h
    rw [splitCall?] at h
    split at h
    · cases h
    · next before inside hcut =>
      obtain ⟨c, hc, -, htrim⟩ := cutAt?_eq_some.mp hcut
      obtain rfl := eq_of_beq hc
      split at h
      · next hname =>
        split at h
        · next found hclose =>
          obtain ⟨rfl, rfl⟩ := Prod.mk.inj (Option.some.inj h)
          obtain ⟨rfl, hbalanced⟩ := closeParen?_eq_some.mp hclose
          obtain ⟨gap, hgap, hbefore⟩ := exists_gap htrim
          exact ⟨hname, hbalanced, gap, hgap, by rw [← hbefore, htrim]⟩
        · cases h
      · cases h
  · rintro ⟨hname, hbalanced, gap, hgap, htrim⟩
    have hword := (isWord_of_isIdentifier hname).2
    have hfront : ∀ d ∈ name ++ gap, (d == '(') = false := by
      intro d hd
      rw [beq_eq_false_iff_ne]
      rintro rfl
      rcases List.mem_append.mp hd with hd | hd
      · exact (not_mark_of_isWordChar (hword _ hd)).2 (by decide)
      · exact hgap.not_mem (by decide) hd
    have hcut : cutAt? (· == '(') t.trim = some (name ++ gap, args ++ [')']) :=
      cutAt?_eq_some.mpr ⟨'(', rfl, hfront, htrim⟩
    have htrimmed : trim (name ++ gap) = name := by
      rw [trim_append_blank hgap]
      exact trim_of_not_blank fun d hd => isBlank_of_isWordChar (hword d hd)
    have hclose : closeParen? none 0 (args ++ [')']) = some (args, []) :=
      closeParen?_eq_some.mpr ⟨rfl, hbalanced⟩
    rw [splitCall?, hcut]
    simp only [htrimmed, hname, hclose, ↓reduceIte]

/-- A text is taken for a call exactly if it is one, blanks around it aside, and is split into its name
and its arguments then. -/
theorem splitCall?_accepts (t : Text) :
    (∀ name args, splitCall? t = some (name, args) ↔ IsCall t.trim name args) ∧
      (splitCall? t = none ↔ ∀ name args, ¬ IsCall t.trim name args) := by
  refine ⟨fun name args => splitCall?_eq_some, ?_⟩
  rw [Option.eq_none_iff_forall_ne_some, Prod.forall]
  exact forall_congr' fun name => forall_congr' fun args => not_congr splitCall?_eq_some

/-- The parenthesis behind the name is closed before the end. -/
example : splitCall? "f(1) + g(2)".toList = none := by decide

end

end LineScript
