import LineScript.Proofs.Expression.Identifier

/-!
Texts that begin with a delimiter. The walk that splits texts tells which character closes it
(`Delimiter.close?`), but a literal is told by its first and last characters alone. The two views agree
when the last character closes the first, and when the last character is no such delimiter. What ends
with another literal of the same kind is taken for one literal from end to end (`evaluate_delimited`).
-/

namespace LineScript

open Text Nesting

/-- What can stand around the contents of a literal. -/
inductive Delimiter where
  | brackets
  | braces
  | doubleQuotes
  | singleQuotes
deriving DecidableEq

namespace Delimiter

/-- The character in front of the contents. -/
def first : Delimiter → Char
  | brackets => '['
  | braces => '\x7b'
  | doubleQuotes => '"'
  | singleQuotes => '\''

/-- The character behind the contents. -/
def last : Delimiter → Char
  | brackets => ']'
  | braces => '\x7d'
  | doubleQuotes => '"'
  | singleQuotes => '\''

/-- Whether a walk is behind a first character that has not been closed. -/
def isOpen (d : Delimiter) (n : Nesting) : Bool :=
  match d with
  | brackets => 0 < n.brackets
  | braces => 0 < n.braces
  | doubleQuotes => n.quote = some '"'
  | singleQuotes => n.quote = some '\''

/-- Cuts a text at the character behind which the delimiter is no longer open: what is before it, and
what is behind it. -/
def closeFrom? (d : Delimiter) (n : Nesting) : Text → Option (Text × Text)
  | [] => none
  | c :: rest =>
    if d.isOpen (n.step c) then
      (d.closeFrom? (n.step c) rest).map fun (inside, behind) => (c :: inside, behind)
    else some ([], rest)

/-- Cuts the text behind a first character at the character that closes it. -/
def close? (d : Delimiter) (rest : Text) : Option (Text × Text) :=
  d.closeFrom? (Nesting.top.step d.first) rest

/-- The value of the literal with these contents. -/
def literal (d : Delimiter) (contents : Text) (vars : Variables) : Value :=
  match d with
  | brackets => .array ((splitArguments contents).map (evaluate · vars))
  | braces =>
    .object (Entries.ofPairs ((Expression.splitEntries contents).map fun (key, value) =>
      (key, evaluate value vars)))
  | doubleQuotes => .str contents
  | singleQuotes => .str contents

/-! ## The closing character -/

theorem isOpen_first (d : Delimiter) : d.isOpen (Nesting.top.step d.first) = true := by
  cases d <;> decide

/-- Only the last character of a literal closes it. -/
theorem eq_last_of_closes {d : Delimiter} {n : Nesting} {c : Char} (hopen : d.isOpen n = true)
    (hclosed : d.isOpen (n.step c) = false) : c = d.last := by
  obtain ⟨quote, parens, brackets, braces⟩ := n
  cases d
  all_goals
    simp only [isOpen, decide_eq_true_eq] at hopen
    simp only [isOpen, Nesting.step, decide_eq_false_iff_not] at hclosed
    grind [last]

theorem closeFrom?_append {d : Delimiter} {n : Nesting} {t inside behind : Text}
    (hopen : d.isOpen n = true) (h : d.closeFrom? n t = some (inside, behind)) :
    t = inside ++ d.last :: behind := by
  induction t generalizing n inside with
  | nil => cases h
  | cons c rest ih =>
    rw [closeFrom?] at h
    split at h
    · next hstays =>
      obtain ⟨⟨before, after⟩, hrest, heq⟩ := Option.map_eq_some_iff.mp h
      obtain ⟨rfl, rfl⟩ := Prod.mk.inj heq
      rw [ih hstays hrest, List.cons_append]
    · next hcloses =>
      obtain ⟨rfl, rfl⟩ := Prod.mk.inj (Option.some.inj h)
      rw [eq_last_of_closes hopen (Bool.eq_false_iff.mpr hcloses), List.nil_append]

theorem close?_append {d : Delimiter} {rest inside behind : Text}
    (h : d.close? rest = some (inside, behind)) : rest = inside ++ d.last :: behind :=
  closeFrom?_append d.isOpen_first h

/-! ## Reading by the ends -/

/-- A text with no last character for its first is enclosed by no delimiter. -/
theorem between?_eq_none {d : Delimiter} {rest : Text} (h : rest.getLast? ≠ some d.last)
    (d' : Delimiter) : between? d'.first d'.last (d.first :: rest) = none := by
  by_cases hd : d' = d
  · subst hd
    cases hb : between? d'.first d'.last (d'.first :: rest) with
    | none => rfl
    | some contents =>
      obtain ⟨-, rfl⟩ := List.cons.inj (between?_eq_some.mp hb)
      exact absurd List.getLast?_concat h
  · apply Expression.between?_of_ne
    revert hd
    cases d <;> cases d' <;> decide

theorem read?_first (d : Delimiter) {rest : Text}
    (htrim : trim (d.first :: rest) = d.first :: rest) :
    Binary64.read? (d.first :: rest) = none := by
  apply Binary64.read?_of_first htrim <;> cases d <;> decide

/-- No reserved word begins with a delimiter. -/
theorem reserved?_first (d : Delimiter) (rest : Text) :
    Expression.reserved? (d.first :: rest) = none := by
  cases hr : Expression.reserved? (d.first :: rest) with
  | none => rfl
  | some v =>
    have hword := isWord_of_isIdentifier (isIdentifier_of_reserved? hr)
    have hmark : d.first ∈ marks := by cases d <;> decide
    exact absurd hmark (not_mark_of_isWordChar (hword.2 d.first List.mem_cons_self)).2

section

variable {d : Delimiter} {rest contents : Text}

theorem trim_first_last (d : Delimiter) (contents : Text) :
    trim (d.first :: (contents ++ [d.last])) = d.first :: (contents ++ [d.last]) := by
  apply trim_enclosed <;> cases d <;> decide

/-- A text between the characters of a delimiter is a literal, whatever is closed in between. -/
theorem evaluate_enclosed
    (hone : Expression.operands (d.first :: (contents ++ [d.last])) =
      [d.first :: (contents ++ [d.last])]) (vars : Variables) :
    evaluate (d.first :: (contents ++ [d.last])) vars = d.literal contents vars := by
  have htrim := trim_first_last d contents
  cases d with
  | brackets =>
    rw [evaluate, first, last, Expression.read_brackets hone, Expression.eval,
      Expression.evalAll_eq_map, List.map_map]
    rfl
  | braces =>
    rw [evaluate, first, last, Expression.read_braces hone, Expression.eval,
      Expression.evalEntries_eq_map, List.map_map]
    rfl
  | doubleQuotes =>
    rw [evaluate, Expression.read_of_ne htrim hone (by decide) (by decide), first, last,
      Expression.readAtom, Expression.unquote?, Expression.between?_enclosed]
    rfl
  | singleQuotes =>
    rw [evaluate, Expression.read_of_ne htrim hone (by decide) (by decide), first, last,
      Expression.readAtom, Expression.unquote?, Expression.between?_of_ne (by decide),
      Expression.between?_enclosed]
    rfl

/-- A text that ends with no delimiter of the kind it begins with is a variable or itself. -/
theorem evaluate_unenclosed (htrim : trim (d.first :: rest) = d.first :: rest)
    (hone : Expression.operands (d.first :: rest) = [d.first :: rest])
    (hlast : rest.getLast? ≠ some d.last) (vars : Variables) :
    evaluate (d.first :: rest) vars =
      (vars.get? (d.first :: rest)).getD (.str (d.first :: rest)) := by
  have hbrackets : between? '[' ']' (d.first :: rest) = none := between?_eq_none hlast .brackets
  have hbraces : between? '\x7b' '\x7d' (d.first :: rest) = none :=
    between?_eq_none hlast .braces
  have hdouble : between? '"' '"' (d.first :: rest) = none := between?_eq_none hlast .doubleQuotes
  have hsingle : between? '\'' '\'' (d.first :: rest) = none :=
    between?_eq_none hlast .singleQuotes
  rw [evaluate, Expression.read_operand htrim hone, hbrackets, hbraces]
  rw [Expression.readAtom, Expression.unquote?, hdouble, hsingle, read?_first d htrim,
    reserved?_first]
  rfl

/-- Only the ends of the text matter. -/
theorem evaluate_by_last (htrim : trim (d.first :: rest) = d.first :: rest)
    (hone : (Expression.operands (d.first :: rest)).length = 1) (vars : Variables) :
    evaluate (d.first :: rest) vars =
      if rest.getLast? = some d.last then d.literal rest.dropLast vars
      else (vars.get? (d.first :: rest)).getD (.str (d.first :: rest)) := by
  have hself : Expression.operands (d.first :: rest) = [d.first :: rest] := by
    obtain ⟨operand, hoperand⟩ := List.length_eq_one_iff.mp hone
    have hjoin := Expression.joinWith_operands (d.first :: rest)
    rw [hoperand, Text.joinWith_singleton] at hjoin
    rw [hoperand, hjoin]
  split
  · next hlast =>
    obtain ⟨contents, rfl⟩ := List.getLast?_eq_some_iff.mp hlast
    rw [evaluate_enclosed hself, List.dropLast_concat]
  · next hlast => exact evaluate_unenclosed htrim hself hlast vars

end

end Delimiter

/-- A trimmed text in one operand that begins with a delimiter. If its last character closes the first,
it is the literal with what is in between. If the first is closed before the end or not at all, the text
is a variable or itself, unless its last character could have closed the first: then it is a literal all
the same, and what closes the first is taken for a part of its contents. -/
theorem evaluate_delimited {d : Delimiter} {rest : Text}
    (htrim : trim (d.first :: rest) = d.first :: rest)
    (hone : (Expression.operands (d.first :: rest)).length = 1) (vars : Variables) :
    let t := d.first :: rest
    let unread := (vars.get? t).getD (.str t)
    (∀ inside, d.close? rest = some (inside, []) → evaluate t vars = d.literal inside vars) ∧
    (∀ inside behind, d.close? rest = some (inside, behind) → behind ≠ [] → evaluate t vars =
      if behind.getLast? = some d.last then d.literal (inside ++ d.last :: behind.dropLast) vars
      else unread) ∧
    (d.close? rest = none → evaluate t vars =
      if rest.getLast? = some d.last then d.literal rest.dropLast vars else unread) := by
  intro t unread
  have hends := Delimiter.evaluate_by_last htrim hone vars
  refine ⟨?_, ?_, fun _ => hends⟩
  · intro inside hclose
    obtain rfl := Delimiter.close?_append hclose
    rw [List.getLast?_concat, if_pos rfl, List.dropLast_concat] at hends
    exact hends
  · intro inside behind hclose hbehind
    obtain rfl := Delimiter.close?_append hclose
    have hlast : (inside ++ d.last :: behind).getLast? = behind.getLast? := by
      obtain ⟨b, more, rfl⟩ := List.exists_cons_of_ne_nil hbehind
      rw [List.getLast?_append, List.getLast?_cons_cons, List.getLast?_cons, Option.some_or]
    have hinit : (inside ++ d.last :: behind).dropLast = inside ++ d.last :: behind.dropLast := by
      rw [List.dropLast_append_of_ne_nil (List.cons_ne_nil _ _),
        List.dropLast_cons_of_ne_nil hbehind]
    rw [hlast, hinit] at hends
    exact hends

/-- A comparison of an array, with a bracket in quotes, and a variable. -/
theorem evaluate_delimited_comparison :
    let rest := "1, ']'] == x".toList
    let t := '[' :: rest
    let vars : Variables := [("x".toList, .null)]
    trim t = t ∧ (Expression.operands t).length = 1 ∧
      Delimiter.brackets.close? rest = some ("1, ']'".toList, " == x".toList) ∧
      evaluate t vars = .str t := by
  intro rest t vars
  have htrim : trim t = t := by decide
  have hone : (Expression.operands t).length = 1 := by decide
  have hclose : Delimiter.brackets.close? rest = some ("1, ']'".toList, " == x".toList) := by
    decide
  have hfree : vars.get? t = none := by decide
  have hvalue := (evaluate_delimited (d := .brackets) htrim hone vars).2.1 _ _ hclose (by decide)
  rw [if_neg (by decide)] at hvalue
  exact ⟨htrim, hone, hclose, hvalue.trans (congrArg (Option.getD · (Value.str t)) hfree)⟩

/-- Two arrays are read as one, although the first is closed before the end. -/
theorem evaluate_two_arrays :
    let rest := "1] == [2]".toList
    let t := '[' :: rest
    trim t = t ∧ (Expression.operands t).length = 1 ∧
      Delimiter.brackets.close? rest = some ("1".toList, " == [2]".toList) ∧
      ¬ evaluate t [] = (Entries.get? t []).getD (.str t) := by
  intro rest t
  have htrim : trim t = t := by decide
  have hone : (Expression.operands t).length = 1 := by decide
  refine ⟨htrim, hone, by decide, fun hvalue => ?_⟩
  have hends := Delimiter.evaluate_by_last (d := .brackets) htrim hone []
  rw [if_pos (by decide)] at hends
  have hkind := congrArg Value.kind (hvalue.symm.trans hends)
  cases hkind

end LineScript
