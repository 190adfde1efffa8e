import LineScript.Expression.Operands
import LineScript.Value.Display
import LineScript.Variables

/-!
Expressions and their values. Every text is an expression: what has no other reading stands for the
variable of that name or, if there is none, for itself. A text is read as the first of these that fits.

1. A concatenation, when it has several operands; its value is the text of its operands' values.
2. An array between brackets, or an object between braces whose keys are taken as they are written.
3. A string between two double or two single quotes, in which nothing is escaped.
4. A number.
5. A word for true, false or null.
6. A variable, or the text itself.
-/

namespace LineScript

/-- What a text says as an expression. -/
inductive Expression where
  | concat (operands : List Expression)
  | array (items : List Expression)
  | object (entries : List (Text × Expression))
  | constant (value : Value)
  | word (t : Text)

namespace Expression

open Text

/-- The words for true. -/
def trueWords : List Text := ["true".toList, "True".toList, "真".toList]

/-- The words for false. -/
def falseWords : List Text := ["false".toList, "False".toList, "假".toList]

/-- The words for null. -/
def nullWords : List Text := ["null".toList, "None".toList, "nil".toList, "空".toList]

/-- The value that a reserved word stands for. -/
def reserved? (t : Text) : Option Value :=
  if trueWords.contains t then some (.bool true)
  else if falseWords.contains t then some (.bool false)
  else if nullWords.contains t then some .null
  else none

/-- What stands between the quotes of a string. -/
def unquote? (t : Text) : Option Text :=
  match between? '"' '"' t with
  | some contents => some contents
  | none => between? '\'' '\'' t

/-- The key and the text of the value in an entry of an object. A segment without a top-level colon is
no entry. Quotes around a key are dropped. -/
def splitField? (segment : Text) : Option (Text × Text) :=
  (cutTop? ':' segment).map fun (key, value) =>
    let key := key.trim
    ((unquote? key).getD key, value)

/-- The keys of the entries between the braces of an object, each with the text of its value. -/
def splitEntries (inner : Text) : List (Text × Text) :=
  (splitArguments inner).filterMap splitField?

/-- The expression that a trimmed text is if it is no concatenation, array or object. -/
def readAtom (t : Text) : Expression :=
  match unquote? t with
  | some contents => constant (.str contents)
  | none =>
    match Binary64.read? t with
    | some x => constant (.num x)
    | none =>
      match reserved? t with
      | some value => constant value
      | none => word t

theorem length_of_between? {a b : Char} {t inner : Text} (h : between? a b t = some inner) :
    inner.length < t.length := by
  rw [between?_eq_some.mp h]
  simp only [List.length_cons, List.length_append]
  omega

theorem length_of_splitField? {segment key value : Text}
    (h : splitField? segment = some (key, value)) : value.length < segment.length := by
  simp only [splitField?, Option.map_eq_some_iff, Prod.mk.injEq] at h
  obtain ⟨⟨k, v⟩, hc, _, rfl⟩ := h
  rw [cutTop?_append hc]
  simp only [List.length_append, List.length_cons]
  omega

theorem length_of_mem_splitEntries {inner : Text} {entry : Text × Text}
    (h : entry ∈ splitEntries inner) : entry.2.length < inner.length := by
  obtain ⟨segment, hs, he⟩ := List.mem_filterMap.mp h
  exact Nat.lt_of_lt_of_le (length_of_splitField? he) (length_le_of_mem_splitArguments hs)

/-- The expression that a text is. -/
def read (t : Text) : Expression :=
  if h : 2 ≤ (operands t.trim).length then
    concat ((operands t.trim).attach.map fun ⟨operand, hm⟩ =>
      have : operand.length < t.length :=
        Nat.lt_of_lt_of_le (length_lt_of_mem_operands hm h) (length_trim_le t)
      read operand)
  else
    match ha : between? '[' ']' t.trim with
    | some inner =>
      array ((splitArguments inner).attach.map fun ⟨item, hm⟩ =>
        have : item.length < t.length :=
          Nat.lt_of_le_of_lt (length_le_of_mem_splitArguments hm)
            (Nat.lt_of_lt_of_le (length_of_between? ha) (length_trim_le t))
        read item)
    | none =>
      match ho : between? '\x7b' '\x7d' t.trim with
      | some inner =>
        object ((splitEntries inner).attach.map fun ⟨entry, hm⟩ =>
          have : entry.2.length < t.length :=
            Nat.lt_trans (length_of_mem_splitEntries hm)
              (Nat.lt_of_lt_of_le (length_of_between? ho) (length_trim_le t))
          (entry.1, read entry.2))
      | none => readAtom t.trim
termination_by t.length

mutual

/-- The value of an expression where the variables are bound to `variables`. -/
def eval (vars : Variables) : Expression → Value
  | concat operands => .str ((evalAll vars operands).map Value.display).flatten
  | array items => .array (evalAll vars items)
  | object entries => .object (Entries.ofPairs (evalEntries vars entries))
  | constant value => value
  | word t => (vars.get? t).getD (.str t)

/-- The values of a list of expressions. -/
def evalAll (vars : Variables) : List Expression → List Value
  | [] => []
  | e :: rest => eval vars e :: evalAll vars rest

/-- The values of the entries of an object. -/
def evalEntries (vars : Variables) : List (Text × Expression) → List (Text × Value)
  | [] => []
  | (key, e) :: rest => (key, eval vars e) :: evalEntries vars rest

end

/-- Reading, with each part read on its own. -/
theorem read_eq (t : Text) : read t =
    if 2 ≤ (operands t.trim).length then concat ((operands t.trim).map read)
    else
      match between? '[' ']' t.trim with
      | some inner => array ((splitArguments inner).map read)
      | none =>
        match between? '\x7b' '\x7d' t.trim with
        | some inner =>
          object ((splitEntries inner).map fun (key, value) => (key, read value))
        | none => readAtom t.trim := by
  rw [read]
  split
  · simp
  · split
    · next ha => simp [ha]
    · next ha =>
      rw [ha]
      split
      · next inner ho =>
        have := List.attach_map_subtype_val (splitEntries inner)
        simp only [ho, object.injEq]
        conv => rhs; rw [← this, List.map_map]
        rfl
      · next ho => simp [ho]

theorem evalAll_eq_map (vars : Variables) (es : List Expression) :
    evalAll vars es = es.map (eval vars) := by
  induction es with
  | nil => rfl
  | cons e rest ih => simp [evalAll, ih]

theorem evalEntries_eq_map (vars : Variables) (es : List (Text × Expression)) :
    evalEntries vars es = es.map fun (key, e) => (key, eval vars e) := by
  induction es with
  | nil => rfl
  | cons e rest ih => simp [evalEntries, ih]

end Expression

/-- The value of a text as an expression. -/
def evaluate (t : Text) (vars : Variables) : Value :=
  (Expression.read t).eval vars

end LineScript
