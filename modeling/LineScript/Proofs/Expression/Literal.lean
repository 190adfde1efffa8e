import LineScript.Proofs.Expression.Operands
import LineScript.Proofs.Value.Literal

/-!
Reading the texts of literals. What a value is shown as, read as an expression, has the value again,
whatever the variables are: the text of a literal is one operand, its elements and entries are the
arguments between its brackets, and so on at every depth (`evaluate_display`).
-/

namespace LineScript

open Text Nesting Value

namespace Expression

/-- A closed text is a single operand. -/
theorem operands_of_closed {t : Text} (h : Closed '+' Unquoted t) : operands t = [t] :=
  operands_of_splitTop (h.whole top unquoted_top)

theorem between?_enclosed (first last : Char) (inner : Text) :
    between? first last (first :: (inner ++ [last])) = some inner :=
  between?_eq_some.mpr rfl

theorem between?_of_ne {first last c : Char} (h : c ≠ first) (rest : Text) :
    between? first last (c :: rest) = none := by
  cases hb : between? first last (c :: rest) with
  | none => rfl
  | some inner => exact absurd (List.cons.inj (between?_eq_some.mp hb)).1 h

/-- A text that begins with no bracket and no brace is no array and no object. -/
theorem read_of_ne {c : Char} {rest : Text} (htrim : trim (c :: rest) = c :: rest)
    (hone : operands (c :: rest) = [c :: rest]) (hbracket : c ≠ '[') (hbrace : c ≠ '\x7b') :
    read (c :: rest) = readAtom (c :: rest) := by
  rw [read_operand htrim hone, between?_of_ne hbracket, between?_of_ne hbrace]

/-! ## Entries -/

theorem cutFrom?_of_plain {sep : Char} {key : Text} (h : ∀ c ∈ key, c ∉ marks ∧ c ≠ sep)
    (rest : Text) : cutFrom? sep .top (key ++ sep :: rest) = some (key, rest) :=
  cutFrom?_eq_some_iff.mpr ⟨rfl, after_of_no_mark rfl fun c hc => (h c hc).1,
    cutFrom?_of_not_mem (fun hm => (h sep hm).2 rfl) .top⟩

theorem unquote?_of_plain {t : Text} (h : ∀ c ∈ t, c ∉ marks) : unquote? t = none := by
  cases t with
  | nil => rfl
  | cons c rest =>
    have hc := h c (by simp)
    have hdouble : c ≠ '"' := fun e => hc (by rw [e]; decide)
    have hsingle : c ≠ '\'' := fun e => hc (by rw [e]; decide)
    rw [unquote?, between?_of_ne hdouble, between?_of_ne hsingle]

/-- A plain key and a value are read back from the text of their entry. -/
theorem splitField?_entry {key : Text} (h : IsPlainKey key) (value : Text) :
    splitField? (key ++ ": ".toList ++ value) = some (key, ' ' :: value) := by
  have hcut : cutTop? ':' (key ++ ": ".toList ++ value) = some (key, ' ' :: value) := by
    rw [List.append_assoc]
    exact cutFrom?_of_plain (fun c hc => ⟨(h.2 c hc).1, (h.2 c hc).2.2⟩) (' ' :: value)
  rw [splitField?, hcut, Option.map_some]
  simp only [h.1, unquote?_of_plain fun c hc => (h.2 c hc).1, Option.getD_none]

theorem read_space (t : Text) : read (' ' :: t) = read t := by
  have hblank : Blank [' '] := by decide
  rw [← read_trim, ← read_trim t]
  exact congrArg read (trim_blank_append hblank t)

/-! ## One kind of literal after the other -/

theorem operands_nested {v : Value} (h : IsLiteral v) :
    operands (nested v v.display) = [nested v v.display] :=
  operands_of_closed (h.closed (Or.inr rfl))

theorem read_quoted {t : Text} (h : '"' ∉ t) :
    read ('"' :: (t ++ ['"'])) = constant (.str t) := by
  have htrim : trim ('"' :: (t ++ ['"'])) = '"' :: (t ++ ['"']) :=
    trim_enclosed (by decide) (by decide) t
  rw [read_of_ne htrim (operands_nested (.str h)) (by decide) (by decide), readAtom, unquote?,
    between?_enclosed]

/-- A text without quotes and brackets that is one operand is a number, a reserved word or a word. -/
theorem read_of_plain {t : Text} (htrim : trim t = t) (hone : operands t = [t])
    (h : ∀ c ∈ t, c ∉ marks) :
    read t =
      match Binary64.read? t with
      | some x => constant (.num x)
      | none =>
        match reserved? t with
        | some value => constant value
        | none => word t := by
  have hnone : ∀ first last, first ∈ marks → between? first last t = none := by
    intro first last hfirst
    cases t with
    | nil => rfl
    | cons c rest =>
      apply between?_of_ne
      rintro rfl
      exact h c List.mem_cons_self hfirst
  rw [read_operand htrim hone, hnone '[' ']' (by decide), hnone '\x7b' '\x7d' (by decide)]
  cases hnumber : Binary64.read? t with
  | some x => simp only [readAtom, unquote?_of_plain h, hnumber]
  | none =>
    cases hword : reserved? t with
    | some value => simp only [readAtom, unquote?_of_plain h, hnumber, hword]
    | none => simp only [readAtom, unquote?_of_plain h, hnumber, hword]

theorem read_number {x : Binary64} (h : x.isFinite = true) :
    read x.text = constant (.num x.unsignZero) := by
  have hplain : ∀ c ∈ x.text, c ∉ marks :=
    fun c hc => not_mark_of_not_sign (not_sign_of_mem_number h c hc)
  have htrim : x.text.trim = x.text := (IsLiteral.num h).trim
  have hone : operands x.text = [x.text] := operands_nested (.num h)
  rw [read_of_plain htrim hone hplain, Binary64.read?_text h]

theorem read_brackets {inner : Text}
    (hone : operands ('[' :: (inner ++ [']'])) = ['[' :: (inner ++ [']'])]) :
    read ('[' :: (inner ++ [']'])) = array ((splitArguments inner).map read) := by
  rw [read_operand (trim_enclosed (by decide) (by decide) _) hone, between?_enclosed]

theorem read_braces {inner : Text}
    (hone : operands ('\x7b' :: (inner ++ ['\x7d'])) = ['\x7b' :: (inner ++ ['\x7d'])]) :
    read ('\x7b' :: (inner ++ ['\x7d'])) =
      object ((splitEntries inner).map fun (key, value) => (key, read value)) := by
  rw [read_operand (trim_enclosed (by decide) (by decide) _) hone, between?_of_ne (by decide),
    between?_enclosed]

theorem read_array {items : List Value} (h : ∀ item ∈ items, IsLiteral item) :
    read (Value.array items).display =
      array (items.map fun item => read (nested item item.display)) := by
  have hparts : splitArguments (joinWith separator (displayItems items)) = displayItems items := by
    apply splitArguments_joinWith
    rw [displayItems_eq_map]
    intro t ht
    obtain ⟨item, hm, rfl⟩ := List.mem_map.mp ht
    exact ⟨(h item hm).closed (Or.inl rfl), (h item hm).trim, (h item hm).ne_nil⟩
  apply (read_brackets (operands_nested (.array h))).trans
  rw [hparts, displayItems_eq_map, List.map_map]
  rfl

theorem read_object {entries : List (Text × Value)}
    (keys : ∀ entry ∈ entries, IsPlainKey entry.1) (nodup : (Entries.keys entries).Nodup)
    (values : ∀ entry ∈ entries, IsLiteral entry.2) :
    read (Value.object entries).display =
      object (entries.map fun (key, value) => (key, read (nested value value.display))) := by
  have hparts : splitArguments (joinWith separator (displayEntries entries)) =
      displayEntries entries := by
    apply splitArguments_joinWith
    rw [displayEntries_eq_map]
    intro t ht
    obtain ⟨entry, hm, rfl⟩ := List.mem_map.mp ht
    exact ⟨(keys entry hm).closed (values entry hm), (keys entry hm).trim (values entry hm),
      by simp⟩
  have hfields : ∀ entry ∈ entries,
      splitField? (entry.1 ++ ": ".toList ++ nested entry.2 entry.2.display) =
        some (entry.1, ' ' :: nested entry.2 entry.2.display) :=
    fun entry hm => splitField?_entry (keys entry hm) _
  -- No entry is dropped, since every one of them has a colon at its top level.
  have hentries : splitEntries (joinWith separator (displayEntries entries)) =
      entries.map fun (key, value) => (key, ' ' :: nested value value.display) := by
    have hsome := congrArg (List.filterMap id) (List.map_congr_left hfields)
    rw [List.filterMap_map, List.filterMap_map] at hsome
    rw [splitEntries, hparts, displayEntries_eq_map, List.filterMap_map]
    exact hsome.trans (congrFun List.filterMap_eq_map entries)
  apply (read_braces (operands_nested (.object keys nodup values))).trans
  rw [hentries, List.map_map]
  congr 1
  apply List.map_congr_left
  intro entry _
  simp [read_space]

end Expression

open Expression

/-! ## The round trip -/

/-- Inside an array or object the text of a literal has the value, but for the signs of zeros. The
induction is on the literal: its text is taken apart into those of its parts, which are read on their
own. -/
theorem evaluate_nested {v : Value} (h : IsLiteral v) (vars : Variables) :
    evaluate (nested v v.display) vars = v.unsignZeros := by
  induction h with
  | str h => exact congrArg (eval vars) (read_quoted h)
  | num h => exact congrArg (eval vars) (read_number h)
  | bool b =>
    cases b with
    | true =>
      rw [evaluate, read_operand (by decide) (by decide)]
      rfl
    | false =>
      rw [evaluate, read_operand (by decide) (by decide)]
      rfl
  | null =>
    rw [evaluate, read_operand (by decide) (by decide)]
    rfl
  | @array items h ih =>
    show evaluate (Value.array items).display vars = _
    rw [evaluate, read_array h, eval, evalAll_eq_map, List.map_map, unsignZeros,
      unsignItems_eq_map]
    exact congrArg Value.array (List.map_congr_left ih)
  | @object entries keys nodup values ih =>
    show evaluate (Value.object entries).display vars = _
    have hkeys : Entries.keys (unsignEntries entries) = Entries.keys entries := by
      rw [unsignEntries_eq_map, Entries.keys, List.map_map]
      rfl
    have hpairs : evalEntries vars (entries.map fun (key, value) =>
        (key, read (nested value value.display))) = unsignEntries entries := by
      rw [evalEntries_eq_map, List.map_map, unsignEntries_eq_map]
      apply List.map_congr_left
      intro entry hm
      exact congrArg (Prod.mk entry.1) (ih entry hm)
    rw [evaluate, read_object keys nodup values, eval, hpairs, unsignZeros,
      Entries.ofPairs_of_nodup (by rwa [hkeys])]

/-- The text of a literal that is no string has the value of the literal, with its entries in the same
order, whatever the variables are. -/
theorem evaluate_display {v : Value} (h : IsLiteral v) (hkind : v.kind ≠ .string)
    (vars : Variables) :
    evaluate v.display vars = v.unsignZeros ∧ Value.eq (evaluate v.display vars) v = true := by
  have hnested : nested v v.display = v.display := by
    cases v with
    | str t => exact absurd rfl hkind
    | num x => rfl
    | bool b => rfl
    | null => rfl
    | array items => rfl
    | object entries => rfl
  have hvalue := evaluate_nested h vars
  rw [hnested] at hvalue
  exact ⟨hvalue, by rw [hvalue, h.eq_unsignZeros]⟩

/-- Separators, brackets and single quotes in a string, a plus sign in a key, an empty key, a negative
zero and a variable that is named like a word for null. -/
theorem evaluate_display_nested :
    let v : Value := .object [("a+b".toList, .array [.str "x, [y + 'z'".toList, .num (.zero true)]),
      ([], .null)]
    let vars : Variables := [("null".toList, .bool true)]
    IsLiteral v ∧ v.kind ≠ .string ∧ evaluate v.display vars = v.unsignZeros ∧
      Value.eq (evaluate v.display vars) v = true := by
  intro v vars
  have hitems : ∀ item ∈ [Value.str "x, [y + 'z'".toList, .num (.zero true)], IsLiteral item := by
    intro item hm
    simp only [List.mem_cons, List.not_mem_nil, or_false] at hm
    rcases hm with rfl | rfl
    · exact .str (by decide)
    · exact .num rfl
  have hv : IsLiteral v := by
    apply IsLiteral.object (by decide) (by decide)
    intro entry hm
    simp only [List.mem_cons, List.not_mem_nil, or_false] at hm
    rcases hm with rfl | rfl
    · exact .array hitems
    · exact .null
  have hkind : v.kind ≠ .string := by decide
  exact ⟨hv, hkind, evaluate_display hv hkind vars⟩

end LineScript
