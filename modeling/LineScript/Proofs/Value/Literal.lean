import LineScript.Proofs.Binary64.RoundTrip
import LineScript.Proofs.Text.Closed
import LineScript.Value.Display

/-!
Values whose texts say all there is about them. Nothing is escaped in the text of a value, so a string
with a double quote in it or a key with a bracket is not one of them; commas, brackets and plus signs
in strings do no harm. The text of such a value inside another is closed (`IsLiteral.closed`), and the
only thing that it does not show is the sign of a zero (`unsignZeros`), which equality does not see.
-/

namespace LineScript.Value

open Text Nesting

/-- A key that the splitting of an object leaves as it is. -/
def IsPlainKey (key : Text) : Prop :=
  key.trim = key ∧ ∀ c ∈ key, c ∉ marks ∧ c ≠ ',' ∧ c ≠ ':'

instance (key : Text) : Decidable (IsPlainKey key) :=
  decidable_of_iff
    (key.trim = key ∧ key.all (fun c => !(marks.elem c || c == ',' || c == ':')) = true)
    (by simp [IsPlainKey, and_assoc])

/-- Finite numbers, booleans, null, strings without double quotes, and arrays and objects of these. The
keys of an object are plain, and no two are the same. -/
inductive IsLiteral : Value → Prop where
  | str {t : Text} (h : '"' ∉ t) : IsLiteral (.str t)
  | num {x : Binary64} (h : x.isFinite = true) : IsLiteral (.num x)
  | bool (b : Bool) : IsLiteral (.bool b)
  | null : IsLiteral .null
  | array {items : List Value} (h : ∀ item ∈ items, IsLiteral item) : IsLiteral (.array items)
  | object {entries : List (Text × Value)} (keys : ∀ entry ∈ entries, IsPlainKey entry.1)
      (nodup : (Entries.keys entries).Nodup) (values : ∀ entry ∈ entries, IsLiteral entry.2) :
      IsLiteral (.object entries)

/-! ## Zeros without their signs -/

mutual

/-- The value with every zero in it positive. -/
def unsignZeros : Value → Value
  | str t => str t
  | num x => num x.unsignZero
  | bool b => bool b
  | null => null
  | array items => array (unsignItems items)
  | object entries => object (unsignEntries entries)

/-- The elements with every zero in them positive. -/
def unsignItems : List Value → List Value
  | [] => []
  | item :: rest => unsignZeros item :: unsignItems rest

/-- The entries with every zero in their values positive. -/
def unsignEntries : List (Text × Value) → List (Text × Value)
  | [] => []
  | (key, value) :: rest => (key, unsignZeros value) :: unsignEntries rest

end

theorem unsignItems_eq_map (items : List Value) : unsignItems items = items.map unsignZeros := by
  induction items with
  | nil => rfl
  | cons item rest ih => simp [unsignItems, ih]

theorem unsignEntries_eq_map (entries : List (Text × Value)) :
    unsignEntries entries = entries.map fun (key, value) => (key, unsignZeros value) := by
  induction entries with
  | nil => rfl
  | cons entry rest ih => simp [unsignEntries, ih]

end LineScript.Value

namespace LineScript

theorem Binary64.eq_unsignZero {x : Binary64} (h : x.isFinite = true) :
    x.unsignZero.eq x = true := by
  cases x with
  | nan => contradiction
  | signed negative magnitude le =>
    by_cases hm : magnitude = 0
    · subst hm
      cases negative <;> rfl
    · simp [unsignZero, hm, eq, compare?, key?]

namespace Value

open Text Nesting

theorem eqItems_unsign {items : List Value}
    (h : ∀ item ∈ items, eq item.unsignZeros item = true) :
    eqItems (unsignItems items) items = true := by
  induction items with
  | nil => rfl
  | cons item rest ih =>
    rw [unsignItems, eqItems, h item (by simp),
      ih fun v hv => h v (List.mem_cons_of_mem item hv)]
    rfl

theorem eqEntries_unsign {entries others : List (Text × Value)}
    (h : ∀ entry ∈ entries, eq entry.2.unsignZeros entry.2 = true)
    (hfound : ∀ entry ∈ entries, Entries.get? entry.1 others = some entry.2) :
    eqEntries (unsignEntries entries) others = true := by
  induction entries with
  | nil => rfl
  | cons entry rest ih =>
    obtain ⟨key, value⟩ := entry
    have hkey : Entries.get? key others = some value := hfound (key, value) (by simp)
    have hvalue : eq value.unsignZeros value = true := h (key, value) (by simp)
    have hrest := ih (fun e he => h e (List.mem_cons_of_mem _ he))
      fun e he => hfound e (List.mem_cons_of_mem _ he)
    simp only [unsignEntries, eqEntries, hkey, hvalue, hrest, Bool.and_self]

/-- Equality does not see the signs of zeros. -/
theorem IsLiteral.eq_unsignZeros {v : Value} (h : IsLiteral v) : eq v.unsignZeros v = true := by
  induction h with
  | str => simp [unsignZeros, eq]
  | num h => exact Binary64.eq_unsignZero h
  | bool => simp [unsignZeros, eq]
  | null => rfl
  | array _ ih => exact eqItems_unsign ih
  | @object entries _ nodup _ ih =>
    have hlength : (unsignEntries entries).length = entries.length := by
      rw [unsignEntries_eq_map, List.length_map]
    rw [unsignZeros, eq, hlength,
      eqEntries_unsign ih fun entry he => Entries.get?_of_mem nodup he]
    simp

/-! ## The text inside an array or object -/

/-- The characters that have a meaning in the text of a literal: those that move a walk, and the
separators. -/
def signs : Text := ',' :: '+' :: marks

theorem not_mark_of_not_sign {c : Char} (h : c ∉ signs) : c ∉ marks :=
  fun hm => h (List.mem_cons_of_mem _ (List.mem_cons_of_mem _ hm))

theorem closed_of_no_sign {t : Text} (h : ∀ c ∈ t, c ∉ signs) {sep : Char}
    (hsep : sep = ',' ∨ sep = '+') : Closed sep Unquoted t := by
  apply closed_of_plain
  · intro c hc
    exact not_mark_of_not_sign (h c hc)
  · intro hc
    apply h sep hc
    rcases hsep with rfl | rfl <;> simp [signs]

theorem not_sign_of_mem_number {x : Binary64} (h : x.isFinite = true) :
    ∀ c ∈ x.text, c ∉ signs := by
  have hdigit : signs.all (fun c => !c.isDigit) = true := by decide
  intro c hc
  rcases Binary64.text_chars h c hc with hd | rfl | rfl
  · intro hm
    have hnot := List.all_eq_true.mp hdigit c hm
    rw [hd] at hnot
    contradiction
  · decide
  · decide

theorem not_sign_of_mem_bool (b : Bool) : ∀ c ∈ (Value.bool b).display, c ∉ signs := by
  cases b <;> simp [display, signs, marks]

theorem not_sign_of_mem_null : ∀ c ∈ Value.null.display, c ∉ signs := by
  simp [display, signs, marks]

theorem not_mem_separator : ∀ c ∈ separator, c ∉ marks := by simp [separator, marks]

theorem not_mem_colon : ∀ c ∈ ": ".toList, c ∉ marks := by simp [marks]

/-- The text of a literal inside an array or object is closed for commas and plus signs. -/
theorem IsLiteral.closed {v : Value} (h : IsLiteral v) {sep : Char} (hsep : sep = ',' ∨ sep = '+') :
    Closed sep Unquoted (nested v v.display) := by
  have hopener : ∀ c ∈ ['"', '[', '\x7b'], c ≠ sep := by
    rcases hsep with rfl | rfl <;> simp
  induction h with
  | str h => exact closed_quoted h (hopener _ (by simp))
  | num h => exact closed_of_no_sign (not_sign_of_mem_number h) hsep
  | bool b => exact closed_of_no_sign (not_sign_of_mem_bool b) hsep
  | null => exact closed_of_no_sign not_sign_of_mem_null hsep
  | array _ ih =>
    apply Closed.brackets _ (hopener _ (by simp))
    apply (closed_inside_of_plain not_mem_separator).joinWith
    rw [displayItems_eq_map]
    intro t ht
    obtain ⟨item, hm, rfl⟩ := List.mem_map.mp ht
    exact (ih item hm).inside
  | object keys _ _ ih =>
    apply Closed.braces _ (hopener _ (by simp))
    apply (closed_inside_of_plain not_mem_separator).joinWith
    rw [displayEntries_eq_map]
    intro t ht
    obtain ⟨entry, hm, rfl⟩ := List.mem_map.mp ht
    have hkey : Closed sep Inside entry.1 :=
      closed_inside_of_plain fun c hc => ((keys entry hm).2 c hc).1
    exact (hkey.append (closed_inside_of_plain not_mem_colon)).append (ih entry hm).inside

/-- There are no blanks around the text of a literal inside an array or object. -/
theorem IsLiteral.trim {v : Value} (h : IsLiteral v) :
    (nested v v.display).trim = nested v v.display := by
  cases h with
  | str => exact trim_enclosed (by decide) (by decide) _
  | num h => exact trim_of_not_blank (Binary64.isBlank_of_mem_text h)
  | bool b => cases b <;> decide
  | null => decide
  | array => exact trim_enclosed (by decide) (by decide) _
  | object => exact trim_enclosed (by decide) (by decide) _

theorem IsLiteral.ne_nil {v : Value} (h : IsLiteral v) : nested v v.display ≠ [] := by
  cases h with
  | str => exact List.cons_ne_nil _ _
  | num h => exact Binary64.text_ne_nil h
  | bool b => cases b <;> decide
  | null => decide
  | array => exact List.cons_ne_nil _ _
  | object => exact List.cons_ne_nil _ _

/-- The text of an entry is closed for commas. -/
theorem IsPlainKey.closed {key : Text} (hkey : IsPlainKey key) {v : Value} (h : IsLiteral v) :
    Closed ',' Unquoted (key ++ ": ".toList ++ nested v v.display) := by
  have hplain : Closed ',' Unquoted key :=
    closed_of_plain (fun c hc => (hkey.2 c hc).1) fun hc => (hkey.2 _ hc).2.1 rfl
  exact (hplain.append (closed_of_plain not_mem_colon (by decide))).append (h.closed (Or.inl rfl))

/-- There are no blanks around the text of an entry: it begins with the key, or with the colon if the
key is empty, and ends with the value. -/
theorem IsPlainKey.trim {key : Text} (hkey : IsPlainKey key) {v : Value} (h : IsLiteral v) :
    (key ++ ": ".toList ++ nested v v.display).trim =
      key ++ ": ".toList ++ nested v v.display := by
  apply trim_of_ends
  · cases key with
    | nil =>
      intro c hc
      obtain rfl : ':' = c := by simpa using hc
      decide
    | cons d rest =>
      intro c hc
      exact isBlank_head_of_trim hkey.1 c hc
  · intro c hc
    have hlast := List.getLast?_eq_some_getLast h.ne_nil
    rw [List.getLast?_append, hlast, Option.some_or] at hc
    exact isBlank_getLast_of_trim h.trim c (hlast.trans hc)

end Value

end LineScript
