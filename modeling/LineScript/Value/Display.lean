import LineScript.Value.Basic

/-!
The text of a value. A string is shown as it is, and between double quotes inside an array or object;
nothing in it is escaped. Sorting compares numbers as numbers and all other pairs by their texts.
-/

namespace LineScript.Value

/-- What stands between two elements or entries. -/
def separator : Text := ", ".toList

/-- The text of a value inside an array or object, given its text elsewhere. -/
def nested (v : Value) (shown : Text) : Text :=
  match v with
  | str _ => '"' :: shown ++ ['"']
  | _ => shown

mutual

/-- The text of a value. -/
def display : Value → Text
  | str t => t
  | num x => x.text
  | bool b => if b then "true".toList else "false".toList
  | null => "null".toList
  | array items => '[' :: Text.joinWith separator (displayItems items) ++ [']']
  | object entries => '\x7b' :: Text.joinWith separator (displayEntries entries) ++ ['\x7d']

/-- The texts of the elements of an array. -/
def displayItems : List Value → List Text
  | [] => []
  | item :: rest => nested item (display item) :: displayItems rest

/-- The texts of the entries of an object. -/
def displayEntries : List (Text × Value) → List Text
  | [] => []
  | (key, value) :: rest =>
    (key ++ ": ".toList ++ nested value (display value)) :: displayEntries rest

end

/-- The order of values: numbers compare as numbers, a NaN as equal to every number, and all other
pairs by the code points of their texts. -/
def compare (a b : Value) : Ordering :=
  match a, b with
  | num x, num y => (Binary64.compare? x y).getD .eq
  | _, _ =>
    if a.display < b.display then .lt else if a.display = b.display then .eq else .gt

theorem displayItems_eq_map (items : List Value) :
    displayItems items = items.map fun item => nested item item.display := by
  induction items with
  | nil => rfl
  | cons item rest ih => simp [displayItems, ih]

theorem displayEntries_eq_map (entries : List (Text × Value)) :
    displayEntries entries =
      entries.map fun (key, value) => key ++ ": ".toList ++ nested value value.display := by
  induction entries with
  | nil => rfl
  | cons entry rest ih => simp [displayEntries, ih]

end LineScript.Value
