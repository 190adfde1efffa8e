import LineScript.Debug.Arguments

/-!
Arguments as clients write them. A record that is written as an object with its fields is read as that
record: nothing of it is lost, and lists keep their order (`BreakpointArguments.read_json`,
`CompletionArguments.read_json`).
-/

namespace LineScript.Debug

/-- A breakpoint as a client writes it. -/
def Breakpoint.json (b : Breakpoint) : Json :=
  .record (("line", .int b.line) :: (b.condition.map fun t => ("condition", Json.str t)).toList)

/-- Breakpoints for a source path as a client writes them. -/
def BreakpointArguments.json (path : Text) (list : List Breakpoint) : Json :=
  .record [("source", .record [("path", .str path)]), ("breakpoints", .arr (list.map Breakpoint.json))]

/-- A text and the place of the cursor in it as a client writes them. -/
def CompletionArguments.json (text : Text) (column : Option Int) : Json :=
  .record (("text", .str text) :: (column.map fun c => ("column", Json.int c)).toList)

theorem readInteger_int {n : Int} (h : n ≤ Json.greatestSigned) : readInteger (.int n) = .ok n :=
  if_pos h

theorem readList_arr {α : Type} {read : Json → Except ArgumentError α} {write : α → Json}
    {list : List α} (h : ∀ a ∈ list, read (write a) = .ok a) :
    readList read (.arr (list.map write)) = .ok list := by
  rw [readList]
  induction list with
  | nil => rfl
  | cons a rest ih =>
    have ha := h a List.mem_cons_self
    have hrest := ih fun b hb => h b (List.mem_cons_of_mem a hb)
    rw [List.map_cons, List.mapM_cons, ha, hrest]
    rfl

/-- A value under the name of a field goes into this field. -/
theorem putFields_cons {α : Type} {fields : List (Field α)} {f : Field α} {a a' : α} {key : Text}
    {j : Json} {rest : List (Text × Json)} (hf : fields.find? (·.name.toList = key) = some f)
    (hput : f.put a j = .ok a') :
    putFields fields a ((key, j) :: rest) = putFields fields a' rest := by
  rw [putFields, hf]
  dsimp only
  rw [hput]

/-- The fields of an object are visited in the order of their keys, if no key is there twice. -/
theorem distinctFields_eq {given visited : List (Text × Json)} (hperm : visited.Perm given)
    (hsorted : visited.Pairwise (·.1 < ·.1)) : Json.distinctFields given = visited := by
  have hkeys : (Entries.keys given).Nodup := by
    refine (hperm.map Prod.fst).nodup_iff.mp (List.pairwise_map.mpr (hsorted.imp ?_))
    exact fun hlt he => List.lt_irrefl _ (he ▸ hlt)
  have hgiven : (given.mergeSort fun a b => Text.precedes a.1 b.1).Pairwise
      fun a b => Text.precedes a.1 b.1 = true :=
    List.pairwise_mergeSort (fun a b c => Text.precedes_trans a.1 b.1 c.1)
      (fun a b => Text.precedes_total a.1 b.1) given
  have hvisited : visited.Pairwise fun a b => Text.precedes a.1 b.1 = true :=
    hsorted.imp fun hlt => Text.precedes_iff.mpr (List.lt_asymm hlt)
  have hmerge : (given.mergeSort fun a b => Text.precedes a.1 b.1).Perm given :=
    List.mergeSort_perm _ _
  rw [Json.distinctFields, Entries.ofPairs_of_nodup hkeys]
  refine List.Perm.eq_of_pairwise ?_ hgiven hvisited (hmerge.trans hperm.symm)
  -- Keys that precede each other are equal, and under one key is one value.
  rintro ⟨key, j⟩ ⟨key', j'⟩ hj hj' hle hge
  obtain rfl : key = key' :=
    List.le_antisymm (Text.precedes_iff.mp hle) (Text.precedes_iff.mp hge)
  have hj := Entries.get?_of_mem hkeys (hmerge.mem_iff.mp hj)
  have hj' := Entries.get?_of_mem hkeys (hperm.mem_iff.mp hj')
  obtain rfl := Option.some.inj (hj.symm.trans hj')
  rfl

theorem distinctFields_singleton (key : Text) (j : Json) :
    Json.distinctFields [(key, j)] = [(key, j)] :=
  distinctFields_eq (.refl _) (List.pairwise_singleton _ _)

theorem distinctFields_swap {key key' : Text} (j j' : Json) (h : key' < key) :
    Json.distinctFields [(key, j), (key', j')] = [(key', j'), (key, j)] :=
  distinctFields_eq (.swap _ _ _) (List.pairwise_pair.mpr h)

/-- An object is read by its fields in the order of their names. -/
theorem readRecord_obj {α : Type} {record : String} {fields : List (Field α)} {blank a : α}
    {given visited : List (Text × Json)} (hvisited : Json.distinctFields given = visited)
    (hrequired : (fields.find? fun f =>
      f.required && !(Entries.contains f.name.toList given)) = none)
    (hput : putFields fields blank visited = .ok a) :
    readRecord record fields blank (.obj given) = .ok a := by
  rw [readRecord, hvisited, hput]
  dsimp only
  rw [hrequired]

theorem Breakpoint.read_json {b : Breakpoint} (h : b.line ≤ Json.greatestSigned) :
    Breakpoint.read b.json = .ok b := by
  obtain ⟨line, condition⟩ := b
  have hline : readInteger (.int line) = .ok line := readInteger_int h
  cases condition with
  | none =>
    apply readRecord_obj (distinctFields_singleton _ _) rfl
    exact putFields_cons rfl (congrArg (Except.map _) hline)
  | some t =>
    apply readRecord_obj (distinctFields_swap _ _ (by decide)) rfl
    refine (putFields_cons rfl rfl).trans ?_
    exact putFields_cons rfl (congrArg (Except.map _) hline)

theorem Source.read_path (path : Text) :
    Source.read (.record [("path", .str path)]) = .ok ⟨none, some path⟩ := by
  apply readRecord_obj (distinctFields_singleton _ _) rfl
  exact putFields_cons rfl rfl

theorem BreakpointArguments.read_json (path : Text) {list : List Breakpoint}
    (h : ∀ b ∈ list, b.line ≤ Json.greatestSigned) :
    BreakpointArguments.read (json path list) = .ok ⟨⟨none, some path⟩, list⟩ := by
  have hlist : readList Breakpoint.read (.arr (list.map Breakpoint.json)) = .ok list :=
    readList_arr fun b hb => Breakpoint.read_json (h b hb)
  apply readRecord_obj (distinctFields_swap _ _ (by decide)) rfl
  refine (putFields_cons rfl (congrArg (Except.map _) hlist)).trans ?_
  exact putFields_cons rfl (congrArg (Except.map _) (Source.read_path path))

theorem CompletionArguments.read_json (text : Text) {column : Option Int}
    (h : ∀ c, column = some c → c ≤ Json.greatestSigned) :
    CompletionArguments.read (json text column) = .ok ⟨text, column⟩ := by
  cases column with
  | none =>
    apply readRecord_obj (distinctFields_singleton _ _) rfl
    exact putFields_cons rfl rfl
  | some c =>
    have hcolumn : readOptional readInteger (.int c) = .ok (some c) :=
      congrArg (Except.map some) (readInteger_int (h c rfl))
    apply readRecord_obj (distinctFields_swap _ _ (by decide)) rfl
    refine (putFields_cons rfl (congrArg (Except.map _) hcolumn)).trans ?_
    exact putFields_cons rfl rfl

end LineScript.Debug
