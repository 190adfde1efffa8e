import LineScript.Proofs.Builtin.Mutation

/-!
The laws of the functions on objects. A key is known by its text, so values of different kinds can be the
same key. Writing to a key changes what is read there and nowhere else (`Written`), erasing one leaves the
other entries in order (`Erased`), and `map` is the same as `set` once for each pair (`SetInTurn`).
-/

namespace LineScript.Builtin

/-! ## Writing -/

/-- How the entries of an object differ from those before when `v` has been written under `key`. -/
structure Written (m : Entries Value) (key v : Value) (after : Entries Value) : Prop where
  keys_nodup : after.keys.Nodup
  /-- A key with the same text reads what was written, every other key what it read before. -/
  read : ∀ key' default, ∃ before, get.Yields [.object m, key', default] before none ∧
    get.Yields [.object after, key', default]
      (if key.display = key'.display then v else before) none
  /-- A key that is there keeps its place. -/
  in_place : ∀ front old back, m = front ++ (key.display, old) :: back →
    after = front ++ (key.display, v) :: back
  /-- A new key goes to the end. -/
  at_end : key.display ∉ m.keys → after = m ++ [(key.display, v)]

theorem set_yields (m : Entries Value) (key v : Value) :
    set.Yields [.object m, key, v] (.object (Entries.insert key.display v m))
      (some (.object (Entries.insert key.display v m))) :=
  fun _ _ _ => rfl

theorem get_yields (m : Entries Value) (key default : Value) :
    get.Yields [.object m, key, default] ((Entries.get? key.display m).getD default) none :=
  fun _ _ _ => rfl

theorem written_insert {m : Entries Value} (distinct : m.keys.Nodup) (key v : Value) :
    Written m key v (m.insert key.display v) where
  keys_nodup := Entries.nodup_keys_insert distinct _ _
  read key' default := by
    refine ⟨_, get_yields m key' default, ?_⟩
    have hread : ((m.insert key.display v).get? key'.display).getD default =
        if key.display = key'.display then v else (m.get? key'.display).getD default := by
      split
      · next heq => rw [heq, Entries.get?_insert_self, Option.getD_some]
      · next hne => rw [Entries.get?_insert_of_ne (Ne.symm hne)]
    exact hread ▸ get_yields _ key' default
  in_place front old back hm := by
    subst hm
    exact Entries.insert_append_cons (Entries.not_mem_keys_of_nodup distinct) v old back
  at_end hnew := Entries.insert_of_not_mem hnew v

/-! ## Erasing -/

/-- How the entries of an object differ from those before when `key` has been erased. -/
structure Erased (m : Entries Value) (key : Value) (after : Entries Value) : Prop where
  keys_nodup : after.keys.Nodup
  /-- The entries before the erased one and those behind it are left, in order. -/
  removed : ∀ front old back, m = front ++ (key.display, old) :: back → after = front ++ back
  absent : key.display ∉ m.keys → after = m

theorem delete_yields (m : Entries Value) (key : Value) :
    delete.Yields [.object m, key] (.object (Entries.erase key.display m))
      (some (.object (Entries.erase key.display m))) :=
  fun _ _ _ => rfl

theorem erased_erase {m : Entries Value} (distinct : m.keys.Nodup) (key : Value) :
    Erased m key (m.erase key.display) where
  keys_nodup := Entries.nodup_keys_erase distinct _
  removed front old back hm := by
    subst hm
    exact Entries.erase_append_cons (Entries.not_mem_keys_of_nodup distinct) old back
  absent hnew := Entries.erase_of_not_mem hnew

/-! ## Listing -/

theorem has_yields (m : Entries Value) (key : Value) :
    has.Yields [.object m, key] (.bool (decide (key.display ∈ m.keys))) none := by
  have hcontains : Entries.contains key.display m = decide (key.display ∈ m.keys) := by
    rw [Bool.eq_iff_iff, Entries.contains_iff, decide_eq_true_iff]
  rw [← hcontains]
  exact fun _ _ _ => rfl

/-! ## Writing in turn -/

/-- Calling `set` once for each pair of a key and a value, from the first to the last, and with null for a
key at the end, makes the entries `built` of the entries `m`. -/
inductive SetInTurn : Entries Value → Arguments → Entries Value → Prop where
  | done (m) : SetInTurn m [] m
  | last {m built key} :
    set.Yields [.object m, key, .null] (.object built) (some (.object built)) →
    SetInTurn m [key] built
  | pair {m after built key v rest} :
    set.Yields [.object m, key, v] (.object after) (some (.object after)) →
    SetInTurn after rest built → SetInTurn m (key :: v :: rest) built

theorem setInTurn_foldl (args : Arguments) (m : Entries Value) :
    SetInTurn m args
      ((Container.pairUp args).foldl (fun m (key, value) => m.insert key value) m) := by
  induction args using Container.pairUp.induct generalizing m with
  | case1 => exact .done m
  | case2 key => exact .last (set_yields m key .null)
  | case3 key v rest ih => exact .pair (set_yields m key v) (ih _)

theorem map_yields (args : Arguments) :
    ∃ built, map.Yields args (.object built) none ∧ SetInTurn [] args built :=
  ⟨_, fun _ _ _ => rfl, setInTurn_foldl args []⟩

/-- The laws of objects. What `set` and `delete` hand back is what they answer; keys and values are listed
in the order of the entries, and the keys that are listed are those that the object has; `map` writes the
pairs that it is given in turn. -/
theorem object_laws {m : Entries Value} (distinct : m.keys.Nodup) :
    (∀ key v, ∃ after,
        set.Yields [.object m, key, v] (.object after) (some (.object after)) ∧
        Written m key v after) ∧
      (∀ key, ∃ after,
        delete.Yields [.object m, key] (.object after) (some (.object after)) ∧
        Erased m key after) ∧
      (∃ (listed : List Text) (contents : List Value),
        keys.Yields [.object m] (.array (listed.map .str)) none ∧
        values.Yields [.object m] (.array contents) none ∧
        listed.length = contents.length ∧ listed.zip contents = m ∧
        ∀ key, has.Yields [.object m, key] (.bool (decide (key.display ∈ listed))) none) ∧
      ∀ args, ∃ built, map.Yields args (.object built) none ∧ SetInTurn [] args built := by
  refine ⟨fun key v => ⟨_, set_yields m key v, written_insert distinct key v⟩,
    fun key => ⟨_, delete_yields m key, erased_erase distinct key⟩,
    ⟨m.keys, m.values, fun _ _ _ => rfl, fun _ _ _ => rfl, ?_, ?_, has_yields m⟩,
    map_yields⟩
  · simp [Entries.keys, Entries.values]
  · simp [Entries.keys, Entries.values, List.zip_map']

/-- The number one and the text of it are the same key: what is written under the one is read under the
other and stays where that was, and the one is erased by the other. -/
theorem object_laws_same_key :
    let one := Value.num (.ofNat 1)
    let digit := Value.str ['1']
    let entry := ("hp".toList, Value.bool true)
    let m : Entries Value := [(digit.display, .null), entry]
    let after : Entries Value := [(digit.display, .bool false), entry]
    m.keys.Nodup ∧ one ≠ digit ∧
      set.Yields [.object m, one, .bool false] (.object after) (some (.object after)) ∧
      get.Yields [.object after, digit, .null] (.bool false) none ∧
      delete.Yields [.object m, one] (.object [entry]) (some (.object [entry])) := by
  intro one digit entry m after
  have distinct : m.keys.Nodup := by decide
  have hone : one.display = digit.display := by decide +kernel
  obtain ⟨hset, hdelete, -⟩ := object_laws distinct
  obtain ⟨_, hyields, hwritten⟩ := hset one (.bool false)
  obtain ⟨_, herases, herased⟩ := hdelete one
  have hafter := hwritten.in_place [] .null [entry] (by rw [hone]; rfl)
  have hleft := herased.removed [] .null [entry] (by rw [hone]; rfl)
  obtain ⟨_, -, hread⟩ := hwritten.read digit .null
  rw [hone] at hafter
  rw [if_pos hone] at hread
  subst hafter hleft
  exact ⟨distinct, by simp [one, digit], hyields, hread, herases⟩

end LineScript.Builtin
