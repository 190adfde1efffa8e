import LineScript.Text.Basic

/-!
Entries under keys, in the order in which the keys first came. Writing to a key that is there keeps its
place, a new key goes to the end, and erasing a key leaves the others in order. Objects and variables
are both kept this way.
-/

namespace LineScript

/-- Entries under keys, oldest key first. -/
abbrev Entries (α : Type) := List (Text × α)

namespace Entries

variable {α : Type}

/-- The entry under a key. -/
def get? (key : Text) : Entries α → Option α
  | [] => none
  | (k, v) :: rest => if k = key then some v else get? key rest

/-- Whether there is an entry under a key. -/
def contains (key : Text) (m : Entries α) : Bool := (m.get? key).isSome

/-- The entries with `value` under `key`. -/
def insert (key : Text) (value : α) : Entries α → Entries α
  | [] => [(key, value)]
  | (k, v) :: rest => if k = key then (k, value) :: rest else (k, v) :: insert key value rest

/-- The entries with `value` under each of `keys`. -/
def insertAll (keys : List Text) (value : α) (m : Entries α) : Entries α :=
  keys.foldl (fun m key => m.insert key value) m

/-- The entries without the one under `key`. -/
def erase (key : Text) : Entries α → Entries α
  | [] => []
  | (k, v) :: rest => if k = key then rest else (k, v) :: erase key rest

/-- The keys, oldest first. -/
def keys (m : Entries α) : List Text := m.map (·.1)

/-- The entries without their keys, in the same order. -/
def values (m : Entries α) : List α := m.map (·.2)

/-- The entries that result from inserting pairs in turn. -/
def ofPairs (pairs : List (Text × α)) : Entries α :=
  pairs.foldl (fun m (key, value) => m.insert key value) []

theorem get?_insert_self (key : Text) (value : α) (m : Entries α) :
    (m.insert key value).get? key = some value := by
  induction m with
  | nil => simp [insert, get?]
  | cons entry rest ih =>
    by_cases h : entry.1 = key <;> simp [insert, get?, h, ih]

theorem get?_insert_of_ne {key other : Text} (h : other ≠ key) (value : α) (m : Entries α) :
    (m.insert key value).get? other = m.get? other := by
  induction m with
  | nil => simp [insert, get?, Ne.symm h]
  | cons entry rest ih =>
    by_cases hk : entry.1 = key
    · have ho : entry.1 ≠ other := fun e => h (e.symm.trans hk)
      simp [insert, get?, hk, Ne.symm h]
    · simp [insert, get?, hk, ih]

theorem keys_insert (key : Text) (value : α) (m : Entries α) :
    (m.insert key value).keys = if key ∈ m.keys then m.keys else m.keys ++ [key] := by
  induction m with
  | nil => simp [insert, keys]
  | cons entry rest ih =>
    simp only [keys] at ih ⊢
    by_cases hk : entry.1 = key
    · simp [insert, hk]
    · by_cases hm : key ∈ rest.map (·.1)
      · simp [insert, hk, ih, hm]
      · simp only [hm, ↓reduceIte] at ih
        simp [insert, hk, ih, hm, Ne.symm hk]

theorem insert_of_not_mem {key : Text} {m : Entries α} (h : key ∉ m.keys) (value : α) :
    m.insert key value = m ++ [(key, value)] := by
  induction m with
  | nil => rfl
  | cons entry rest ih =>
    simp only [keys, List.map_cons, List.mem_cons, not_or] at h
    simp [insert, Ne.symm h.1, ih h.2]

/-- Pairs with different keys become the entries in the same order. -/
theorem ofPairs_of_nodup {pairs : List (Text × α)} (h : (keys pairs).Nodup) :
    ofPairs pairs = pairs := by
  have hfold : ∀ m : Entries α, (keys (m ++ pairs)).Nodup →
      pairs.foldl (fun m (key, value) => m.insert key value) m = m ++ pairs := by
    clear h
    induction pairs with
    | nil =>
      intro m _
      exact (List.append_nil m).symm
    | cons pair rest ih =>
      intro m hm
      obtain ⟨key, value⟩ := pair
      have hnew : key ∉ m.keys := by
        simp only [keys, List.map_append, List.map_cons] at hm
        rw [List.nodup_append] at hm
        intro hk
        exact hm.2.2 _ hk _ (List.mem_cons_self) rfl
      have happend : m ++ (key, value) :: rest = m ++ [(key, value)] ++ rest := by simp
      rw [List.foldl_cons]
      simp only [insert_of_not_mem hnew]
      rw [happend] at hm ⊢
      exact ih _ hm
  exact hfold [] h

theorem mem_of_get? {m : Entries α} {key : Text} {value : α} (h : m.get? key = some value) :
    (key, value) ∈ m := by
  induction m with
  | nil => simp [get?] at h
  | cons entry rest ih =>
    obtain ⟨k, v⟩ := entry
    rw [get?] at h
    split at h
    · next hk =>
      obtain rfl := Option.some.inj h
      rw [hk]
      exact List.mem_cons_self
    · exact List.mem_cons_of_mem _ (ih h)

theorem get?_of_mem {m : Entries α} (h : m.keys.Nodup) {key : Text} {value : α}
    (hm : (key, value) ∈ m) : m.get? key = some value := by
  induction m with
  | nil => simp at hm
  | cons entry rest ih =>
    simp only [keys, List.map_cons, List.nodup_cons] at h
    rcases List.mem_cons.mp hm with rfl | hm
    · simp [get?]
    · have hne : entry.1 ≠ key := by
        rintro rfl
        exact h.1 (List.mem_map.mpr ⟨_, hm, rfl⟩)
      rw [get?, if_neg hne, ih h.2 hm]

theorem mem_keys_iff {m : Entries α} {key : Text} :
    key ∈ m.keys ↔ ∃ value, m.get? key = some value := by
  constructor
  · induction m with
    | nil => simp [keys]
    | cons entry rest ih =>
      intro hm
      by_cases h : entry.1 = key
      · exact ⟨entry.2, by simp [get?, h]⟩
      · have hrest : key ∈ keys rest := by simpa [keys, Ne.symm h] using hm
        simpa [get?, h] using ih hrest
  · rintro ⟨value, h⟩
    exact List.mem_map.mpr ⟨_, mem_of_get? h, rfl⟩

theorem nodup_keys_insert {m : Entries α} (h : m.keys.Nodup) (key : Text) (value : α) :
    (m.insert key value).keys.Nodup := by
  rw [keys_insert]
  split
  · exact h
  · next hnew =>
    refine List.nodup_append.mpr ⟨h, by simp, fun k hk other ho => ?_⟩
    obtain rfl := List.mem_singleton.mp ho
    exact fun he => hnew (he ▸ hk)

theorem get?_insertAll (new : List Text) (value : α) (m : Entries α) (key : Text) :
    (m.insertAll new value).get? key = if key ∈ new then some value else m.get? key := by
  unfold insertAll
  induction new generalizing m with
  | nil => rfl
  | cons k rest ih =>
    rw [List.foldl_cons, ih]
    by_cases hrest : key ∈ rest
    · simp [hrest]
    · by_cases hk : key = k
      · simp [hk, get?_insert_self]
      · simp [hrest, hk, get?_insert_of_ne hk]

theorem nodup_keys_insertAll {m : Entries α} (h : m.keys.Nodup) (new : List Text) (value : α) :
    (m.insertAll new value).keys.Nodup := by
  unfold insertAll
  induction new generalizing m with
  | nil => exact h
  | cons k rest ih => exact ih (nodup_keys_insert h k value)

theorem contains_iff {m : Entries α} {key : Text} : m.contains key = true ↔ key ∈ m.keys := by
  rw [contains, Option.isSome_iff_exists, mem_keys_iff]

/-- Writing to a key that is there changes the entry in its place. -/
theorem insert_append_cons {front : Entries α} {key : Text} (h : key ∉ front.keys) (value old : α)
    (back : Entries α) :
    insert key value (front ++ (key, old) :: back) = front ++ (key, value) :: back := by
  induction front with
  | nil => simp [insert]
  | cons entry rest ih =>
    simp only [keys, List.map_cons, List.mem_cons, not_or] at h
    simp [insert, Ne.symm h.1, ih h.2]

/-- Erasing a key leaves the entries before and behind it as they are. -/
theorem erase_append_cons {front : Entries α} {key : Text} (h : key ∉ front.keys) (value : α)
    (back : Entries α) : erase key (front ++ (key, value) :: back) = front ++ back := by
  induction front with
  | nil => simp [erase]
  | cons entry rest ih =>
    simp only [keys, List.map_cons, List.mem_cons, not_or] at h
    simp [erase, Ne.symm h.1, ih h.2]

theorem erase_of_not_mem {key : Text} {m : Entries α} (h : key ∉ m.keys) : m.erase key = m := by
  induction m with
  | nil => rfl
  | cons entry rest ih =>
    simp only [keys, List.map_cons, List.mem_cons, not_or] at h
    simp [erase, Ne.symm h.1, ih h.2]

theorem erase_sublist (key : Text) (m : Entries α) : List.Sublist (m.erase key) m := by
  induction m with
  | nil => exact List.Sublist.slnil
  | cons entry rest ih =>
    rw [erase]
    split
    · exact List.sublist_cons_self entry rest
    · exact ih.cons_cons entry

theorem nodup_keys_erase {m : Entries α} (h : m.keys.Nodup) (key : Text) :
    (m.erase key).keys.Nodup :=
  h.sublist ((erase_sublist key m).map _)

/-- Where the keys differ, none of them is among those before its own entry. -/
theorem not_mem_keys_of_nodup {front back : Entries α} {key : Text} {value : α}
    (h : (keys (front ++ (key, value) :: back)).Nodup) : key ∉ front.keys := by
  intro hm
  simp only [keys, List.map_append, List.map_cons] at h
  exact (List.nodup_append.mp h).2.2 key hm key List.mem_cons_self rfl

end Entries

end LineScript
