import Mathlib.Data.List.Sort
import LineScript.Proofs.Registry.History

/-!
Merging a module a second time. Each entry of the second copy takes over the names that its twin in the
first copy has, so a name goes on to mean the same entry, registered later (`meaning?_merge_merge`). The
live registrations are therefore those from before, renumbered and in the same order
(`live_merge_merge`), whatever names the entries share with each other or with older ones.
-/

namespace LineScript

/-- A registration with a number that is greater by `k`, if the number is at least `n`. -/
def Registered.shiftFrom (n k : Nat) (x : Registered) : Registered :=
  if x.number < n then x else { x with number := x.number + k }

namespace Registered

variable {n k : Nat} {x y : Registered}

theorem entry_shiftFrom (n k : Nat) (x : Registered) : (x.shiftFrom n k).entry = x.entry := by
  unfold shiftFrom
  split <;> rfl

theorem shiftFrom_of_lt (h : x.number < n) : x.shiftFrom n k = x := if_pos h

theorem shiftFrom_of_le (h : n ≤ x.number) : x.shiftFrom n k = { x with number := x.number + k } :=
  if_neg (Nat.not_lt.mpr h)

theorem number_shiftFrom_lt (h : x.number < y.number) :
    (x.shiftFrom n k).number < (y.shiftFrom n k).number := by
  unfold shiftFrom
  split <;> split <;> grind

end Registered

namespace Registry

/-- Registries that say the same of every name and every term. -/
structure Alike (r r' : Registry) : Prop where
  lookup? : ∀ name, r'.lookup? name = r.lookup? name
  names : r'.names = r.names
  size : r'.size = r.size
  search : ∀ term, r'.search term = r.search term

theorem Alike.refl (r : Registry) : Alike r r := ⟨fun _ => rfl, rfl, rfl, fun _ => rfl⟩

theorem Alike.symm {r r' : Registry} (h : Alike r r') : Alike r' r where
  lookup? name := (h.lookup? name).symm
  names := h.names.symm
  size := h.size.symm
  search term := (h.search term).symm

theorem Alike.trans {r r' r'' : Registry} (h : Alike r r') (h' : Alike r' r'') : Alike r r'' where
  lookup? name := (h'.lookup? name).trans (h.lookup? name)
  names := h'.names.trans h.names
  size := h'.size.trans h.size
  search term := (h'.search term).trans (h.search term)

/-! ## What a name means -/

/-- The last of some entries that has a name, as a registration, if they are registered in turn from the
number `n` on. -/
def lastNamed? (name : Text) (n : Nat) : List Entry → Option Registered
  | [] => none
  | e :: rest => (lastNamed? name (n + 1) rest).or (if e.names.contains name then some ⟨n, e⟩ else none)

theorem meaning?_registerAll (r : Registry) (es : List Entry) (name : Text) :
    (r.registerAll es).meaning? name =
      (lastNamed? name r.registered.length es).or (r.meaning? name) := by
  unfold registerAll
  induction es generalizing r with
  | nil => rfl
  | cons e rest ih =>
    have hlength : (r.register e).registered.length = r.registered.length + 1 :=
      List.length_append
    rw [List.foldl_cons, ih, hlength, meaning?_register, lastNamed?, Option.or_assoc]
    congr 1
    by_cases hname : name ∈ e.names <;> simp [hname]

theorem le_number_of_lastNamed? {name : Text} {n : Nat} {es : List Entry} {x : Registered}
    (h : lastNamed? name n es = some x) : n ≤ x.number := by
  induction es generalizing n with
  | nil => cases h
  | cons e rest ih =>
    rcases Option.or_eq_some_iff.mp h with h | ⟨-, h⟩
    · exact Nat.le_of_succ_le (ih h)
    · obtain ⟨-, hx⟩ := Option.ite_none_right_eq_some.mp h
      obtain rfl := Option.some.inj hx
      exact Nat.le_refl n

theorem lastNamed?_add (name : Text) (n k : Nat) (es : List Entry) :
    lastNamed? name (n + k) es =
      (lastNamed? name n es).map fun x => { x with number := x.number + k } := by
  induction es generalizing n with
  | nil => rfl
  | cons e rest ih =>
    rw [lastNamed?, lastNamed?, Nat.add_right_comm, ih, Option.map_or]
    congr 1
    split <;> rfl

variable {r : Registry} {es : List Entry}

theorem Reflects.merge (h : Reflects r es) (m : Module) : Reflects (r.merge m) (es ++ m.entries) :=
  h.registerAll m.entries

/-- A name that an entry of the module has means the later copy of it; any other means what it did. -/
theorem Reflects.meaning?_merge_merge (h : Reflects r es) (m : Module) (name : Text) :
    ((r.merge m).merge m).meaning? name =
      ((r.merge m).meaning? name).map
        (Registered.shiftFrom r.registered.length m.entries.length) := by
  have hlength : (r.merge m).registered.length = r.registered.length + m.entries.length := by
    rw [(h.merge m).registered, h.registered, length_numbered, length_numbered, List.length_append]
  have hlast := lastNamed?_add name r.registered.length m.entries.length m.entries
  rw [Registry.merge, meaning?_registerAll, hlength, hlast, Registry.merge, meaning?_registerAll]
  cases hfound : lastNamed? name r.registered.length m.entries with
  | some x =>
    have hle := le_number_of_lastNamed? hfound
    simp only [Option.map_some, Option.some_or, Registered.shiftFrom_of_le hle]
  | none =>
    simp only [Option.map_none, Option.none_or]
    cases hold : r.meaning? name with
    | none => rfl
    | some x =>
      have hlt : x.number < r.registered.length := by
        rw [h.registered, length_numbered]
        exact number_lt ((h.meaning name x).mp hold).registered
      rw [Option.map_some, Registered.shiftFrom_of_lt hlt]

/-! ## Which registrations are live -/

instance : Std.Asymm fun x y : Registered => x.number < y.number := ⟨fun _ _ => Nat.lt_asymm⟩

/-- The live registrations keep their order. -/
theorem Reflects.live_merge_merge (h : Reflects r es) (m : Module) :
    ((r.merge m).merge m).live =
      (r.merge m).live.map (Registered.shiftFrom r.registered.length m.entries.length) := by
  have honce := h.merge m
  have htwice := honce.merge m
  -- Both lists are in the order of the numbers, so they are equal if they have the same members.
  refine htwice.pairwise_live.eq_of_mem_iff
    (List.pairwise_map.mpr (honce.pairwise_live.imp Registered.number_shiftFrom_lt)) fun x => ?_
  simp only [htwice.mem_live, h.meaning?_merge_merge, Option.map_eq_some_iff, List.mem_map,
    honce.mem_live]
  constructor
  · rintro ⟨name, y, hy, hx⟩
    exact ⟨y, ⟨name, hy⟩, hx⟩
  · rintro ⟨y, ⟨name, hy⟩, hx⟩
    exact ⟨name, y, hy, hx⟩

theorem Reflects.search_merge_merge (h : Reflects r es) (m : Module) (term : Text) :
    ((r.merge m).merge m).search term = (r.merge m).search term := by
  by_cases hterm : Text.Blank term
  · rw [search, search, found_of_blank hterm, found_of_blank hterm]
  · rw [search, search, found_of_not_blank hterm, found_of_not_blank hterm, h.live_merge_merge,
      List.filter_map, List.map_map]
    have hentry : (·.entry) ∘ Registered.shiftFrom r.registered.length m.entries.length =
        Registered.entry := funext (Registered.entry_shiftFrom _ _)
    have hmentions : (fun x : Registered => x.entry.mentions (Text.lower term.trim)) ∘
        Registered.shiftFrom r.registered.length m.entries.length =
          fun x => x.entry.mentions (Text.lower term.trim) :=
      funext fun x => congrArg (Entry.mentions · _) (Registered.entry_shiftFrom _ _ x)
    rw [hentry, hmentions]

/-- Registries in which the same names mean something list them alike. -/
theorem Reflects.names_eq {r' : Registry} {es' : List Entry} (h : Reflects r es)
    (h' : Reflects r' es') (hlookup : ∀ name, r'.lookup? name = r.lookup? name) :
    r'.names = r.names := by
  refine h'.pairwise_names.eq_of_mem_iff h.pairwise_names fun name => ?_
  rw [mem_names, mem_names, hlookup]

/-- After a second merge of a module a registry says what it said after the first. -/
theorem Reflects.alike_merge (h : Reflects r es) (m : Module) :
    Alike (r.merge m) ((r.merge m).merge m) := by
  have hlookup : ∀ name, ((r.merge m).merge m).lookup? name = (r.merge m).lookup? name := by
    intro name
    rw [lookup?, lookup?, h.meaning?_merge_merge, Option.map_map]
    congr 1
    exact funext (Registered.entry_shiftFrom _ _)
  refine ⟨hlookup, (h.merge m).names_eq ((h.merge m).merge m) hlookup, ?_, h.search_merge_merge m⟩
  rw [size, size, h.live_merge_merge, List.length_map]

end Registry

end LineScript
