import LineScript.Builtin.Catalogue

/-!
What a name means in a registry that entries have been added to: the last of them that has the name, or
what it meant before. So a function of the catalogue is found without its registrations being made.
-/

namespace LineScript

namespace Registry

theorem lookup?_register (r : Registry) (e : Entry) (name : Text) :
    (r.register e).lookup? name = if name ∈ e.names then some e else r.lookup? name := by
  unfold lookup? meaning? register
  rw [Entries.get?_insertAll]
  split <;> rfl

/-- Of the entries that have a name, the last to be registered is the one that it means. -/
theorem lookup?_registerAll (r : Registry) (es : List Entry) (name : Text) :
    (r.registerAll es).lookup? name =
      (es.reverse.find? (name ∈ ·.names)).or (r.lookup? name) := by
  unfold registerAll
  induction es generalizing r with
  | nil => rfl
  | cons e rest ih =>
    rw [List.foldl_cons, ih, lookup?_register, List.reverse_cons, List.find?_append]
    cases rest.reverse.find? (name ∈ ·.names) with
    | some found => rfl
    | none =>
      by_cases hname : name ∈ e.names <;> simp [hname]

theorem foldl_merge (r : Registry) (modules : List Module) :
    modules.foldl merge r = r.registerAll (modules.flatMap (·.entries)) := by
  unfold registerAll
  induction modules generalizing r with
  | nil => rfl
  | cons m rest ih =>
    rw [List.foldl_cons, ih, List.flatMap_cons, List.foldl_append]
    rfl

end Registry

theorem Catalogue.lookup?_core (name : Text) :
    coreRegistry.lookup? name = core.reverse.find? (name ∈ ·.names) := by
  rw [coreRegistry, Registry.lookup?_registerAll]
  exact Option.or_none

end LineScript
