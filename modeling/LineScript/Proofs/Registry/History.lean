import Mathlib.Data.Set.Card
import LineScript.Registry
import LineScript.Proofs.Text.Occurrence

/-! What a registry says after any calls that registered entries, one at a time or a module at once.
The map from names and the list of registrations are both determined by the entries that came
(`Reflects`), so what a name means, which entries are live and what a search finds can all be read off
these entries.
-/

namespace LineScript

/-- A call that registers entries. -/
inductive Registration where
  | entry (e : Entry)
  | module (m : Module)

namespace Registration

/-- The entries that a call registers, in turn. -/
def entries : Registration → List Entry
  | entry e => [e]
  | module m => m.entries

/-- The registry behind a call. -/
def apply (r : Registry) : Registration → Registry
  | entry e => r.register e
  | module m => r.merge m

theorem apply_eq (r : Registry) (call : Registration) :
    apply r call = r.registerAll call.entries := by
  cases call with
  | entry e => rfl
  | module m => rfl

end Registration

/-- The texts of an entry that a search looks at. -/
def Entry.searched (e : Entry) : List Text :=
  e.names ++ match e.doc with
    | some doc => doc.summary :: doc.keywords
    | none => []

namespace Registry

/-- The registrations of entries in turn. -/
def numbered (es : List Entry) : List Registered := es.mapIdx fun number e => ⟨number, e⟩

/-- `x` is the latest registration that has a name, when the entries `es` are registered in turn. -/
structure Latest (es : List Entry) (name : Text) (x : Registered) : Prop where
  registered : x ∈ numbered es
  named : name ∈ x.entry.names
  later : ∀ y ∈ numbered es, x.number < y.number → name ∉ y.entry.names

/-- The registry that calls make of an empty one. -/
def after (calls : List Registration) : Registry := calls.foldl Registration.apply empty

/-- A registry in which the entries `es` have been registered in turn. -/
structure Reflects (r : Registry) (es : List Entry) : Prop where
  registered : r.registered = numbered es
  nodup : r.meanings.keys.Nodup
  meaning : ∀ name x, r.meaning? name = some x ↔ Latest es name x

/-! ## One registration -/

theorem length_numbered (es : List Entry) : (numbered es).length = es.length := List.length_mapIdx

theorem numbered_append (es : List Entry) (e : Entry) :
    numbered (es ++ [e]) = numbered es ++ [⟨es.length, e⟩] := List.mapIdx_concat

theorem mem_numbered {es : List Entry} {x : Registered} :
    x ∈ numbered es ↔ es[x.number]? = some x.entry := by
  obtain ⟨number, e⟩ := x
  rw [numbered, List.mem_mapIdx, List.getElem?_eq_some_iff]
  constructor
  · rintro ⟨i, hi, he⟩
    obtain ⟨rfl, rfl⟩ := Registered.mk.inj he
    exact ⟨hi, rfl⟩
  · rintro ⟨hi, he⟩
    exact ⟨number, hi, by rw [he]⟩

theorem number_lt {es : List Entry} {x : Registered} (h : x ∈ numbered es) :
    x.number < es.length :=
  (List.getElem?_eq_some_iff.mp (mem_numbered.mp h)).1

/-- A new entry takes all of its names over, and the other names keep what they mean. -/
theorem latest_append (es : List Entry) (e : Entry) (name : Text) (x : Registered) :
    Latest (es ++ [e]) name x ↔
      if name ∈ e.names then x = ⟨es.length, e⟩ else Latest es name x := by
  have hmem : ∀ y, y ∈ numbered (es ++ [e]) ↔ y ∈ numbered es ∨ y = ⟨es.length, e⟩ := by
    intro y
    rw [numbered_append, List.mem_append, List.mem_singleton]
  split
  · next hname =>
    constructor
    · rintro ⟨hx, -, hlater⟩
      rcases (hmem x).mp hx with hold | hnew
      -- An older entry is not the latest one, since the new entry has the name as well.
      · exact absurd hname (hlater _ ((hmem _).mpr (Or.inr rfl)) (number_lt hold))
      · exact hnew
    · rintro rfl
      refine ⟨(hmem _).mpr (Or.inr rfl), hname, fun y hy hlt => ?_⟩
      rcases (hmem y).mp hy with hold | rfl
      · exact absurd (number_lt hold) (Nat.lt_asymm hlt)
      · exact absurd hlt (Nat.lt_irrefl _)
  · next hname =>
    constructor
    · rintro ⟨hx, hnamed, hlater⟩
      rcases (hmem x).mp hx with hold | rfl
      · exact ⟨hold, hnamed, fun y hy => hlater y ((hmem y).mpr (Or.inl hy))⟩
      · exact absurd hnamed hname
    · rintro ⟨hx, hnamed, hlater⟩
      refine ⟨(hmem x).mpr (Or.inl hx), hnamed, fun y hy => ?_⟩
      rcases (hmem y).mp hy with hold | rfl
      · exact hlater y hold
      · exact fun _ => hname

theorem meaning?_register (r : Registry) (e : Entry) (name : Text) :
    (r.register e).meaning? name =
      if name ∈ e.names then some ⟨r.registered.length, e⟩ else r.meaning? name :=
  Entries.get?_insertAll _ _ _ _

theorem reflects_empty : Reflects empty [] where
  registered := rfl
  nodup := List.nodup_nil
  meaning := by
    intro name x
    refine ⟨fun h => by simp [meaning?, empty, Entries.get?] at h, fun h => ?_⟩
    simpa [numbered] using h.registered

theorem Reflects.register {r : Registry} {es : List Entry} (h : Reflects r es) (e : Entry) :
    Reflects (r.register e) (es ++ [e]) where
  registered := by
    rw [numbered_append, Registry.register, h.registered, length_numbered]
  nodup := Entries.nodup_keys_insertAll h.nodup _ _
  meaning := by
    intro name x
    rw [meaning?_register, h.registered, length_numbered, latest_append]
    split
    · simp [eq_comm]
    · exact h.meaning name x

theorem Reflects.registerAll {r : Registry} {es : List Entry} (h : Reflects r es)
    (new : List Entry) : Reflects (r.registerAll new) (es ++ new) := by
  unfold Registry.registerAll
  induction new generalizing r es with
  | nil => simpa using h
  | cons e rest ih => simpa using ih (h.register e)

/-- Whatever calls were made, the registry holds their entries. -/
theorem reflects_after (calls : List Registration) :
    Reflects (after calls) (calls.flatMap Registration.entries) := by
  have hrun : ∀ (r : Registry) (es : List Entry), Reflects r es →
      Reflects (calls.foldl Registration.apply r) (es ++ calls.flatMap Registration.entries) := by
    induction calls with
    | nil =>
      intro r es h
      simpa using h
    | cons call rest ih =>
      intro r es h
      have hcall := h.registerAll call.entries
      rw [← Registration.apply_eq] at hcall
      simpa using ih _ _ hcall
  simpa [after] using hrun empty [] reflects_empty

/-! ## What the registry says -/

variable {r : Registry} {es : List Entry}

/-- Registrations of the same entries are told apart by their numbers. -/
theorem eq_of_number_eq {x y : Registered} (h : x.number = y.number) (hx : x ∈ numbered es)
    (hy : y ∈ numbered es) : x = y := by
  rw [mem_numbered] at hx hy
  obtain ⟨number, e⟩ := x
  obtain rfl : number = y.number := h
  exact congrArg (Registered.mk _) (Option.some.inj (hx.symm.trans hy))

theorem pairwise_numbered (es : List Entry) :
    (numbered es).Pairwise (·.number < ·.number) := by
  rw [numbered, List.pairwise_iff_getElem]
  intro i j hi hj hlt
  simpa using hlt

/-- A name that some entry has is the name of a latest one. -/
theorem exists_latest {name : Text} (h : ∃ e ∈ es, name ∈ e.names) : ∃ x, Latest es name x := by
  induction es using List.reverseRecOn with
  | nil => simp at h
  | append_singleton es e ih =>
    simp only [latest_append]
    by_cases hname : name ∈ e.names
    · simp [hname]
    · have hes : ∃ e ∈ es, name ∈ e.names := by
        obtain ⟨e', he', hname'⟩ := h
        rcases List.mem_append.mp he' with he' | he'
        · exact ⟨e', he', hname'⟩
        · exact absurd (List.mem_singleton.mp he' ▸ hname') hname
      simpa [hname] using ih hes

theorem Reflects.lookup?_eq_none (h : Reflects r es) (name : Text) :
    r.lookup? name = none ↔ ∀ e ∈ es, name ∉ e.names := by
  rw [lookup?, Option.map_eq_none_iff]
  constructor
  · intro hnone e he hname
    obtain ⟨x, hx⟩ := exists_latest ⟨e, he, hname⟩
    rw [(h.meaning name x).mpr hx] at hnone
    contradiction
  · intro hall
    rw [Option.eq_none_iff_forall_ne_some]
    intro x hx
    have hlatest := (h.meaning name x).mp hx
    exact hall x.entry (List.mem_of_getElem? (mem_numbered.mp hlatest.registered)) hlatest.named

theorem Reflects.mem_live (h : Reflects r es) (x : Registered) :
    x ∈ r.live ↔ ∃ name, r.meaning? name = some x := by
  rw [live, List.mem_filter, h.registered, isLive, List.any_eq_true]
  constructor
  · rintro ⟨hx, name, -, hlive⟩
    obtain ⟨y, hy, hnumber⟩ := (Option.any_eq_true _ _).mp hlive
    have hlatest := (h.meaning name y).mp hy
    obtain rfl : y = x := eq_of_number_eq (by simpa using hnumber) hlatest.registered hx
    exact ⟨name, hy⟩
  · rintro ⟨name, hname⟩
    have hlatest := (h.meaning name x).mp hname
    exact ⟨hlatest.registered, name, hlatest.named, by simp [hname]⟩

theorem Reflects.pairwise_live (h : Reflects r es) : r.live.Pairwise (·.number < ·.number) := by
  rw [live, h.registered]
  exact (pairwise_numbered es).filter _

/-- Live entries are counted once each. -/
theorem Reflects.size_eq (h : Reflects r es) :
    r.size = {x | ∃ name, r.meaning? name = some x}.ncard := by
  have hnodup : r.live.Nodup := h.pairwise_live.imp fun hlt he => (he ▸ hlt).false
  have hset : {x | ∃ name, r.meaning? name = some x} = (r.live.toFinset : Set Registered) := by
    ext x
    simp [h.mem_live]
  rw [hset, Set.ncard_coe_finset, List.toFinset_card_of_nodup hnodup, size]

/-- The names that are listed are those that mean something. -/
theorem mem_names (name : Text) : name ∈ r.names ↔ (r.lookup? name).isSome = true := by
  rw [names, List.mem_mergeSort, Entries.mem_keys_iff, ← Option.isSome_iff_exists, lookup?,
    Option.isSome_map]
  rfl

theorem Reflects.pairwise_names (h : Reflects r es) : r.names.Pairwise (· < ·) := by
  have hprecedes : r.names.Pairwise fun s t => Text.precedes s t = true :=
    List.pairwise_mergeSort Text.precedes_trans Text.precedes_total r.meanings.keys
  have hsorted : r.names.Pairwise fun s t => ¬ t < s := hprecedes.imp Text.precedes_iff.mp
  have hnodup : r.names.Nodup := (List.mergeSort_perm _ _).nodup_iff.mpr h.nodup
  exact hsorted.imp₂ (fun _ _ hle hne => (List.le_iff_lt_or_eq.mp hle).resolve_right hne) hnodup

/-! ## Searching -/

theorem mentions_iff (e : Entry) (needle : Text) :
    e.mentions needle = true ↔ ∃ t ∈ e.searched, needle <:+: Text.lower t := by
  obtain ⟨name, aliases, function, echo, doc⟩ := e
  cases doc with
  | none => simp [Entry.mentions, Entry.searched, Text.occursIn_iff]
  | some doc =>
    simp [Entry.mentions, Entry.searched, Text.occursIn_iff, or_and_right, exists_or]

theorem lower_trim_eq_nil (term : Text) : Text.lower term.trim = [] ↔ Text.Blank term := by
  rw [Text.lower_eq_nil]
  constructor
  · intro htrim
    obtain ⟨lead, trail, hl, ht, hterm⟩ := Text.exists_blank_ends term
    rw [htrim, List.append_nil] at hterm
    rw [hterm]
    exact fun c hc => (List.mem_append.mp hc).elim (hl c) (ht c)
  · intro h
    rw [Text.trim, h.trimStart]
    rfl

theorem found_of_blank {term : Text} (h : Text.Blank term) : r.found term = [] := by
  simp [found, (lower_trim_eq_nil term).mpr h]

theorem found_of_not_blank {term : Text} (h : ¬ Text.Blank term) :
    r.found term = r.live.filter (·.entry.mentions (Text.lower term.trim)) := by
  simp [found, (lower_trim_eq_nil term).not.mpr h]

theorem Reflects.mem_found (h : Reflects r es) {term : Text} (hterm : ¬ Text.Blank term)
    (x : Registered) :
    x ∈ r.found term ↔ (∃ name, r.meaning? name = some x) ∧
      ∃ t ∈ x.entry.searched, Text.lower term.trim <:+: Text.lower t := by
  rw [found_of_not_blank hterm, List.mem_filter, h.mem_live, mentions_iff]

theorem Reflects.pairwise_found (h : Reflects r es) (term : Text) :
    (r.found term).Pairwise (·.number < ·.number) := by
  rw [found]
  split
  · exact List.Pairwise.nil
  · exact h.pairwise_live.filter _

/-- After any calls that register, with `es` the entries they registered in turn: a name means the
latest entry that has it, and nothing if none has it; the names that mean something are listed in
strict order; the size is the number of registrations that some name means; and a search finds nothing
by a blank term and otherwise, in the order of registration and once each, the registrations that some
name means and that have the trimmed term in a name, the summary or a keyword, all in lower case. -/
theorem history (calls : List Registration) :
    (∀ name x, (after calls).meaning? name = some x ↔
      Latest (calls.flatMap Registration.entries) name x) ∧
    (∀ name, (after calls).lookup? name = ((after calls).meaning? name).map (·.entry)) ∧
    (∀ name, (after calls).lookup? name = none ↔
      ∀ e ∈ calls.flatMap Registration.entries, name ∉ e.names) ∧
    (after calls).names.Pairwise (· < ·) ∧
    (∀ name, name ∈ (after calls).names ↔ ((after calls).lookup? name).isSome = true) ∧
    (after calls).size = {x | ∃ name, (after calls).meaning? name = some x}.ncard ∧
    (∀ term, (after calls).search term = ((after calls).found term).map (·.entry)) ∧
    (∀ term, Text.Blank term → (after calls).found term = []) ∧
    (∀ term, ((after calls).found term).Pairwise (·.number < ·.number)) ∧
    (∀ term, ¬ Text.Blank term → ∀ x, x ∈ (after calls).found term ↔
      (∃ name, (after calls).meaning? name = some x) ∧
        ∃ t ∈ x.entry.searched, Text.lower term.trim <:+: Text.lower t) := by
  have h := reflects_after calls
  exact ⟨h.meaning, fun _ => rfl, h.lookup?_eq_none, h.pairwise_names, mem_names, h.size_eq,
    fun _ => rfl, fun _ => found_of_blank, h.pairwise_found, fun _ => h.mem_found⟩

/-- An entry that has lost one of its names is still meant by the other, and still found by both. -/
example :
    let f : Entry := ⟨"f".toList, ["g".toList], .abs, .traced, none⟩
    let g : Entry := ⟨"g".toList, [], .len, .traced, none⟩
    let r := after [.entry f, .module ⟨"m".toList, [g]⟩]
    r.lookup? "f".toList = some f ∧ r.lookup? "g".toList = some g ∧ r.size = 2 ∧
      r.search " G".toList = [f, g] := by
  decide

end Registry

end LineScript
