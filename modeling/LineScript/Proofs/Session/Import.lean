import LineScript.Proofs.Registry.Merge
import LineScript.Proofs.Session.Names

/-!
Importing a module again. A source of nothing but import lines for one name imports it as often as there
are such lines (`execute_imports`), and every time after the first leaves the functions as they are to
anyone who calls, lists, counts or searches them (`alike_importModule`). Main statement:
`import_idempotent`.
-/

namespace LineScript

/-- A line that says nothing, or imports a module by a name. -/
def ImportsAtMost (name line : Text) : Prop :=
  isSkippable line = true ∨ Statement.classify line.trim = .importModule name

/-- How many lines say something. -/
def sayings (lines : List Text) : Nat := lines.countP fun line => !isSkippable line

/-! ## Sources that only import -/

/-- The steps of lines that only import are as many imports as lines say something. -/
theorem Program.exists_readFrom_imports {name : Text} {lines : List Text} (i : Nat)
    (h : ∀ line ∈ lines, ImportsAtMost name line) :
    ∃ numbers : List Nat, readFrom i lines = numbers.map (.item ⟨·, .importModule name⟩) ∧
      numbers.length = sayings lines := by
  induction lines generalizing i with
  | nil => exact ⟨[], by rw [readFrom]; rfl, rfl⟩
  | cons line rest ih =>
    obtain ⟨numbers, hnumbers, hlength⟩ :=
      ih (i + 1) fun line hm => h line (List.mem_cons_of_mem _ hm)
    cases hskip : isSkippable line with
    | true =>
      refine ⟨numbers, ?_, ?_⟩
      · rw [readFrom, if_pos hskip, hnumbers]
      · rw [hlength, sayings, sayings, List.countP_cons_of_neg (by simp [hskip])]
    | false =>
      have hline := (h line List.mem_cons_self).resolve_left (by simp [hskip])
      refine ⟨(i + 1) :: numbers, ?_, ?_⟩
      · rw [readFrom, if_neg (by simp [hskip])]
        simp only [hline, next, Nat.sub_self, Nat.add_zero, List.drop_zero, hnumbers, List.map_cons]
      · rw [List.length_cons, hlength, sayings, sayings,
          List.countP_cons_of_pos (by simp [hskip])]

namespace Session

/-- The session after a module has been imported by a name some number of times. -/
def importTimes (s : Session) (name : Text) : Nat → Session
  | 0 => s
  | k + 1 => (s.importModule name).importTimes name k

theorem importTimes_add (s : Session) (name : Text) (j k : Nat) :
    s.importTimes name (j + k) = (s.importTimes name j).importTimes name k := by
  induction j generalizing s with
  | zero => rw [Nat.zero_add, importTimes]
  | succ j ih => rw [Nat.add_right_comm, importTimes, importTimes, ih]

theorem runSteps_imports (r : Run) (name : Text) (numbers : List Nat) :
    (r.runSteps (numbers.map (.item ⟨·, .importModule name⟩))).session =
      r.session.importTimes name numbers.length := by
  induction numbers generalizing r with
  | nil => rfl
  | cons number rest ih => exact ih (r.runStep (.item ⟨number, .importModule name⟩))

theorem execute_imports (s : Session) {name source : Text}
    (h : ∀ line ∈ Text.lines source, ImportsAtMost name line) :
    (s.execute source).2 = s.importTimes name (sayings (Text.lines source)) := by
  obtain ⟨numbers, hread, hlength⟩ := Program.exists_readFrom_imports 0 h
  rw [execute, Program.read, hread, ← hlength]
  exact runSteps_imports _ name numbers

theorem takeAll_imports (s : Session) {name : Text} {sources : List Text}
    (h : ∀ line ∈ sources.flatMap Text.lines, ImportsAtMost name line) :
    s.takeAll (sources.map .source) = s.importTimes name (sayings (sources.flatMap Text.lines)) := by
  induction sources generalizing s with
  | nil => rfl
  | cons source rest ih =>
    simp only [List.flatMap_cons, List.mem_append] at h
    have hfirst := s.execute_imports fun line hm => h line (Or.inl hm)
    rw [List.flatMap_cons, sayings, List.countP_append, importTimes_add]
    rw [sayings] at hfirst
    rw [← hfirst]
    exact ih _ fun line hm => h line (Or.inr hm)

/-! ## Importing once and more often -/

/-- Sessions with the same variables, in which the same functions can be called and from which the same
modules have been imported. -/
structure Alike (s s' : Session) : Prop where
  registry : s.registry.Alike s'.registry
  imported : s'.imported = s.imported
  vars : s'.vars = s.vars

theorem Alike.refl (s : Session) : Alike s s := ⟨.refl _, rfl, rfl⟩

theorem Alike.symm {s s' : Session} (h : Alike s s') : Alike s' s :=
  ⟨h.registry.symm, h.imported.symm, h.vars.symm⟩

theorem Alike.trans {s s' s'' : Session} (h : Alike s s') (h' : Alike s' s'') : Alike s s'' :=
  ⟨h.registry.trans h'.registry, h'.imported.trans h.imported, h'.vars.trans h.vars⟩

/-- A session in which nothing was done to the functions but to register some. -/
def Registers (s : Session) : Prop := ∃ calls, s.registry = Registry.after calls

variable {s s' : Session} {names : List Text} {modules : List Module}

theorem Gains.registers (h : s.Gains names modules s') : s.Registers → s'.Registers := by
  rintro ⟨calls, hs⟩
  refine ⟨calls ++ modules.map .module, ?_⟩
  rw [h.registry, hs, Registry.after, Registry.after, List.foldl_append, List.foldl_map]
  rfl

theorem registers_start (modules : ModuleTable) (host : Host) : (start modules host).Registers :=
  ⟨Catalogue.core.map .entry, by rw [Registry.after, List.foldl_map]; rfl⟩

theorem registers_takeAll (h : s.Registers) (inputs : List Input) : (s.takeAll inputs).Registers := by
  induction inputs generalizing s with
  | nil => exact h
  | cons input rest ih =>
    cases input with
    | source t => exact ih ((s.gains_execute t).registers h)
    | text t => exact ih ((s.eval_keeps t).gains.registers h)

theorem vars_importModule (s : Session) (name : Text) : (s.importModule name).vars = s.vars := by
  unfold importModule
  cases s.modules.get? name <;> rfl

/-- An import that follows the same import changes nothing but the output. -/
theorem alike_importModule (h : s.Registers) (name : Text) :
    Alike (s.importModule name) ((s.importModule name).importModule name) := by
  have hgains := s.gains_importModule name
  have hagain := (s.importModule name).gains_importModule name
  rw [hgains.modules] at hagain
  obtain ⟨calls, hcalls⟩ := h
  have hreg : (s.importModule name).registry =
      (s.modules.get? name).toList.foldl Registry.merge (Registry.after calls) := by
    rw [hgains.registry, hcalls]
  refine ⟨?_, ?_, ?_⟩
  · rw [hagain.registry, hreg]
    cases s.modules.get? name with
    | none => exact .refl _
    | some m => exact (Registry.reflects_after calls).alike_merge m
  · rw [hagain.imported, hgains.imported]
    cases s.modules.get? name with
    | none => rfl
    | some m => exact if_pos (mem_addName.mpr (Or.inr rfl))
  · exact vars_importModule _ name

theorem alike_importTimes (h : s.Registers) (name : Text) (k : Nat) :
    Alike (s.importModule name) (s.importTimes name (k + 1)) := by
  induction k generalizing s with
  | zero => exact .refl _
  | succ k ih =>
    exact (alike_importModule h name).trans (ih ((s.gains_importModule name).registers h))

/-- Importing is idempotent. A registry, whatever calls it came from, says the same after a second merge
of a module as after the first: what each name means, which names there are, how many functions are
live, and what each search finds. So all sources that only import a module by one name, however often
they do and in however many pieces, leave a session alike, whatever it has been given before. -/
theorem import_idempotent :
    (∀ (calls : List Registration) (m : Module),
      let once := (Registry.after calls).merge m
      once.Alike (once.merge m)) ∧
    ∀ (modules : ModuleTable) (host : Host) (inputs : List Input) (name : Text)
      (once again : List Text),
      (∀ line ∈ (once ++ again).flatMap Text.lines, ImportsAtMost name line) →
      0 < sayings (once.flatMap Text.lines) → 0 < sayings (again.flatMap Text.lines) →
      let s := (start modules host).takeAll inputs
      Alike (s.takeAll (once.map .source)) (s.takeAll (again.map .source)) := by
  refine ⟨fun calls m => (Registry.reflects_after calls).alike_merge m, ?_⟩
  intro modules host inputs name once again hlines honce hagain s
  have hreg : s.Registers := registers_takeAll (registers_start modules host) inputs
  simp only [List.flatMap_append, List.mem_append] at hlines
  have himport : ∀ {sources : List Text},
      (∀ line ∈ sources.flatMap Text.lines, ImportsAtMost name line) →
      0 < sayings (sources.flatMap Text.lines) →
      Alike (s.importModule name) (s.takeAll (sources.map .source)) := by
    intro sources hall hpos
    obtain ⟨k, hk⟩ := Nat.exists_eq_succ_of_ne_zero hpos.ne'
    rw [s.takeAll_imports hall, hk]
    exact alike_importTimes hreg name k
  exact (himport (fun line hm => hlines line (Or.inl hm)) honce).symm.trans
    (himport (fun line hm => hlines line (Or.inr hm)) hagain)

/-- A module whose entries share names with each other and with the core functions, imported by one line
and by three lines in two sources, after a source that has imported it already. -/
theorem import_idempotent_shared :
    let shared := ["abs", "size"].map fun other =>
      Entry.mk "len".toList [other.toList] .upper .traced none
    let modules : ModuleTable := ModuleTable.add [] ⟨"m".toList, shared⟩ []
    let s := (start modules ⟨.muted, .ofSeed 0, fun _ _ => [], 0⟩).takeAll
      [.source "use m".toList, .text "len(\"x\")".toList]
    Alike (s.takeAll (["import m".toList].map .source))
      (s.takeAll (["import m;\n\n  use m // again".toList, "导入 m".toList].map .source)) := by
  intro shared modules s
  exact import_idempotent.2 modules _ _ "m".toList ["import m".toList]
    ["import m;\n\n  use m // again".toList, "导入 m".toList]
    (by unfold ImportsAtMost; decide) (by decide) (by decide)

end Session

end LineScript
