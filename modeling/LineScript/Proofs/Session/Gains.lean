import LineScript.Proofs.Registry.Lookup
import LineScript.Proofs.Session.Account
import LineScript.Proofs.Session.Evaluation

/-!
What a run adds to a session. Variables, functions and imported modules only ever become more: an act
binds names that it says (`Act.names`) or imports the module that it names (`Act.module?`), and nothing
else that a statement does adds anything (`gains_act`). New names go behind the old ones, so the names
that were there before a run are the first of those that are there after it. Main statement:
`execute_gains`.
-/

namespace LineScript

/-! ## Names in the order in which they first come -/

/-- Names with one more behind them, unless it is one of them. -/
def addName (names : List Text) (name : Text) : List Text :=
  if name ∈ names then names else names ++ [name]

/-- Names with others added in turn. -/
def addNames (names new : List Text) : List Text := new.foldl addName names

theorem addNames_append (names new new' : List Text) :
    addNames names (new ++ new') = addNames (addNames names new) new' := List.foldl_append

theorem mem_addName {names : List Text} {name x : Text} :
    x ∈ addName names name ↔ x ∈ names ∨ x = name := by
  unfold addName
  split
  · next hname =>
    refine ⟨Or.inl, ?_⟩
    rintro (h | rfl)
    · exact h
    · exact hname
  · rw [List.mem_append, List.mem_singleton]

theorem mem_addNames {names new : List Text} {x : Text} :
    x ∈ addNames names new ↔ x ∈ names ∨ x ∈ new := by
  unfold addNames
  induction new generalizing names with
  | nil => simp
  | cons name rest ih => rw [List.foldl_cons, ih, mem_addName, List.mem_cons, or_assoc]

/-- The names that are there stay in front, and none comes a second time. -/
theorem exists_addNames (names new : List Text) : ∃ added, addNames names new = names ++ added ∧
    added.Nodup ∧ ∀ x ∈ added, x ∉ names := by
  unfold addNames
  induction new generalizing names with
  | nil => exact ⟨[], (List.append_nil names).symm, List.nodup_nil, by simp⟩
  | cons name rest ih =>
    obtain ⟨added, hadded, hnodup, hnew⟩ := ih (addName names name)
    rw [List.foldl_cons, hadded]
    by_cases hname : name ∈ names
    · rw [addName, if_pos hname] at hnew ⊢
      exact ⟨added, rfl, hnodup, hnew⟩
    · rw [addName, if_neg hname] at hnew ⊢
      refine ⟨name :: added, by simp, List.nodup_cons.mpr ⟨?_, hnodup⟩, ?_⟩
      · exact fun hm => hnew name hm (by simp)
      · intro x hx
        rcases List.mem_cons.mp hx with rfl | hx
        · exact hname
        · exact fun hm => hnew x hx (List.mem_append_left _ hm)

theorem nodup_addNames {names : List Text} (h : names.Nodup) (new : List Text) :
    (addNames names new).Nodup := by
  obtain ⟨added, hadded, hnodup, hnew⟩ := exists_addNames names new
  rw [hadded, List.nodup_append]
  exact ⟨h, hnodup, fun x hx y hy hxy => hnew y hy (hxy ▸ hx)⟩

/-! ## Sessions -/

namespace Session

/-- A session and a later one in which the names `names` have been bound and the modules `modules`
imported, in these orders. -/
structure Gains (s : Session) (names : List Text) (modules : List Module) (s' : Session) : Prop where
  keys : s'.vars.keys = addNames s.vars.keys names
  registry : s'.registry = modules.foldl Registry.merge s.registry
  imported : s'.imported = addNames s.imported (modules.map (·.name))
  modules : s'.modules = s.modules

variable {s s' s'' : Session} {names names' : List Text} {modules modules' : List Module}

theorem Gains.refl (s : Session) : s.Gains [] [] s := ⟨rfl, rfl, rfl, rfl⟩

theorem Gains.trans (h : s.Gains names modules s') (h' : s'.Gains names' modules' s'') :
    s.Gains (names ++ names') (modules ++ modules') s'' where
  keys := by rw [h'.keys, h.keys, addNames_append]
  registry := by rw [h'.registry, h.registry, List.foldl_append]
  imported := by rw [h'.imported, h.imported, List.map_append, addNames_append]
  modules := h'.modules.trans h.modules

theorem Keeps.gains {P : Text → Prop} (h : s.Keeps P s') : s.Gains [] [] s' :=
  ⟨h.names, h.registry, h.imported, h.modules⟩

theorem gains_write (s : Session) (t : Text) : s.Gains [] [] (s.write t) := ⟨rfl, rfl, rfl, rfl⟩

theorem gains_assign (s : Session) (name : Text) (v : Value) : s.Gains [name] [] (s.assign name v) :=
  ⟨Entries.keys_insert name v s.vars, rfl, rfl, rfl⟩

theorem gains_assignAll (s : Session) (names : List Text) (v : Value) :
    s.Gains names [] (names.foldl (fun s name => s.assign name v) s) := by
  induction names generalizing s with
  | nil => exact .refl s
  | cons name rest ih => exact (s.gains_assign name v).trans (ih (s.assign name v))

/-- Only a variable that is there is stored into. -/
theorem gains_writeBack (s : Session) (receiver : Option Text) (update : Option Value) :
    s.Gains [] [] (s.writeBack receiver update) := by
  unfold writeBack
  split
  · next name v =>
    split
    · next hbound =>
      rw [Bool.and_eq_true] at hbound
      have hmem : name ∈ s.vars.keys := Entries.mem_keys_iff.mpr (Option.isSome_iff_exists.mp hbound.2)
      exact ⟨(Entries.keys_insert name v s.vars).trans (if_pos hmem), rfl, rfl, rfl⟩
    · exact .refl s
  · exact .refl s

theorem gains_invoke (s : Session) (e : Entry) (name : Text) (receiver : Option Text)
    (args : Arguments) : s.Gains [] [] (s.invoke e name receiver args).2 := by
  unfold invoke
  generalize e.function.call ⟨name, s.registry, args⟩ s.host = o
  have hhost : s.Gains [] [] { s with host := o.host } := ⟨rfl, rfl, rfl, rfl⟩
  exact hhost.trans (gains_writeBack _ receiver o.update)

theorem gains_importModule (s : Session) (name : Text) :
    s.Gains [] (s.modules.get? name).toList (s.importModule name) := by
  unfold importModule
  cases s.modules.get? name with
  | none => exact s.gains_write _
  | some m =>
    refine ⟨rfl, rfl, ?_, rfl⟩
    simp [write, addNames, addName]

end Session

/-! ## Statements -/

/-- The module that an import finds. -/
def Statement.module? (modules : ModuleTable) : Statement → Option Module
  | importModule name => modules.get? name
  | _ => none

namespace Session

/-- The name that a statement assigns to, which is none if the value cannot be found. -/
def assigned (s : Session) : Statement → List Text
  | .assignment name expression =>
    match (s.eval expression).1 with
    | .ok _ => [name]
    | .error _ => []
  | _ => []

theorem gains_runAssignment (s : Session) (name expression : Text) :
    s.Gains (s.assigned (.assignment name expression)) [] (s.runAssignment name expression).2 := by
  have heval := (s.eval_keeps expression).gains
  simp only [assigned, runAssignment]
  generalize s.eval expression = outcome at heval ⊢
  obtain ⟨failure | v, s'⟩ := outcome
  · exact heval
  · exact heval.trans ((s'.gains_write _).trans (gains_assign _ name v))

theorem gains_runExpression (s : Session) (t : Text) : s.Gains [] [] (s.runExpression t).2 := by
  have heval := (s.eval_keeps t).gains
  unfold runExpression
  generalize s.eval t = outcome at heval ⊢
  obtain ⟨failure | v, s'⟩ := outcome
  · exact heval
  · dsimp only
    split
    · exact heval
    · exact heval.trans (s'.gains_write _)

theorem gains_runCall (s : Session) (name args : Text) : s.Gains [] [] (s.runCall name args).2 := by
  have hargs := (s.evalOperands_keeps (Text.splitArguments args)).gains
  rw [← Operand.readAll] at hargs
  unfold runCall
  dsimp only
  generalize s.evalOperands (Operand.readAll args) = outcome at hargs ⊢
  obtain ⟨failure | values, s'⟩ := outcome
  · exact hargs
  · dsimp only
    cases s'.registry.lookup? name with
    | none => exact hargs.trans (s'.gains_write _)
    | some e =>
      have hcall := hargs.trans
        (s'.gains_invoke e name ((Operand.readAll args).head?.map Operand.source) values)
      dsimp only
      generalize s'.invoke e name _ values = outcome at hcall ⊢
      obtain ⟨failure | v, s''⟩ := outcome
      · exact hcall
      · dsimp only
        split
        · exact hcall.trans (s''.gains_write _)
        · exact hcall

theorem gains_runItem (s : Session) (i : Item) :
    s.Gains (s.assigned i.statement) (i.statement.module? s.modules).toList (s.runItem i).2 := by
  obtain ⟨line, statement⟩ := i
  cases statement with
  | structural => exact .refl s
  | importModule name => exact s.gains_importModule name
  | declaration keyword signature => exact s.gains_write _
  | tryOpener => exact .refl s
  | orphan kind => exact s.gains_write _
  | assignment name expression => exact s.gains_runAssignment name expression
  | call name args => exact s.gains_runCall name args
  | expression t => exact s.gains_runExpression t

end Session

/-! ## Acts -/

namespace Act

/-- The names that an act binds. -/
def names (s : Session) : Act → List Text
  | dispatch (.statement i) => s.assigned i.statement
  | catching _ binding => errorVariables ++ binding.toList
  | _ => []

/-- The module that an act imports. -/
def module? (modules : ModuleTable) : Act → Option Module
  | dispatch (.statement i) => i.statement.module? modules
  | _ => none

end Act

namespace Run

theorem gains_act (r : Run) (a : Act) :
    r.session.Gains (a.names r.session) (a.module? r.session.modules).toList (r.act a).session := by
  cases a with
  | dispatch d =>
    cases d with
    | construct line => exact .refl r.session
    | statement i =>
      have hitem := r.session.gains_runItem i
      rw [← session_runItem] at hitem
      exact hitem
  | catching failure binding => exact r.session.gains_assignAll _ _
  | report e => exact r.session.gains_write _

/-- The names that acts bind in turn. -/
def namesOf (r : Run) : List Act → List Text
  | [] => []
  | a :: rest => a.names r.session ++ (r.act a).namesOf rest

theorem gains_replay (r : Run) (acts : List Act) :
    r.session.Gains (r.namesOf acts) (acts.filterMap (Act.module? r.session.modules))
      (acts.foldl act r).session := by
  induction acts generalizing r with
  | nil => exact .refl r.session
  | cons a acts ih =>
    have ha := r.gains_act a
    have hrest := ih (r.act a)
    rw [ha.modules] at hrest
    have hmodules : (a :: acts).filterMap (Act.module? r.session.modules) =
        (a.module? r.session.modules).toList ++ acts.filterMap (Act.module? r.session.modules) := by
      cases h : a.module? r.session.modules <;> simp [h]
    rw [hmodules]
    exact ha.trans hrest

theorem mem_namesOf {r : Run} {acts : List Act} {x : Text} : x ∈ r.namesOf acts ↔
    ∃ earlier a later, acts = earlier ++ a :: later ∧ x ∈ a.names (earlier.foldl act r).session := by
  induction acts generalizing r with
  | nil => simp [namesOf]
  | cons a acts ih =>
    rw [namesOf, List.mem_append, ih]
    constructor
    · rintro (h | ⟨earlier, b, later, rfl, h⟩)
      · exact ⟨[], a, acts, rfl, h⟩
      · exact ⟨a :: earlier, b, later, rfl, h⟩
    · rintro ⟨earlier, b, later, heq, h⟩
      cases earlier with
      | nil =>
        obtain ⟨rfl, rfl⟩ := List.cons.inj heq
        exact Or.inl h
      | cons c earlier =>
        obtain ⟨rfl, rfl⟩ := List.cons.inj heq
        exact Or.inr ⟨earlier, b, later, rfl, h⟩

/-! ## Handlers -/

theorem exists_of_mem_actsOfItems {r : Run} {items : List Item} {a : Act}
    (h : a ∈ r.actsOfItems items) : ∃ i, a = .dispatch (.statement i) := by
  induction items generalizing r with
  | nil => cases h
  | cons i rest ih =>
    rw [actsOfItems] at h
    split at h
    · exact ⟨i, List.mem_singleton.mp h⟩
    · rcases List.mem_cons.mp h with rfl | h
      · exact ⟨i, rfl⟩
      · exact ih h

section

variable {r : Run} {failure : Failure} {binding : Option Text}

theorem catching_not_mem_actsOfItems (items : List Item) :
    .catching failure binding ∉ r.actsOfItems items := by
  intro hm
  obtain ⟨i, hi⟩ := exists_of_mem_actsOfItems hm
  cases hi

theorem catching_of_mem_actsOfBody {a : Attempt} (h : .catching failure binding ∈ r.actsOfBody a) :
    a.handler.isSome = true ∧ a.binding = binding := by
  rw [actsOfBody] at h
  split at h
  · exact absurd h (catching_not_mem_actsOfItems _)
  · rcases List.mem_append.mp h with h | h
    · exact absurd h (catching_not_mem_actsOfItems _)
    · rw [actsOfHandler] at h
      cases hh : a.handler with
      | none => simp [hh] at h
      | some items =>
        rw [hh] at h
        rcases List.mem_cons.mp h with h | h
        · exact ⟨rfl, (Act.catching.inj h).2.symm⟩
        · exact absurd h (catching_not_mem_actsOfItems _)

theorem catching_of_mem_actsOfAttempt {a : Attempt}
    (h : .catching failure binding ∈ r.actsOfAttempt a) :
    a.handler.isSome = true ∧ a.binding = binding := by
  rw [actsOfAttempt] at h
  rcases List.mem_cons.mp h with h | h
  · cases h
  · split at h
    · cases h
    · split at h
      · exact catching_of_mem_actsOfBody h
      · rcases List.mem_append.mp h with h | h
        · exact catching_of_mem_actsOfBody h
        · exact absurd h (catching_not_mem_actsOfItems _)

/-- A failure is bound for the handler of a construct, under the name that the construct gives it. -/
theorem catching_of_mem_acts {steps : List Step} (h : .catching failure binding ∈ r.acts steps) :
    ∃ a, .attempt a ∈ steps ∧ a.handler.isSome = true ∧ a.binding = binding := by
  have hreport : ∀ e : Option LineFailure,
      .catching failure binding ∉ (e.map Act.report).toList := by
    rintro (_ | e) <;> simp
  induction steps generalizing r with
  | nil => cases h
  | cons step steps ih =>
    rw [acts, List.mem_append] at h
    rcases h with h | h
    · cases step with
      | item i =>
        rcases List.mem_cons.mp h with h | h
        · cases h
        · exact absurd h (hreport _)
      | attempt a =>
        rcases List.mem_append.mp h with h | h
        · exact ⟨a, List.mem_cons_self, catching_of_mem_actsOfAttempt h⟩
        · exact absurd h (hreport _)
    · obtain ⟨a, ha, hcatch⟩ := ih h
      exact ⟨a, List.mem_cons_of_mem step ha, hcatch⟩

end

/-- The acts of a program are dispatches of statements and constructs that stand in its lines. -/
theorem says_of_mem_acts {lines : List Text} {r : Run} {d : Dispatch}
    (h : .dispatch d ∈ r.acts (Program.read lines)) : d.Says lines := by
  have hmem : d ∈ (r.acts (Program.read lines)).filterMap Act.dispatch? :=
    List.mem_filterMap.mpr ⟨_, h, rfl⟩
  obtain ⟨step, hstep, hd⟩ := List.mem_flatMap.mp ((dispatches_acts _ _).subset hmem)
  exact Program.says_of_mem_dispatches hstep hd

end Run

/-! ## Whole runs -/

/-- Names that have become more: the old ones are in front, and those behind them have `P`. -/
structure GrownBy (P : Text → Prop) (old new : List Text) : Prop where
  front : old <+: new
  mem : ∀ x, x ∈ new ↔ x ∈ old ∨ P x
  nodup : old.Nodup → new.Nodup

theorem grownBy_addNames (names new : List Text) : GrownBy (· ∈ new) names (addNames names new) where
  front := by
    obtain ⟨added, hadded, -⟩ := exists_addNames names new
    exact ⟨added, hadded.symm⟩
  mem _ := mem_addNames
  nodup h := nodup_addNames h new

theorem Session.gains_execute (s : Session) (source : Text) :
    let acts := Run.acts ⟨s, ⟨0, []⟩⟩ (Program.read (Text.lines source))
    s.Gains (Run.namesOf ⟨s, ⟨0, []⟩⟩ acts) (acts.filterMap (Act.module? s.modules))
      (s.execute source).2 := by
  intro acts
  have hgains := Run.gains_replay ⟨s, ⟨0, []⟩⟩ acts
  rw [Run.replay_acts] at hgains
  exact hgains

/-- What a run adds to a session, whatever the session and the text are. The acts are the run, and
their statements stand in the text. The names of the variables keep their places, and there are more of
them by those that an assignment whose value was found, or a failure that was handled, has bound. The
functions are those from before with the entries of the imported modules, so that a name means the last
of these entries that has it, or what it meant before. The names of the imported modules, by whatever
names they were imported, come behind those from before, each of them once. -/
theorem Session.execute_gains (s : Session) (source : Text) :
    let lines := Text.lines source
    let acts := Run.acts ⟨s, ⟨0, []⟩⟩ (Program.read lines)
    let s' := (s.execute source).2
    let imports := acts.filterMap (Act.module? s.modules)
    acts.foldl Run.act ⟨s, ⟨0, []⟩⟩ = ⟨s', (s.execute source).1⟩ ∧
    (∀ d, .dispatch d ∈ acts → d.Says lines) ∧
    (∀ failure binding, .catching failure binding ∈ acts →
      ∃ a, .attempt a ∈ Program.read lines ∧ a.handler.isSome = true ∧ a.binding = binding) ∧
    GrownBy (fun x => ∃ earlier a later, acts = earlier ++ a :: later ∧
        x ∈ a.names (earlier.foldl Run.act ⟨s, ⟨0, []⟩⟩).session) s.vars.keys s'.vars.keys ∧
    s'.registry = imports.foldl Registry.merge s.registry ∧
    (∀ name, s'.registry.lookup? name =
      ((imports.flatMap (·.entries)).reverse.find? (name ∈ ·.names)).or (s.registry.lookup? name)) ∧
    (∀ name, s.registry.contains name = true → s'.registry.contains name = true) ∧
    GrownBy (fun name => ∃ m ∈ imports, m.name = name) s.imported s'.imported := by
  intro lines acts s' imports
  have hgains : s.Gains (Run.namesOf ⟨s, ⟨0, []⟩⟩ acts) imports s' := s.gains_execute source
  have hlookup : ∀ name, s'.registry.lookup? name =
      ((imports.flatMap (·.entries)).reverse.find? (name ∈ ·.names)).or
        (s.registry.lookup? name) := by
    intro name
    rw [hgains.registry, Registry.foldl_merge, Registry.lookup?_registerAll]
  refine ⟨Run.replay_acts _ _, fun _ => Run.says_of_mem_acts, fun _ _ => Run.catching_of_mem_acts, ?_,
    hgains.registry, hlookup, ?_, ?_⟩
  · have hgrown := grownBy_addNames s.vars.keys (Run.namesOf ⟨s, ⟨0, []⟩⟩ acts)
    rw [← hgains.keys] at hgrown
    exact ⟨hgrown.front, fun x => by rw [hgrown.mem, Run.mem_namesOf], hgrown.nodup⟩
  · intro name hname
    rw [Registry.contains, hlookup, Option.isSome_or]
    rw [Registry.contains] at hname
    rw [hname, Bool.or_true]
  · have hgrown := grownBy_addNames s.imported (imports.map (·.name))
    rw [← hgains.imported] at hgrown
    exact ⟨hgrown.front, fun x => by rw [hgrown.mem, List.mem_map], hgrown.nodup⟩

end LineScript
