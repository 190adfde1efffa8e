import LineScript.Proofs.Builtin.Mutation
import LineScript.Proofs.Expression.Identifier
import LineScript.Session.Basic

/-!
What evaluating a text leaves as it is. A call changes at most the variable that its first argument
is, which holds the container that the function got and keeps its kind (`invoke_keeps`). So evaluation,
whether it succeeds or fails, keeps the functions, the modules and the names of the variables, and
changes no variable that is not the first argument of a call of `push`, `pop`, `insert`, `remove`,
`set` or `delete` (`eval_frame`).
-/

namespace LineScript

/-! ## Calls in a text -/

@[simp] theorem Operand.source_read (t : Text) : (read t).source = t := by
  rw [read_eq]
  split <;> rfl

theorem Operand.head?_readAll (args : Text) :
    (readAll args).head?.map source = (Text.splitArguments args).head? := by
  rw [readAll, List.head?_map, Option.map_map]
  cases (Text.splitArguments args).head? with
  | none => rfl
  | some t => exact congrArg some (source_read t)

/-- A text contains a call that may change the variable `x`: one of a function that changes its first
argument, which is `x`. It may stand among the arguments of calls of known functions. -/
inductive Registry.MayChange (r : Registry) (x : Text) : Text → Prop where
  | call {t name args : Text} {e : Entry} (split : splitCall? t = some (name, args))
      (known : r.lookup? name = some e) (changes : e.function.changes?.isSome = true)
      (receiver : (Text.splitArguments args).head? = some x) : r.MayChange x t
  | argument {t name args arg : Text} {e : Entry} (split : splitCall? t = some (name, args))
      (known : r.lookup? name = some e) (mem : arg ∈ Text.splitArguments args)
      (inside : r.MayChange x arg) : r.MayChange x t

/-! ## What is kept -/

/-- A session and a later one that has the same functions, modules and names of variables. Of the
variables those with `P` may have changed, and only arrays to arrays and objects to objects. -/
structure Session.Keeps (P : Text → Prop) (s s' : Session) : Prop where
  registry : s'.registry = s.registry
  imported : s'.imported = s.imported
  modules : s'.modules = s.modules
  names : s'.vars.keys = s.vars.keys
  changed : ∀ x, s'.vars.get? x ≠ s.vars.get? x →
    P x ∧ ∃ v v', s.vars.get? x = some v ∧ s'.vars.get? x = some v' ∧ v'.kind = v.kind ∧
      (v.kind = .array ∨ v.kind = .object)

namespace Session

section

variable {P Q : Text → Prop} {s s' s'' : Session}

theorem Keeps.rfl : s.Keeps P s where
  registry := Eq.refl _
  imported := Eq.refl _
  modules := Eq.refl _
  names := Eq.refl _
  changed _ hx := absurd (Eq.refl _) hx

theorem Keeps.mono (h : s.Keeps P s') (hPQ : ∀ x, P x → Q x) : s.Keeps Q s' where
  registry := h.registry
  imported := h.imported
  modules := h.modules
  names := h.names
  changed x hx := ⟨hPQ x (h.changed x hx).1, (h.changed x hx).2⟩

/-- No variable changes its kind. -/
theorem Keeps.kind (h : s.Keeps P s') (x : Text) :
    (s'.vars.get? x).map Value.kind = (s.vars.get? x).map Value.kind := by
  by_cases heq : s'.vars.get? x = s.vars.get? x
  · rw [heq]
  · obtain ⟨-, v, v', hv, hv', hkind, -⟩ := h.changed x heq
    rw [hv, hv', Option.map_some, Option.map_some, hkind]

theorem Keeps.trans (h : s.Keeps P s') (h' : s'.Keeps P s'') : s.Keeps P s'' where
  registry := h'.registry.trans h.registry
  imported := h'.imported.trans h.imported
  modules := h'.modules.trans h.modules
  names := h'.names.trans h.names
  changed x hx := by
    by_cases heq : s''.vars.get? x = s'.vars.get? x
    · -- The second part of the way leaves `x` alone, so the first has changed it.
      rw [heq] at hx ⊢
      exact h.changed x hx
    · obtain ⟨hP, v', v'', hv', hv'', hkind', hcontainer⟩ := h'.changed x heq
      have hkinds := h.kind x
      rw [hv'] at hkinds
      obtain ⟨v, hv, hkind⟩ := Option.map_eq_some_iff.mp hkinds.symm
      exact ⟨hP, v, v'', hv, hv'', hkind'.trans hkind.symm, hkind ▸ hcontainer⟩

/-- Setting a variable keeps all else, when it holds a container of the same kind. -/
theorem keeps_assign {x : Text} {v contents : Value} (hv : s.vars.get? x = some v)
    (hkind : contents.kind = v.kind) (hcontainer : v.kind = .array ∨ v.kind = .object) (hP : P x) :
    s.Keeps P (s.assign x contents) where
  registry := Eq.refl _
  imported := Eq.refl _
  modules := Eq.refl _
  names := by
    have hmem : x ∈ s.vars.keys := List.mem_map_of_mem (Entries.mem_of_get? hv)
    exact (Entries.keys_insert x contents s.vars).trans (if_pos hmem)
  changed y hy := by
    by_cases hyx : y = x
    · subst hyx
      exact ⟨hP, v, contents, hv, Entries.get?_insert_self y contents s.vars, hkind, hcontainer⟩
    · exact absurd (Entries.get?_insert_of_ne hyx contents s.vars) hy

end

/-! ## One call -/

/-- A function hands back a container of the kind of its first argument, so a call keeps what it
should if a variable that it stores into holds a value of that kind. -/
theorem invoke_keeps {s : Session} {e : Entry} {name : Text} {receiver : Option Text}
    {args : Arguments} (hreceiver : ∀ x v, receiver = some x → isIdentifier x = true →
      s.vars.get? x = some v → e.function.changes? = some (args.arg 0).kind →
        v.kind = (args.arg 0).kind) :
    s.Keeps (fun x => e.function.changes?.isSome = true ∧ receiver = some x)
      (s.invoke e name receiver args).2 := by
  have hupdate := Builtin.update_call e.function ⟨name, s.registry, args⟩ s.host
  unfold invoke
  generalize e.function.call ⟨name, s.registry, args⟩ s.host = o at hupdate
  have hhost : s.Keeps (fun x => e.function.changes?.isSome = true ∧ receiver = some x)
      { s with host := o.host } := ⟨rfl, rfl, rfl, rfl, fun _ hx => absurd rfl hx⟩
  refine hhost.trans ?_
  -- What is left is the store, which happens only if the name is bound.
  simp only [writeBack]
  split
  · next x contents hchange =>
    split
    · next hbound =>
      rw [Bool.and_eq_true] at hbound
      obtain ⟨v, hv⟩ := Option.isSome_iff_exists.mp hbound.2
      have hv' : ({ s with host := o.host } : Session).vars.get? x = some v := hv
      obtain ⟨hchanges, hkind⟩ := Builtin.kind_of_change? (hupdate.symm.trans hchange)
      have hsame : v.kind = (args.arg 0).kind := hreceiver x v rfl hbound.1 hv hchanges
      apply keeps_assign hv' (hkind.trans hsame.symm)
      · rw [hsame]
        exact Builtin.container_of_changes? hchanges
      · exact ⟨by rw [hchanges]; rfl, rfl⟩
    · exact .rfl
  · exact .rfl

/-! ## Operands and texts -/

theorem eval_eq (s : Session) (t : Text) :
    s.eval t =
      match splitCall? t with
      | none => (.ok (evaluate t s.vars), s)
      | some (name, args) =>
        match s.registry.lookup? name with
        | none => (.ok (evaluate t s.vars), s)
        | some e =>
          match s.evalOperands (Operand.readAll args) with
          | (.error failure, s) => (.error failure, s)
          | (.ok values, s) => s.invoke e name (Text.splitArguments args).head? values := by
  rw [eval, Operand.read_eq]
  cases splitCall? t with
  | none => rfl
  | some call =>
    obtain ⟨name, args⟩ := call
    cases hknown : s.registry.lookup? name with
    | none => simp only [evalOperand, hknown]
    | some e =>
      rcases heval : s.evalOperands (Operand.readAll args) with ⟨_ | values, s'⟩
      · simp only [evalOperand, hknown, heval]
      · simp only [evalOperand, hknown, heval, Operand.head?_readAll]

theorem eval_word {x : Text} (h : IsWord x) (s : Session) :
    s.eval x = (.ok (evaluate x s.vars), s) := by
  rw [eval_eq, h.splitCall?_eq]

/-- Arguments that begin with a name are the value of the name and those of the other arguments. -/
theorem evalOperands_identifier {x : Text} (h : isIdentifier x = true) (s : Session)
    (rest : List Operand) :
    s.evalOperands (Operand.read x :: rest) =
      match s.evalOperands rest with
      | (.error failure, s) => (.error failure, s)
      | (.ok values, s') => (.ok (evaluate x s.vars :: values), s') := by
  have hx : s.evalOperand (Operand.read x) = (.ok (evaluate x s.vars), s) :=
    eval_word (isWord_of_isIdentifier h) s
  rcases hrest : s.evalOperands rest with ⟨_ | values, s'⟩
  · simp only [evalOperands, hx, hrest]
  · simp only [evalOperands, hx, hrest]

theorem evalOperands_keeps_of {ts : List Text}
    (h : ∀ t ∈ ts, ∀ s : Session, s.Keeps (s.registry.MayChange · t) (s.eval t).2) (s : Session) :
    s.Keeps (fun x => ∃ t ∈ ts, s.registry.MayChange x t)
      (s.evalOperands (ts.map Operand.read)).2 := by
  induction ts generalizing s with
  | nil => exact .rfl
  | cons t ts ih =>
    have hfirst := (h t List.mem_cons_self s).mono
      (Q := fun x => ∃ t' ∈ t :: ts, s.registry.MayChange x t')
      fun x hx => ⟨t, List.mem_cons_self, hx⟩
    rw [eval] at hfirst
    simp only [List.map_cons, evalOperands]
    generalize s.evalOperand (Operand.read t) = first at hfirst
    obtain ⟨result, s'⟩ := first
    cases result with
    | error failure => exact hfirst
    | ok v =>
      -- The other texts find the same functions, so they contain the same calls.
      have hrest := ih (fun t' ht' => h t' (List.mem_cons_of_mem t ht')) s'
      rw [hfirst.registry] at hrest
      have hrest := hrest.mono (Q := fun x => ∃ t' ∈ t :: ts, s.registry.MayChange x t')
        fun x ⟨t', ht', hx⟩ => ⟨t', List.mem_cons_of_mem t ht', hx⟩
      have hboth := hfirst.trans hrest
      dsimp only at hboth ⊢
      generalize s'.evalOperands (ts.map Operand.read) = others at hboth ⊢
      obtain ⟨result, s''⟩ := others
      cases result <;> exact hboth

/-- A text that is no call changes nothing, and a call what its arguments and then the function may
change. -/
theorem eval_keeps (s : Session) (t : Text) : s.Keeps (s.registry.MayChange · t) (s.eval t).2 := by
  rw [eval_eq]
  cases hsplit : splitCall? t with
  | none => exact .rfl
  | some call =>
    obtain ⟨name, args⟩ := call
    dsimp only
    cases hknown : s.registry.lookup? name with
    | none => exact .rfl
    | some e =>
      have hargs : s.Keeps (s.registry.MayChange · t) (s.evalOperands (Operand.readAll args)).2 :=
        (evalOperands_keeps_of (fun arg _ s => eval_keeps s arg) s).mono
          fun x ⟨arg, hm, hx⟩ => .argument hsplit hknown hm hx
      dsimp only
      cases heval : s.evalOperands (Operand.readAll args) with
      | mk result s' =>
        rw [heval] at hargs
        cases result with
        | error failure => exact hargs
        | ok values =>
          refine hargs.trans ((invoke_keeps ?_).mono
            fun x ⟨hchanges, hreceiver⟩ => .call hsplit hknown hchanges hreceiver)
          intro x v hreceiver hx hv hchanges
          -- The first argument had the value of `x` before the others were evaluated, which may have
          -- changed it, but not its kind.
          obtain ⟨rest, hrest⟩ := List.head?_eq_some_iff.mp hreceiver
          rw [Operand.readAll, hrest, List.map_cons, evalOperands_identifier hx] at heval
          have hfirst : Arguments.arg values 0 = evaluate x s.vars := by
            split at heval
            · cases heval
            · cases heval
              rfl
          have hkinds := hargs.kind x
          rw [hv] at hkinds
          obtain ⟨v₀, hv₀, hkind⟩ := Option.map_eq_some_iff.mp hkinds.symm
          rw [hfirst] at hchanges ⊢
          rw [evaluate_container hx (Builtin.container_of_changes? hchanges) hv₀, hkind]
termination_by t.length
decreasing_by
  exact Nat.lt_of_le_of_lt (Text.length_le_of_mem_splitArguments ‹_›) (length_of_splitCall? hsplit)

theorem evalOperands_keeps (s : Session) (ts : List Text) :
    s.Keeps (fun x => ∃ t ∈ ts, s.registry.MayChange x t)
      (s.evalOperands (ts.map Operand.read)).2 :=
  evalOperands_keeps_of (fun t _ s => eval_keeps s t) s

/-- Evaluating a text, whether it succeeds or fails, keeps the functions, the modules and the names of
the variables in their order. It changes no variable but those that the text calls one of the functions
for that change their first argument, and leaves these what they are, an array or an object. -/
theorem eval_frame (s : Session) (t : Text) :
    (s.eval t).2.registry = s.registry ∧ (s.eval t).2.imported = s.imported ∧
      (s.eval t).2.modules = s.modules ∧ (s.eval t).2.vars.keys = s.vars.keys ∧
      ∀ x, (s.eval t).2.vars.get? x = s.vars.get? x ∨
        s.registry.MayChange x t ∧ ∃ v v', s.vars.get? x = some v ∧
          (s.eval t).2.vars.get? x = some v' ∧ v'.kind = v.kind ∧
          (v.kind = .array ∨ v.kind = .object) := by
  have hkeeps := eval_keeps s t
  refine ⟨hkeeps.registry, hkeeps.imported, hkeeps.modules, hkeeps.names, ?_⟩
  intro x
  by_cases hsame : (s.eval t).2.vars.get? x = s.vars.get? x
  · exact Or.inl hsame
  · exact Or.inr (hkeeps.changed x hsame)

end Session

end LineScript
