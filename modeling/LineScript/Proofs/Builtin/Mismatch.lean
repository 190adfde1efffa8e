import LineScript.Proofs.Builtin.Mutation

/-!
Arguments of the wrong kind. A call with an argument that the function finds fault with answers with it and
writes one warning; it does nothing else, and no other call warns. The five functions that are meant to
raise fail instead; every other function comes to a value on every list of arguments (`call_outcome`).
-/

namespace LineScript.Builtin

/-- A function that finds fault with an argument leaves its host as it was: numbers are drawn and time
passes only behind the checks. -/
theorem host_reply_of_misfit {f : Builtin} {c : BuiltinCall} {fault : String × Value}
    (hm : f.misfit? c.args = some fault) (h : Host) : (f.reply c h).2 = h := by
  cases f
  case randint =>
    rw [← mismatch?_reply randint c h] at hm
    simp only [reply, Numeric.randomInteger] at hm ⊢
    split at hm
    · rfl
    · split at hm
      · rfl
      · split at hm <;> cases hm
  case sleep =>
    rw [← mismatch?_reply sleep c h] at hm
    simp only [reply, Numeric.sleepFor] at hm ⊢
    split at hm
    · rfl
    · split at hm <;> cases hm
  case print | input | random | now | spawnPlayer | rollDice | attack | heal | saveGame | searchBuiltin =>
    cases hm
  all_goals rfl

/-- A call with an argument that the function finds fault with. -/
theorem call_misfit {f : Builtin} {c : BuiltinCall} {words : String} {got : Value}
    (hm : f.misfit? c.args = some (words, got)) (h : Host) :
    f.call c h = ⟨.ok got, none, h.write (mismatchWarning c.name words got)⟩ := by
  have hhost := host_reply_of_misfit hm h
  rw [← mismatch?_reply f c h] at hm
  unfold call
  generalize f.reply c h = answer at hm hhost
  obtain ⟨reply, after⟩ := answer
  obtain rfl : after = h := hhost
  cases reply with
  | mismatch _ _ =>
    cases hm
    rfl
  | value | update | failure => cases hm

/-- A function that is not meant to raise comes to a value. -/
theorem exists_result_call {f : Builtin} (hf : f.raises = false) (c : BuiltinCall) (h : Host) :
    ∃ v, (f.call c h).result = .ok v := by
  have hno := isFailure_reply hf c h
  unfold call
  split
  · exact ⟨_, rfl⟩
  · exact ⟨_, rfl⟩
  · exact ⟨_, rfl⟩
  · next e after he =>
    rw [he] at hno
    contradiction

/-- The functions that change a container, by its kind. -/
theorem mem_of_changes? {f : Builtin} {kind : Kind} (h : f.changes? = some kind) :
    f ∈ [push, pop, insert, remove] ∧ kind = .array ∨ f ∈ [set, delete] ∧ kind = .object := by
  cases f <;> cases h <;> simp

/-- What a call of a built-in function comes to, by whatever name it is called, on every list of
arguments, whatever surrounds it. A function that is not meant to raise comes to a value. One that finds
fault with an argument writes one warning, which has the name that was called and the kind of this
argument, hands this argument back as the result, and does nothing else; and only then does a function
answer with a mismatch, which is what warns. A container is handed back only by the functions that change
one, and only if the first argument is a container of their kind. -/
theorem call_outcome (f : Builtin) (c : BuiltinCall) (h : Host) :
    (f.raises = false → ∃ v, (f.call c h).result = .ok v) ∧
      (∀ words got, f.misfit? c.args = some (words, got) →
        let warning := "[warn] ".toList ++ c.name ++ " expects ".toList ++ words.toList ++
          ", got ".toList ++ got.kind.name
        f.call c h = ⟨.ok got, none, h.write warning⟩ ∧
          (h.console.silent = false →
            (f.call c h).host.console.lines = h.console.lines ++ [warning])) ∧
      (f.misfit? c.args = none → ∀ words got, (f.reply c h).1 ≠ .mismatch words got) ∧
      ∀ contents, (f.call c h).update = some contents →
        f ∈ [push, pop, insert, remove] ∧ (c.args.arg 0).kind = .array ∨
          f ∈ [set, delete] ∧ (c.args.arg 0).kind = .object := by
  refine ⟨fun hf => exists_result_call hf c h, fun words got hm => ?_, fun hm words got hr => ?_,
    fun contents hu => ?_⟩
  · have hcall := call_misfit hm h
    refine ⟨hcall, fun hloud => ?_⟩
    rw [hcall]
    exact Console.lines_write hloud _
  · rw [← mismatch?_reply f c h, hr] at hm
    contradiction
  · rw [update_call] at hu
    exact mem_of_changes? (kind_of_change? hu).1

/-- A random integer between one and nothing, asked for by a Chinese name: nothing is drawn, the bound
that is no number comes back, and the name and the kind of this bound are in the warning. Where an array
is appended to, there is nothing to find fault with, and the array is handed back. -/
theorem call_outcome_randint :
    let c : BuiltinCall := ⟨"随机整数".toList, .empty, [.num (.ofNat 1), .null]⟩
    let d : BuiltinCall := ⟨"append".toList, .empty, [.array [], .null]⟩
    let h : Host := ⟨.withAnswers [], .ofSeed 0, fun _ _ => [], 0⟩
    let warning := "[warn] 随机整数 expects two numbers, got null".toList
    (randint.raises = false ∧ ∃ v, (randint.call c h).result = .ok v) ∧
      (randint.misfit? c.args = some ("two numbers", .null) ∧ h.console.silent = false ∧
        randint.call c h = ⟨.ok .null, none, h.write warning⟩ ∧
        (randint.call c h).host.console.lines = [warning]) ∧
      (push.misfit? d.args = none ∧ ∀ words got, (push.reply d h).1 ≠ .mismatch words got) ∧
      (push.call d h).update = some (.array [.null]) ∧
      (push ∈ [push, pop, insert, remove] ∧ (d.args.arg 0).kind = .array ∨
        push ∈ [set, delete] ∧ (d.args.arg 0).kind = .object) := by
  intro c d h warning
  obtain ⟨hvalue, hwarned, -, -⟩ := call_outcome randint c h
  obtain ⟨-, -, hfine, hupdate⟩ := call_outcome push d h
  have hm : randint.misfit? c.args = some ("two numbers", .null) := rfl
  obtain ⟨hcall, hlines⟩ := hwarned "two numbers" .null hm
  have hwarning : "[warn] ".toList ++ c.name ++ " expects ".toList ++ "two numbers".toList ++
      ", got ".toList ++ Value.null.kind.name = warning := by decide +kernel
  rw [hwarning] at hcall hlines
  exact ⟨⟨rfl, hvalue rfl⟩, ⟨hm, rfl, hcall, hlines rfl⟩, ⟨rfl, hfine rfl⟩, rfl, hupdate _ rfl⟩

end LineScript.Builtin
