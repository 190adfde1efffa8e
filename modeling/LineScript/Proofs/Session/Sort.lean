import LineScript.Proofs.Builtin.Sort
import LineScript.Proofs.Session.Receiver
import LineScript.Proofs.Session.Statements

/-!
Calls of `sort`. A function that only computes leaves a session as the evaluation of its further arguments
leaves it, whether it is called in an expression or as a statement (`CallsOn.eval`, `CallsOn.runCall`). So
the variable that `sort` is called on keeps its array, and the stable sort of it is only the answer
(`sort_order`).
-/

namespace LineScript.Session

open Builtin Container Value

/-- A text calls a function on a variable `x` with the value `v`, and with further arguments. -/
structure CallsOn (s : Session) (t : Text) (f : Builtin) (x : Text) (v : Value)
    (rest : List Text) : Prop where
  known : ∃ name args e, splitCall? t = some (name, args) ∧
    Text.splitArguments args = x :: rest ∧ s.registry.lookup? name = some e ∧ e.function = f
  isIdentifier : isIdentifier x = true
  unreserved : Expression.reserved? x = none
  bound : s.vars.get? x = some v

section

variable {s s' : Session} {t x : Text} {f : Builtin} {v result : Value} {rest : List Text}
  {values : Arguments}

theorem invoke_of_yields {e : Entry} (hyields : e.function.Yields values result none) (s : Session)
    (name : Text) (receiver : Option Text) :
    s.invoke e name receiver values = (.ok result, s) := by
  simp only [invoke, hyields name s.registry s.host]
  cases receiver <;> rfl

/-- A function that only computes changes nothing beside what its further arguments change. -/
theorem CallsOn.eval (h : s.CallsOn t f x v rest) (hyields : f.Yields (v :: values) result none)
    (hrest : s.evalOperands (rest.map Operand.read) = (.ok values, s')) :
    s.eval t = (.ok result, s') := by
  obtain ⟨name, args, e, hsplit, hargs, hknown, rfl⟩ := h.known
  have hall := evalOperands_receiver hargs h.isIdentifier h.unreserved h.bound
  rw [hrest] at hall
  simp only [eval_eq, hsplit, hknown, hall]
  exact invoke_of_yields hyields s' name _

/-- As a statement the call may show itself, which is no change of a variable. -/
theorem CallsOn.runCall (h : s.CallsOn t f x v rest) (hyields : f.Yields (v :: values) result none)
    (hrest : s.evalOperands (rest.map Operand.read) = (.ok values, s')) {name args : Text}
    (hsplit : splitCall? t = some (name, args)) :
    ∃ shown, s.runCall name args = (none, shown) ∧ shown.vars = s'.vars := by
  obtain ⟨name', args', e, hsplit', -, hknown, -⟩ := h.known
  rw [hsplit] at hsplit'
  obtain ⟨rfl, rfl⟩ := Prod.mk.inj (Option.some.inj hsplit')
  have hrun := runCall_eq hsplit hknown
  rw [h.eval hyields hrest] at hrun
  obtain ⟨_, _, -, hrun, -⟩ := hrun
  refine ⟨_, hrun, ?_⟩
  split <;> rfl

/-- Unless a call in the further arguments may change the variable, it keeps its value. -/
theorem CallsOn.get?_eq (h : s.CallsOn t f x v rest)
    (hrest : s.evalOperands (rest.map Operand.read) = (.ok values, s'))
    (hnone : ∀ arg ∈ rest, ¬ s.registry.MayChange x arg) : s'.vars.get? x = some v := by
  have hbound := (evalOperands_bound rest h.bound).2 hnone
  rwa [hrest] at hbound

end

/-- The answer of `sort` to an array of numbers other than NaN, or of elements of which none is a number,
whatever further arguments there are. It is the stable sort of the array, and the array has no other; to
this answer `sort` answers with it again. Nothing is handed back. So `sort` on a variable, in an expression
or as a statement, changes no variable beside what its further arguments change, and the variable keeps
its array if these do not change it. -/
theorem sort_order {xs : List Value} (hxs : Comparable xs) :
    ∃ ys, IsStableSort xs ys ∧ (∀ zs, IsStableSort xs zs → zs = ys) ∧
      (∀ more, sort.Yields (.array xs :: more) (.array ys) none ∧
        sort.Yields (.array ys :: more) (.array ys) none) ∧
      ∀ (s : Session) t x rest, s.CallsOn t .sort x (.array xs) rest →
        ∀ values s', s.evalOperands (rest.map Operand.read) = (.ok values, s') →
          s.eval t = (.ok (.array ys), s') ∧
          (∀ name args, splitCall? t = some (name, args) →
            ∃ shown, s.runCall name args = (none, shown) ∧ shown.vars = s'.vars) ∧
          ((∀ arg ∈ rest, ¬ s.registry.MayChange x arg) → s'.vars.get? x = some (.array xs)) := by
  have hsorted : IsStableSort xs (sorted xs) := isStableSort_sorted hxs.ordered
  refine ⟨sorted xs, hsorted, fun zs hzs => hsorted.unique hzs, fun more => ⟨sort_yields xs more, ?_⟩,
    fun s t x rest hcalls values s' hrest => ⟨hcalls.eval (sort_yields xs values) hrest,
      fun name args hsplit => hcalls.runCall (sort_yields xs values) hrest hsplit,
      hcalls.get?_eq hrest⟩⟩
  have hagain := sort_yields (sorted xs) more
  rwa [sorted_of_pairwise hsorted.ordered] at hagain

theorem lookup?_sort : Catalogue.coreRegistry.lookup? "sort".toList =
    some (Catalogue.entry "sort" ["排序"] .sort none) := by
  rw [Catalogue.lookup?_core]
  decide

/-- The zeros are equal and stay as they were, in front of two, and the variable keeps its order. -/
theorem sort_order_zeros :
    let zero := Value.num (.zero false)
    let minus := Value.num (.zero true)
    let two := Value.num (.ofNat 2)
    let xs := [two, minus, zero]
    let s : Session := { start [] ⟨.muted, .ofSeed 0, fun _ _ => [], 0⟩ with
      vars := [("x".toList, .array xs)] }
    Comparable xs ∧ s.CallsOn "sort(x)".toList .sort "x".toList (.array xs) [] ∧
      s.eval "sort(x)".toList = (.ok (.array [minus, zero, two]), s) ∧
      s.vars.get? "x".toList = some (.array xs) ∧
      sort.Yields [.array [minus, zero, two]] (.array [minus, zero, two]) none := by
  intro zero minus two xs s
  have hxs : Comparable xs := by
    left
    simp [xs, zero, minus, two, Value.kind, Binary64.ofNat_ne_nan, Binary64.zero]
  have hcalls : s.CallsOn "sort(x)".toList .sort "x".toList (.array xs) [] :=
    ⟨⟨"sort".toList, "x".toList, _, by decide, by decide, lookup?_sort, rfl⟩, by decide, by decide,
      rfl⟩
  have hsort : IsStableSort xs [minus, zero, two] := by
    have horder : minus.compare zero = .eq ∧ zero.compare minus = .eq ∧ minus.compare two = .lt ∧
        zero.compare two = .lt := by decide +kernel
    obtain ⟨hmz, hzm, hmt, hzt⟩ := horder
    have htm : two.compare minus = .gt := by rw [compare_swap minus two, hmt]; rfl
    have htz : two.compare zero = .gt := by rw [compare_swap zero two, hzt]; rfl
    refine ⟨List.perm_append_singleton two [minus, zero], ?_, ?_⟩
    · simp [hmz, hmt, hzt]
    · simp [xs, isAlike, compare_self, hmz, hzm, hmt, hzt, htm, htz]
  obtain ⟨ys, -, hunique, hyields, hcall⟩ := sort_order hxs
  obtain rfl := hunique _ hsort
  obtain ⟨heval, -, hkept⟩ := hcall s _ _ [] hcalls [] s rfl
  exact ⟨hxs, hcalls, heval, hkept (by simp), (hyields []).2⟩

end LineScript.Session
