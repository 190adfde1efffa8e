import LineScript.Proofs.Builtin.Mutation
import LineScript.Proofs.Text.Occurrence

/-!
The laws of the functions on strings that look for one text in another. A separator is known by its text,
so it may be a value of any kind. `join` undoes `split`, `replace` is `join` with the new text behind
`split`, and `contains` says whether `split` cuts at all (`text_laws`).
-/

namespace LineScript.Builtin

open Textual

variable {t : Text} {sep : Value}

theorem split_yields (t : Text) (sep : Value) :
    split.Yields [.str t, sep] (.array ((Text.splitOn sep.display t).map .str)) none :=
  fun _ _ _ => rfl

/-- Strings are joined as they are, without quotes. -/
theorem join_yields (pieces : List Text) (sep : Value) :
    join.Yields [.array (pieces.map .str), sep] (.str (Text.joinWith sep.display pieces)) none := by
  have hdisplay : (pieces.map Value.str).map Value.display = pieces := by
    rw [List.map_map]
    exact List.map_id pieces
  intro name registry h
  have hreply : join.reply ⟨name, registry, [.array (pieces.map .str), sep]⟩ h =
      (.str (Text.joinWith sep.display ((pieces.map Value.str).map Value.display)), h) := rfl
  rw [hdisplay] at hreply
  simp only [call, hreply, Reply.str]

theorem replace_yields (t : Text) (sep new : Value) :
    replace.Yields [.str t, sep, new] (.str (Text.replace sep.display new.display t)) none :=
  fun _ _ _ => rfl

theorem contains_yields (t : Text) (sep : Value) :
    contains.Yields [.str t, sep] (.bool (Text.occursIn sep.display t)) none :=
  fun _ _ _ => rfl

/-- The laws of splitting and joining, of a string and a separator of any kind. The pieces joined with the
separator are the string, also when the separator is empty. What `replace` answers is the pieces joined
with the new text, or the string itself if the separator is empty. A separator that is not empty is
contained in the string exactly when it is part of it, which is when there is more than one piece. It is
contained in none of the pieces, and behind a piece stands the first occurrence from the start of the piece
on, so the string is cut from left to right. -/
theorem text_laws (t : Text) (sep : Value) :
    ∃ pieces : List Text, split.Yields [.str t, sep] (.array (pieces.map .str)) none ∧
      join.Yields [.array (pieces.map .str), sep] (.str t) none ∧
      (∀ new, ∃ replaced, replace.Yields [.str t, sep, new] (.str replaced) none ∧
        (sep.display = [] → replaced = t) ∧
        (sep.display ≠ [] → join.Yields [.array (pieces.map .str), new] (.str replaced) none)) ∧
      (sep.display ≠ [] → ∃ found, contains.Yields [.str t, sep] (.bool found) none ∧
        (found = true ↔ 1 < pieces.length) ∧ (found = true ↔ sep.display <:+: t) ∧
        (∀ piece ∈ pieces, contains.Yields [.str piece, sep] (.bool false) none) ∧
        ∀ piece ∈ pieces.dropLast, ¬ sep.display <:+: (piece ++ sep.display).dropLast) := by
  refine ⟨Text.splitOn sep.display t, split_yields t sep, ?_,
    fun new => ⟨_, replace_yields t sep new, fun hsep => dif_pos hsep, fun hsep => ?_⟩,
    fun hsep => ⟨_, contains_yields t sep, ?_, Text.occursIn_iff sep.display t,
      fun piece hpiece => ?_, fun piece => Text.not_infix_dropLast_of_mem_splitOn hsep⟩⟩
  · have hjoin := join_yields (Text.splitOn sep.display t) sep
    rwa [Text.joinWith_splitOn] at hjoin
  · rw [Text.replace_eq_joinWith hsep]
    exact join_yields _ new
  · rw [Text.occursIn_iff, Text.one_lt_length_splitOn hsep]
  · have hno : Text.occursIn sep.display piece = false := by
      rw [Bool.eq_false_iff, Ne, Text.occursIn_iff]
      exact Text.not_infix_of_mem_splitOn hsep hpiece
    exact hno ▸ contains_yields piece sep

/-- A number as separator, whose occurrences overlap: of three digits in a row the first two are cut out,
and behind a wide character the two at the end. -/
theorem text_laws_overlapping :
    let t := "111é11".toList
    let sep := Value.num (.ofNat 11)
    let pieces := [[], "1é".toList, []]
    sep.display ≠ [] ∧ split.Yields [.str t, sep] (.array (pieces.map .str)) none ∧
      join.Yields [.array (pieces.map .str), sep] (.str t) none ∧
      join.Yields [.array (pieces.map .str), .null] (.str "null1énull".toList) none ∧
      replace.Yields [.str t, sep, .null] (.str "null1énull".toList) none ∧
      contains.Yields [.str t, sep] (.bool true) none ∧
      contains.Yields [.str "1é".toList, sep] (.bool false) none := by
  intro t sep pieces
  have hsep : sep.display ≠ [] := by decide +kernel
  have hpieces : Text.splitOn sep.display t = pieces := by decide +kernel
  have hnull : Text.joinWith Value.null.display pieces = "null1énull".toList := by decide
  obtain ⟨ps, hsplit, hjoin, hreplace, hcontains⟩ := text_laws t sep
  obtain rfl : ps = pieces := by
    have hitems := Value.array.inj (hsplit.inj (split_yields t sep)).1
    rw [hpieces] at hitems
    exact (List.map_inj_right fun _ _ => Value.str.inj).mp hitems
  obtain ⟨replaced, hreplaced, -, hnew⟩ := hreplace .null
  obtain ⟨found, hfound, hmany, -, hnone, -⟩ := hcontains hsep
  obtain rfl : found = true := hmany.mpr (by decide)
  obtain rfl : replaced = "null1énull".toList := by
    rw [← hnull]
    exact Value.str.inj ((hnew hsep).inj (join_yields pieces .null)).1
  exact ⟨hsep, hsplit, hjoin, hnew hsep, hreplaced, hfound, hnone _ (by simp [pieces])⟩

end LineScript.Builtin
