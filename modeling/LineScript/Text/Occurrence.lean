import LineScript.Text.Basic

/-!
Occurrences of one text in another, found from left to right and without overlap. Splitting and
replacing both go from cut to cut, so they mean the same occurrences.
-/

namespace LineScript.Text

/-- Cuts the text at the first occurrence of `sep`: what is before it, and what is after it. -/
def cut? (sep : Text) : Text → Option (Text × Text)
  | [] => if sep.isEmpty then some ([], []) else none
  | c :: rest =>
    match stripPrefix? sep (c :: rest) with
    | some after => some ([], after)
    | none => (cut? sep rest).map fun (before, after) => (c :: before, after)

theorem cut?_append {sep t before after : Text} (h : cut? sep t = some (before, after)) :
    t = before ++ sep ++ after := by
  induction t generalizing before with
  | nil =>
    simp only [cut?] at h
    split at h
    · next he =>
      simp at h
      simp_all
    · simp at h
  | cons c rest ih =>
    simp only [cut?] at h
    split at h
    · next hp =>
      simp at h
      obtain ⟨rfl, rfl⟩ := h
      simpa using stripPrefix?_eq_some.mp hp
    · simp only [Option.map_eq_some_iff, Prod.mk.injEq] at h
      obtain ⟨⟨b, a⟩, hc, rfl, rfl⟩ := h
      simp [ih hc]

theorem length_of_cut? {sep t before after : Text} (hs : sep ≠ [])
    (h : cut? sep t = some (before, after)) : after.length < t.length := by
  have hpos : 0 < sep.length := List.length_pos_iff.mpr hs
  rw [cut?_append h]
  simp only [List.length_append]
  omega

/-- Whether `sep` occurs in the text; the empty text occurs in every text. -/
def occursIn (sep t : Text) : Bool := (cut? sep t).isSome

/-- The pieces between the occurrences of a text that is not empty. -/
def splitAtEach (sep : Text) (hs : sep ≠ []) (t : Text) : List Text :=
  match _h : cut? sep t with
  | none => [t]
  | some (before, after) => before :: splitAtEach sep hs after
termination_by t.length
decreasing_by exact length_of_cut? hs _h

/-- The pieces between the occurrences of `sep`. The empty text occurs before every character and at
the end, so it cuts off an empty piece at either end. -/
def splitOn (sep t : Text) : List Text :=
  if hs : sep = [] then [] :: t.map (fun c => [c]) ++ [[]] else splitAtEach sep hs t

/-- The text with every occurrence of a text that is not empty replaced. -/
def replaceEach (sep : Text) (hs : sep ≠ []) (new t : Text) : Text :=
  match _h : cut? sep t with
  | none => t
  | some (before, after) => before ++ new ++ replaceEach sep hs new after
termination_by t.length
decreasing_by exact length_of_cut? hs _h

/-- The text with every occurrence of `sep` replaced; nothing is replaced when `sep` is empty. -/
def replace (sep new t : Text) : Text :=
  if hs : sep = [] then t else replaceEach sep hs new t

end LineScript.Text
