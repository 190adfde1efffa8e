import LineScript.Proofs.Block.Regions

/-! Scans before a cut in the lines. A construct or a body that ends before the cut is found in the
lines before the cut alone (`scan_append`, `bodyEndAfter_append`). Where the scan of all lines looks
beyond the cut, the scan of the first lines ends at the cut, or before lines that say nothing. -/

namespace LineScript

/-- The lines from `start` up to `stop` say nothing. -/
def SilentBetween (lines : List Text) (start stop : Nat) : Prop :=
  ∀ i line, start ≤ i → i < stop → lines[i]? = some line → isSkippable line = true

theorem SilentBetween.empty (lines : List Text) {start stop : Nat} (h : stop ≤ start) :
    SilentBetween lines start stop := by
  intro i line hi hstop
  omega

theorem SilentBetween.extend {lines : List Text} {start i : Nat} {line : Text}
    (h : SilentBetween lines start i) (hline : lines[i]? = some line)
    (hs : isSkippable line = true) : SilentBetween lines start (i + 1) := by
  intro j line' hj hji hline'
  rcases Nat.lt_or_ge j i with hlt | hge
  · exact h j line' hj hlt hline'
  · have heq : j = i := by omega
    subst heq
    rw [hline] at hline'
    cases hline'
    exact hs

theorem SilentBetween.skippable {lines : List Text} {start : Nat}
    (h : SilentBetween lines start lines.length) :
    ∀ line ∈ lines.drop start, isSkippable line = true := by
  intro line hmem
  obtain ⟨k, hk⟩ := List.mem_iff_getElem?.mp hmem
  rw [List.getElem?_drop] at hk
  exact h (start + k) line (Nat.le_add_right start k) (List.getElem?_eq_some_iff.mp hk).1 hk

theorem drop_append_cons {lines : List Text} {i : Nat} {line : Text} (hline : lines[i]? = some line)
    (behind : List Text) : lines.drop i ++ behind = line :: (lines.drop (i + 1) ++ behind) := by
  obtain ⟨hi, rfl⟩ := List.getElem?_eq_some_iff.mp hline
  rw [List.drop_eq_getElem_cons hi, List.cons_append]

namespace Search

/-- A line before which a construct does not end, when its scan has come to the line `i`. -/
def floor (i : Nat) : Search → Nat
  | .close _ => i
  | .continuation _ resume => min resume i

theorem floor_le_succ (search : Search) (i : Nat) : search.floor i ≤ search.floor (i + 1) := by
  cases search with
  | close region => exact Nat.le_succ i
  | continuation before resume =>
    simp only [floor]
    omega

end Search

namespace Construct

variable {c : Construct} {search : Search} {i : Nat}

theorem floor_openRegion (c : Construct) (kind : BlockKind) (i : Nat) (line rest : Text) :
    (c.openRegion kind i line rest).2.floor (i + 1) = i + 1 := by
  cases hb : (BraceDepth.start.past rest).isClosed with
  | true =>
    rw [openRegion_inline hb]
    exact Nat.min_self (i + 1)
  | false =>
    rw [openRegion_open hb]
    rfl

/-- A step goes on with a search that ends behind the line, unless it passes the line over. -/
theorem ScanStep.floor_eq {line : Text} {c' : Construct} {search' : Search}
    (h : ScanStep i line c search c' (some search')) :
    isSkippable line = true ∧ c' = c ∧ search' = search ∨ search'.floor (i + 1) = i + 1 := by
  cases h with
  | skip hs => exact Or.inl ⟨hs, rfl, rfl⟩
  | chain => exact Or.inr (floor_openRegion _ _ _ _ _)
  | shut => exact Or.inr (Nat.min_self (i + 1))
  | inside => exact Or.inr rfl
  | follow => exact Or.inr (floor_openRegion _ _ _ _ _)

theorem floor_le_resumeAt (c : Construct) (search : Search) (i : Nat) (lines : List Text) :
    search.floor i ≤ (scanLines c search i lines).resumeAt := by
  induction lines generalizing c search i with
  | nil =>
    cases search with
    | close region => exact Nat.le_refl i
    | continuation before resume => exact Nat.min_le_left resume i
  | cons line rest ih =>
    obtain ⟨c', search', hstep⟩ := exists_scanStep i line c search
    rw [hstep.scanLines_eq]
    cases search' with
    | some search' =>
      have htail : search'.floor (i + 1) ≤ (scanLines c' search' (i + 1) rest).resumeAt :=
        ih c' search' (i + 1)
      refine Nat.le_trans ?_ htail
      rcases hstep.floor_eq with ⟨_, _, rfl⟩ | hfloor
      · exact search'.floor_le_succ i
      · rw [hfloor]
        cases search with
        | close region => exact Nat.le_succ i
        | continuation before resume =>
          exact Nat.le_trans (Nat.min_le_right resume i) (Nat.le_succ i)
    | none =>
      cases hstep with
      | cutOff => exact Nat.le_refl i
      | leave => exact Nat.min_le_left _ i

/-- A construct that ends where its scan is, or before, ends as if there were no more lines. -/
theorem scanLines_of_resumeAt_le {lines : List Text}
    (h : (scanLines c search i lines).resumeAt ≤ i) :
    scanLines c search i lines = scanLines c search i [] := by
  induction lines generalizing c search i with
  | nil => rfl
  | cons line rest ih =>
    obtain ⟨c', search', hstep⟩ := exists_scanStep i line c search
    rw [hstep.scanLines_eq] at h ⊢
    cases search' with
    | some search' =>
      simp only [proceed] at h ⊢
      have hfloor := floor_le_resumeAt c' search' (i + 1) rest
      rcases hstep.floor_eq with ⟨_, rfl, rfl⟩ | hbehind
      · cases search' with
        | close region =>
          simp only [Search.floor] at hfloor
          omega
        | continuation before resume => exact ih (by omega)
      · omega
    | none => cases hstep <;> rfl

/-! ## Scans before a cut -/

/-- What is known of a scan of the lines before a cut: on all lines it would go on to find `whole`,
and behind a closed region it has only passed lines that say nothing. -/
structure Foresees (lines behind : List Text) (whole : Construct) (i : Nat) (c : Construct)
    (search : Search) : Prop where
  goesOn : scanLines c search i (lines.drop i ++ behind) = whole
  silent : ∀ before resume, search = .continuation before resume → SilentBetween lines resume i

variable {lines behind : List Text} {whole : Construct}

theorem Foresees.step {line : Text} {c' : Construct} {search' : Search}
    (h : Foresees lines behind whole i c search) (hline : lines[i]? = some line)
    (hstep : ScanStep i line c search c' (some search')) :
    Foresees lines behind whole (i + 1) c' search' where
  goesOn := by
    have hgoes := h.goesOn
    rwa [drop_append_cons hline, hstep.scanLines_eq] at hgoes
  silent before resume hsearch := by
    rcases hstep.floor_eq with ⟨hs, _, rfl⟩ | hfloor
    · exact (h.silent before resume hsearch).extend hline hs
    · subst hsearch
      simp only [Search.floor] at hfloor
      exact .empty lines (by omega)

/-- What the lines before a cut show of a construct. They show the whole if it ends before the cut;
if they do not, then nothing more is said between the end that they show and the cut. -/
structure BeforeCut (lines : List Text) (whole c : Construct) : Prop where
  eq_of_le : whole.resumeAt ≤ lines.length → c = whole
  eq_or_silent : c = whole ∨ SilentBetween lines c.resumeAt lines.length

theorem Foresees.complete {line : Text} {c' : Construct}
    (h : Foresees lines behind whole i c search) (hline : lines[i]? = some line)
    (hstep : ScanStep i line c search c' none) : BeforeCut lines whole c' := by
  have hgoes := h.goesOn
  rw [drop_append_cons hline, hstep.scanLines_eq] at hgoes
  exact ⟨fun _ => hgoes, Or.inl hgoes⟩

theorem Foresees.runOut (h : Foresees lines behind whole lines.length c search) :
    BeforeCut lines whole (scanLines c search lines.length []) := by
  have hgoes := h.goesOn
  rw [List.drop_length, List.nil_append] at hgoes
  refine ⟨?_, Or.inr ?_⟩
  · intro hle
    rw [← hgoes] at hle ⊢
    exact (scanLines_of_resumeAt_le hle).symm
  · cases search with
    | close region => exact .empty lines (Nat.le_refl _)
    | continuation before resume => exact h.silent before resume rfl

/-- The construct in the lines before a cut, and in all lines. -/
theorem scan_append {start : Nat} (h : start < lines.length) (behind : List Text) :
    BeforeCut lines (scan (lines ++ behind) start) (scan lines start) := by
  have hline : lines[start]? = some lines[start] := List.getElem?_eq_getElem h
  have hline' : (lines ++ behind)[start]? = some lines[start] := by
    rw [List.getElem?_append_left h, hline]
  have hdrop : (lines ++ behind).drop (start + 1) = lines.drop (start + 1) ++ behind :=
    List.drop_append_of_le_length h
  rw [scan_eq_scanFrom hline, scan_eq_scanFrom hline', hdrop, scanFrom, scanFrom]
  generalize ((Opener.read? lines[start]).map (·.rest)).getD [] = rest
  have hfloor := floor_openRegion (openedAt start) .tryBlock start lines[start] rest
  generalize (openedAt start).openRegion .tryBlock start lines[start] rest = opened at hfloor ⊢
  obtain ⟨c, search⟩ := opened
  refine scanLines_invariant (P := Foresees lines behind _)
    (fun hline h hstep => h.complete hline hstep) (fun hline h hstep => h.step hline hstep)
    Foresees.runOut h ⟨rfl, ?_⟩
  rintro before resume rfl
  simp only [Search.floor] at hfloor
  exact .empty lines (by omega)

end Construct

/-! ## Bodies that are skipped -/

theorem le_bodyEndFrom (d : BraceDepth) (i : Nat) (lines : List Text) :
    i ≤ bodyEndFrom d i lines := by
  induction lines generalizing d i with
  | nil => exact Nat.le_refl i
  | cons line rest ih =>
    have htail : ∀ d, i ≤ bodyEndFrom d (i + 1) rest :=
      fun d => Nat.le_trans (Nat.le_succ i) (ih d (i + 1))
    rw [bodyEndFrom]
    split
    · exact htail d
    · split
      · exact Nat.le_refl i
      · split
        · exact Nat.le_succ i
        · exact htail _

/-- A body of which the lines before a cut do not hold the end goes on to the cut. -/
theorem bodyEndFrom_append (d : BraceDepth) (i : Nat) (lines behind : List Text) :
    bodyEndFrom d i lines = min (bodyEndFrom d i (lines ++ behind)) (i + lines.length) := by
  induction lines generalizing d i with
  | nil => exact (Nat.min_eq_right (le_bodyEndFrom d i behind)).symm
  | cons line rest ih =>
    have hlength : i + (line :: rest).length = i + 1 + rest.length := by
      rw [List.length_cons]
      omega
    rw [List.cons_append, bodyEndFrom, bodyEndFrom, hlength]
    split
    · exact ih d (i + 1)
    · split
      · omega
      · split
        · omega
        · exact ih _ (i + 1)

theorem lt_bodyEndAfter (i : Nat) (header : Text) (rest : List Text) :
    i < bodyEndAfter i header rest := by
  simp only [bodyEndAfter]
  split
  · exact Nat.lt_succ_self i
  · exact le_bodyEndFrom _ (i + 1) rest

theorem bodyEndAfter_append (i : Nat) (header : Text) (rest behind : List Text) :
    bodyEndAfter i header rest =
      min (bodyEndAfter i header (rest ++ behind)) (i + 1 + rest.length) := by
  simp only [bodyEndAfter]
  split
  · omega
  · exact bodyEndFrom_append _ (i + 1) rest behind

end LineScript
