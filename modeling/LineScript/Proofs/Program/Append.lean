import LineScript.Proofs.Block.Prefix
import LineScript.Proofs.Program.Relaid

/-! The outline of lines that are put together from two parts. If no construct and no body that
begins at the top level of the first part goes on into the second (`SplitsAt`), the outline is that
of the first part and behind it that of the second, with its numbers moved on by the number of lines
before (`read_append`). -/

namespace LineScript

namespace Program

/-! ## Where reading comes -/

/-- The lines to which the reading of a program comes at its top level. -/
inductive Reaches (lines : List Text) : Nat → Prop where
  | start : Reaches lines 0
  | skip {i : Nat} {line : Text} {rest : List Text} (h : Reaches lines i)
      (hdrop : lines.drop i = line :: rest) (hs : isSkippable line = true) : Reaches lines (i + 1)
  | next {i : Nat} {line : Text} {rest : List Text} (h : Reaches lines i)
      (hdrop : lines.drop i = line :: rest) (hs : isSkippable line = false) :
      Reaches lines (next i line rest (Statement.classify line.trim))

/-- No try construct, no declaration and no region without a try that begins at the top level before
the line `n` ends behind it. -/
def SplitsAt (lines : List Text) (n : Nat) : Prop :=
  ∀ i line, i < n → Reaches lines i → lines[i]? = some line → isSkippable line = false →
    match Statement.classify line.trim with
    | .tryOpener => (Construct.scan lines i).resumeAt ≤ n
    | .declaration .. => bodyEnd lines i ≤ n
    | .orphan _ => bodyEnd lines i ≤ n
    | _ => True

variable {lines behind rest : List Text} {i stop : Nat} {line : Text}

theorem lt_next (i : Nat) (line : Text) (rest : List Text) (statement : Statement) :
    i < next i line rest statement := by
  cases statement with
  | tryOpener =>
    have hdrop : (List.replicate i [] ++ line :: rest).drop i = line :: rest :=
      List.drop_left' List.length_replicate
    obtain ⟨hi, hscan⟩ := Construct.scan_of_drop hdrop
    obtain ⟨_, hlow, _⟩ := Construct.complete_scan hi
    rwa [hscan] at hlow
  | declaration keyword signature => exact lt_bodyEndAfter i line rest
  | orphan kind => exact lt_bodyEndAfter i line rest
  | _ => exact Nat.lt_succ_self i

/-- At a line to which reading comes, the steps from there on are left of the program. -/
theorem Reaches.exists_earlier (h : Reaches lines i) :
    ∃ earlier, read lines = earlier ++ readFrom i (lines.drop i) := by
  induction h with
  | start => exact ⟨[], rfl⟩
  | skip h hdrop hs ih =>
    obtain ⟨earlier, hread⟩ := ih
    refine ⟨earlier, ?_⟩
    rw [hread, hdrop, readFrom, if_pos hs, drop_of_drop_eq_cons hdrop 0, List.drop_zero]
  | @next i line rest h hdrop hs ih =>
    obtain ⟨earlier, hread⟩ := ih
    have hlt := lt_next i line rest (Statement.classify line.trim)
    by_cases hc : Statement.classify line.trim = .structural
    · refine ⟨earlier, ?_⟩
      rw [hread, hdrop, readFrom, if_neg (by simp [hs]), hc]
      exact congrArg (earlier ++ readFrom (i + 1) ·) (drop_of_drop_eq_cons hdrop 0).symm
    · refine ⟨earlier ++ [stepAt i line rest], ?_⟩
      have hnumber : i + 1 + (Program.next i line rest (Statement.classify line.trim) - (i + 1)) =
          Program.next i line rest (Statement.classify line.trim) := by omega
      rw [hread, hdrop, readFrom_cons hs hc, ← drop_of_drop_eq_cons hdrop, hnumber,
        List.append_assoc, List.singleton_append]

theorem SplitsAt.next_le {n : Nat} (h : SplitsAt lines n) (hi : i < n) (hr : Reaches lines i)
    (hdrop : lines.drop i = line :: rest) (hs : isSkippable line = false) :
    next i line rest (Statement.classify line.trim) ≤ n := by
  have hline : lines[i]? = some line := by rw [← List.head?_drop, hdrop, List.head?_cons]
  have hsplit := h i line hi hr hline hs
  have hbody : bodyEnd lines i = bodyEndAfter i line rest := by rw [bodyEnd, hdrop]
  obtain ⟨_, hscan⟩ := Construct.scan_of_drop hdrop
  cases hc : Statement.classify line.trim <;> simp only [hc] at hsplit
  case tryOpener => rwa [hscan] at hsplit
  case declaration => rwa [hbody] at hsplit
  case orphan => rwa [hbody] at hsplit
  all_goals exact hi

/-- Where reading goes on from the line numbered `i`. -/
def following (lines : List Text) (i : Nat) : Nat :=
  match lines.drop i with
  | [] => i
  | line :: rest =>
    if isSkippable line then i + 1 else next i line rest (Statement.classify line.trim)

theorem Reaches.eq_following (h : Reaches lines i) :
    i = 0 ∨ ∃ j, Reaches lines j ∧ i = following lines j ∧ j < i := by
  cases h with
  | start => exact Or.inl rfl
  | skip h hdrop hs =>
    exact Or.inr ⟨_, h, by simp only [following, hdrop, hs, ↓reduceIte], Nat.lt_succ_self _⟩
  | next h hdrop hs =>
    exact Or.inr ⟨_, h, by simp only [following, hdrop, hs, Bool.false_eq_true, ↓reduceIte],
      lt_next _ _ _ _⟩

/-- Between a line and the one where reading goes on from it, reading comes to none. -/
theorem Reaches.following_le {n : Nat} (hi : Reaches lines i) (hn : Reaches lines n) (hlt : i < n) :
    following lines i ≤ n := by
  induction hsum : i + n using Nat.strongRecOn generalizing i n with
  | ind sum ih =>
    obtain rfl | ⟨m, hm, hnm, hmn⟩ := hn.eq_following
    · omega
    rcases Nat.lt_trichotomy i m with him | rfl | hmi
    · have hle := ih (i + m) (by omega) hi hm him rfl
      omega
    · exact Nat.le_of_eq hnm.symm
    · have hle := ih (m + i) (by omega) hm hi hmi rfl
      omega

/-- Lines can be split where reading comes to. -/
theorem Reaches.splitsAt {n : Nat} (hn : Reaches lines n) : SplitsAt lines n := by
  intro i line hi hr hline hs
  obtain ⟨hlength, heq⟩ := List.getElem?_eq_some_iff.mp hline
  have hdrop : lines.drop i = line :: lines.drop (i + 1) := by
    rw [List.drop_eq_getElem_cons hlength, heq]
  have hle := hr.following_le hn hi
  have hscan := Construct.scan_eq_scanFrom hline
  simp only [following, hdrop, hs, Bool.false_eq_true, ↓reduceIte] at hle
  cases hc : Statement.classify line.trim <;> simp only [hc] at hle
  case tryOpener => rwa [hscan]
  case declaration => rwa [bodyEnd, hdrop]
  case orphan => rwa [bodyEnd, hdrop]
  all_goals trivial

/-! ## Lines before a cut -/

/-- Where a statement leads on all lines, and where it leads on the lines before a cut. -/
structure NextBeforeCut (lines : List Text) (whole alone : Nat) : Prop where
  le_length : alone ≤ lines.length
  eq_of_le : whole ≤ lines.length → alone = whole
  eq_or_silent : alone = whole ∨ SilentBetween lines alone lines.length

theorem length_of_drop_eq_cons (hdrop : lines.drop i = line :: rest) :
    i + 1 + rest.length = lines.length := by
  have h := congrArg List.length hdrop
  rw [List.length_drop, List.length_cons] at h
  omega

theorem drop_append_of_drop (hdrop : lines.drop i = line :: rest) (behind : List Text) :
    (lines ++ behind).drop i = line :: (rest ++ behind) := by
  have hlength := length_of_drop_eq_cons hdrop
  rw [List.drop_append_of_le_length (by omega), hdrop, List.cons_append]

theorem nextBeforeCut (hdrop : lines.drop i = line :: rest) (behind : List Text)
    (statement : Statement) :
    NextBeforeCut lines (next i line (rest ++ behind) statement) (next i line rest statement) := by
  obtain ⟨hi, hscan⟩ := Construct.scan_of_drop hdrop
  have hlength := length_of_drop_eq_cons hdrop
  have hbody : NextBeforeCut lines (bodyEndAfter i line (rest ++ behind))
      (bodyEndAfter i line rest) := by
    have happend := bodyEndAfter_append i line rest behind
    rw [hlength] at happend
    refine ⟨by omega, by omega, ?_⟩
    rcases Nat.le_total (bodyEndAfter i line (rest ++ behind)) lines.length with hle | hle
    · exact Or.inl (by omega)
    · exact Or.inr (.empty lines (by omega))
  cases statement with
  | tryOpener =>
    obtain ⟨_, hscan'⟩ := Construct.scan_of_drop (drop_append_of_drop hdrop behind)
    have hcut := Construct.scan_append hi behind
    obtain ⟨_, _, hhigh⟩ := Construct.complete_scan hi
    rw [hscan, hscan'] at hcut
    rw [hscan] at hhigh
    refine ⟨hhigh, fun hle => congrArg Construct.resumeAt (hcut.eq_of_le hle), ?_⟩
    exact hcut.eq_or_silent.imp (congrArg Construct.resumeAt) id
  | declaration keyword signature => exact hbody
  | orphan kind => exact hbody
  | _ => exact ⟨hi, fun _ => rfl, Or.inl rfl⟩

/-! ## Bodies -/

theorem itemsUpTo_of_le (h : stop ≤ i) (lines : List Text) : itemsUpTo stop i lines = [] := by
  cases lines with
  | nil => rw [itemsUpTo]
  | cons line rest => rw [itemsUpTo, if_pos h]

theorem itemsUpTo_of_skippable (stop i : Nat) {lines : List Text}
    (h : ∀ line ∈ lines, isSkippable line = true) : itemsUpTo stop i lines = [] := by
  induction lines generalizing i with
  | nil => rw [itemsUpTo]
  | cons line rest ih =>
    rw [itemsUpTo, if_pos (h line (by simp))]
    split
    · rfl
    · exact ih (i + 1) fun l hl => h l (by simp [hl])

/-- Statements before a cut are found in the lines before the cut alone. -/
theorem itemsUpTo_append (hstop : stop ≤ lines.length) (i : Nat) (behind : List Text) :
    itemsUpTo stop i (lines.drop i ++ behind) = itemsUpTo stop i (lines.drop i) := by
  generalize hdrop : lines.drop i = before
  fun_induction itemsUpTo stop i before with
  | case1 i => exact itemsUpTo_of_le (Nat.le_trans hstop (List.drop_eq_nil_iff.mp hdrop)) behind
  | case2 i line rest hle => exact itemsUpTo_of_le hle _
  | case3 i line rest hlt hs ih =>
    rw [List.cons_append, itemsUpTo, if_neg hlt, if_pos hs, ih (drop_of_drop_eq_cons hdrop 0)]
  | case4 i line rest hlt hs hc ih =>
    rw [List.cons_append, itemsUpTo, if_neg hlt, if_neg hs, hc, ih (drop_of_drop_eq_cons hdrop 0)]
  | case5 i line rest hlt hs hc skipped ih =>
    have hs' : isSkippable line = false := by simpa using hs
    have hcut := nextBeforeCut hdrop behind (Statement.classify line.trim)
    have hlow := lt_next i line rest (Statement.classify line.trim)
    have htail := drop_of_drop_eq_cons hdrop skipped
    have hlength := length_of_drop_eq_cons hdrop
    rw [List.cons_append, itemsUpTo_cons hlt hs' hc]
    congr 1
    rcases Nat.lt_or_ge lines.length
        (next i line (rest ++ behind) (Statement.classify line.trim)) with hgt | hle
    · -- The statement leads beyond the cut, and with it beyond `stop`.
      have hbeyond : stop ≤ i + 1 +
          (next i line (rest ++ behind) (Statement.classify line.trim) - (i + 1)) := by omega
      have hsilent : ∀ l ∈ rest.drop skipped, isSkippable l = true := by
        rcases hcut.eq_or_silent with heq | hsilent
        · have hle := hcut.le_length
          omega
        · have hnext : i + 1 + skipped = next i line rest (Statement.classify line.trim) := by
            omega
          rw [← htail, hnext]
          exact hsilent.skippable
      rw [itemsUpTo_of_le hbeyond, itemsUpTo_of_skippable _ _ hsilent]
    · rw [← hcut.eq_of_le hle]
      have hskip : skipped ≤ rest.length := by
        have hle := hcut.le_length
        omega
      rw [List.drop_append_of_le_length hskip]
      exact ih htail

/-- The body of a region before a cut is found in the lines before the cut alone. -/
theorem regionItems_append {start : Nat} {region : Region}
    (hp : region.Placed lines start lines.length) (behind : List Text) :
    regionItems start (lines.drop start ++ behind) region =
      regionItems start (lines.drop start) region := by
  have hstart : region.start ≤ lines.length := Nat.le_trans hp.start_le_stop hp.stop_le
  have hskip : region.start - start ≤ (lines.drop start).length := by
    rw [List.length_drop]
    omega
  have hbehind : (lines.drop start).drop (region.start - start) = lines.drop region.start := by
    rw [List.drop_drop, Nat.add_sub_cancel' hp.start_le]
  simp only [regionItems, List.drop_append_of_le_length hskip, hbehind]
  by_cases hinline : region.inline = true
  · obtain ⟨_, line, _, hline, _⟩ := hp.opener hinline
    rw [if_pos hinline, if_pos hinline, drop_append_cons hline, List.head?_cons, List.head?_drop,
      hline]
  · rw [if_neg hinline, if_neg hinline]
    exact itemsUpTo_append hp.stop_le region.start behind

/-! ## Steps -/

theorem attemptOf_append (hi : i < lines.length) (behind : List Text) :
    attemptOf i (lines.drop i ++ behind) (Construct.scan lines i) =
      attemptOf i (lines.drop i) (Construct.scan lines i) := by
  obtain ⟨hscanned, _, hhigh⟩ := Construct.complete_scan hi
  have hregion : ∀ region ∈ (Construct.scan lines i).regions,
      regionItems i (lines.drop i ++ behind) region = regionItems i (lines.drop i) region :=
    fun region hr => regionItems_append ((hscanned.placed region hr).mono hhigh) behind
  generalize Construct.scan lines i = c at hregion
  have hoption : ∀ slot : Option Region, (∀ region ∈ slot, region ∈ c.regions) →
      slot.map (regionItems i (lines.drop i ++ behind)) = slot.map (regionItems i (lines.drop i)) :=
    fun slot hslot => Option.map_congr fun region hr => hregion region (hslot region hr)
  rw [attemptOf, attemptOf, hregion c.tryRegion (by simp [Construct.regions]),
    hoption c.catchRegion fun region hr => by simp_all [Construct.regions],
    hoption c.finallyRegion fun region hr => by simp_all [Construct.regions]]

theorem stepAt_append (hdrop : lines.drop i = line :: rest) (behind : List Text)
    (hle : next i line (rest ++ behind) (Statement.classify line.trim) ≤ lines.length) :
    stepAt i line (rest ++ behind) = stepAt i line rest := by
  obtain ⟨hi, hscan⟩ := Construct.scan_of_drop hdrop
  obtain ⟨_, hscan'⟩ := Construct.scan_of_drop (drop_append_of_drop hdrop behind)
  unfold stepAt
  split
  · next hc =>
    rw [hc, next, ← hscan'] at hle
    have hsame := (Construct.scan_append hi behind).eq_of_le hle
    have hattempt := attemptOf_append hi behind
    rw [hdrop, List.cons_append] at hattempt
    rw [← hscan', ← hsame, hattempt, hscan]
  · rfl

theorem readFrom_append (hsplit : SplitsAt (lines ++ behind) lines.length) (hi : i ≤ lines.length)
    (hr : Reaches (lines ++ behind) i) :
    readFrom i (lines.drop i ++ behind) =
      readFrom i (lines.drop i) ++ readFrom lines.length behind := by
  generalize hdrop : lines.drop i = before
  fun_induction readFrom i before with
  | case1 i =>
    have hend : i = lines.length := Nat.le_antisymm hi (List.drop_eq_nil_iff.mp hdrop)
    rw [hend]
    rfl
  | case2 i line rest hs ih =>
    have hlength := length_of_drop_eq_cons hdrop
    have hnext := hr.skip (drop_append_of_drop hdrop behind) hs
    rw [List.cons_append, readFrom, if_pos hs]
    exact ih (by omega) hnext (drop_of_drop_eq_cons hdrop 0)
  | case3 i line rest hs hc ih =>
    have hlength := length_of_drop_eq_cons hdrop
    have hnext := hr.next (drop_append_of_drop hdrop behind) (by simpa using hs)
    rw [hc] at hnext
    rw [List.cons_append, readFrom, if_neg hs, hc]
    exact ih (by omega) hnext (drop_of_drop_eq_cons hdrop 0)
  | case4 i line rest hs hc skipped step ih =>
    have hs' : isSkippable line = false := by simpa using hs
    have hlength := length_of_drop_eq_cons hdrop
    have hdrop' := drop_append_of_drop hdrop behind
    -- The step ends before the cut, so the lines before the cut show the whole of it.
    have hle := hsplit.next_le (by omega) hr hdrop' hs'
    have hsame := (nextBeforeCut hdrop behind _).eq_of_le hle
    have hlow := lt_next i line rest (Statement.classify line.trim)
    have hskip : skipped ≤ rest.length := by omega
    have hreach : Reaches (lines ++ behind) (i + 1 + skipped) := by
      have hnext := hr.next hdrop' hs'
      rwa [← hsame, show next i line rest _ = i + 1 + skipped by omega] at hnext
    rw [List.cons_append, readFrom_cons hs' hc, stepAt_append hdrop behind hle, ← hsame,
      List.drop_append_of_le_length hskip, List.cons_append]
    congr 1
    exact ih (by omega) hreach (drop_of_drop_eq_cons hdrop skipped)

/-! ## Lines behind a cut -/

theorem relaid_blank (n : Nat) (lines : List Text) :
    Relaid lines (List.replicate n [] ++ lines) := by
  induction n with
  | zero =>
    induction lines with
    | nil => exact .nil
    | cons line rest ih => exact .keep rfl ih
  | succ n ih =>
    rw [List.replicate_succ, List.cons_append]
    exact .insert (by decide) ih

theorem readFrom_blank (i n : Nat) (lines : List Text) :
    readFrom i (List.replicate n [] ++ lines) = readFrom (i + n) lines := by
  induction n generalizing i with
  | zero => rfl
  | succ n ih =>
    rw [List.replicate_succ, List.cons_append, readFrom, if_pos (by decide), ih]
    congr 1
    omega

theorem place_blank (n m : Nat) (lines : List Text) :
    place (List.replicate n [] ++ lines) m = n + place lines m := by
  induction n with
  | zero => simp
  | succ n ih =>
    have hblank : isSkippable [] = true := by decide
    simp only [List.replicate_succ, List.cons_append, place, hblank, ↓reduceIte, ih]
    omega

/-- Lines behind `n` others are read as by themselves, but for their numbers. They are read as
behind `n` blank lines, which is another layout of them. -/
theorem readFrom_eq_read (n : Nat) (lines : List Text) :
    readFrom n lines = (read lines).map (·.renumber (n + ·)) := by
  have hcarry : ∀ m, Says lines m → carry lines (List.replicate n [] ++ lines) m = n + m := by
    rintro _ ⟨i, line, rfl, hline, hs⟩
    rw [carry, place_blank, Nat.add_sub_cancel, place_rank hline hs, Nat.add_assoc]
  have hread := read_relaid (relaid_blank n lines)
  rw [read, readFrom_blank, Nat.zero_add] at hread
  rw [hread]
  refine List.map_congr_left fun step hstep => Step.renumber_congr fun m hm => ?_
  exact hcarry m (says_of_mem_read hstep hm)

/-- The outline of two parts of a text. -/
theorem read_append (hsplit : SplitsAt (lines ++ behind) lines.length) :
    read (lines ++ behind) =
      read lines ++ (read behind).map (·.renumber (lines.length + ·)) := by
  rw [← readFrom_eq_read]
  exact readFrom_append hsplit (Nat.zero_le _) .start

end Program

end LineScript
