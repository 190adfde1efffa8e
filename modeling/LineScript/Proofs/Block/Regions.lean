import LineScript.Proofs.Block.Scan

/-! Where the regions of a scanned construct lie, and where a try can be inside them. The regions
are behind the line of the `try` and before the line at which reading goes on; the line that is
noted as a nested try is one of these lines, and if none is noted, no line of a body opens a try.
Main statement: `complete_scan`. -/

namespace LineScript

/-- The lines from `start` up to `stop` open no try. -/
def TryFreeBetween (lines : List Text) (start stop : Nat) : Prop :=
  ∀ i line, start ≤ i → i < stop → lines[i]? = some line → opensTry line = false

theorem TryFreeBetween.empty (lines : List Text) (i : Nat) : TryFreeBetween lines i i := by
  intro j line hi hj
  omega

theorem TryFreeBetween.extend {lines : List Text} {start i : Nat} {line : Text}
    (h : TryFreeBetween lines start i) (hline : lines[i]? = some line)
    (ht : opensTry line = false) : TryFreeBetween lines start (i + 1) := by
  intro j line' hj hji hline'
  by_cases heq : j = i
  · subst heq
    rw [hline] at hline'
    cases hline'
    exact ht
  · exact h j line' hj (by omega) hline'

namespace Region

/-- A region lies between two lines. An inline region is on the line of its opener. -/
structure Placed (lines : List Text) (start stop : Nat) (r : Region) : Prop where
  start_le : start ≤ r.start
  start_le_stop : r.start ≤ r.stop
  stop_le : r.stop ≤ stop
  opener : r.inline = true →
    r.stop = r.start + 1 ∧ ∃ line o, lines[r.start]? = some line ∧ Opener.read? line = some o

/-- The text that a region holds on a line: the line as it stands or, if the region is inline, what
is between the braces. -/
def Holds (lines : List Text) (r : Region) (i : Nat) (t : Text) : Prop :=
  if r.inline then i = r.start ∧ ∃ line, lines[i]? = some line ∧ inlineBody? line = some t
  else r.start ≤ i ∧ i < r.stop ∧ lines[i]? = some t

/-- The body of a region opens no try. -/
def TryFree (lines : List Text) (r : Region) : Prop :=
  ∀ i t, r.Holds lines i t → opensTry t = false

theorem Placed.mono {lines : List Text} {start stop stop' : Nat} {r : Region}
    (h : r.Placed lines start stop) (hs : stop ≤ stop') : r.Placed lines start stop' :=
  { h with stop_le := Nat.le_trans h.stop_le hs }

end Region

theorem TryFreeBetween.region {lines : List Text} {kind : BlockKind} {start stop : Nat}
    (h : TryFreeBetween lines start stop) : Region.TryFree lines ⟨kind, start, stop, false⟩ := by
  intro i t hi
  simp only [Region.Holds, Bool.false_eq_true, ↓reduceIte] at hi
  exact h i t hi.1 hi.2.1 hi.2.2

namespace Construct

/-- What is known of a construct whose scan began at the line `start` and has come to `stop`. -/
structure Scanned (lines : List Text) (start stop : Nat) (c : Construct) : Prop where
  placed : ∀ r ∈ c.regions, r.Placed lines start stop
  nested : ∀ k, c.nestedTry = some k → start ≤ k ∧ k < stop ∧
    ∃ line, lines[k]? = some line ∧ isSkippable line = false
  tryFree : c.nestedTry = none → ∀ r ∈ c.regions, r.TryFree lines

/-- What is known of a construct while its scan is at the line `i`. A construct whose last region is
closed is known up to the line behind it. -/
def Scanning (lines : List Text) (start i : Nat) (c : Construct) : Search → Prop
  | .close region => Scanned lines start i c ∧ start < region.start ∧ region.start ≤ i ∧
      (c.nestedTry = none → TryFreeBetween lines region.start i)
  | .continuation _ resume => Scanned lines start resume c ∧ start < resume ∧ resume ≤ i

/-- What is known of a construct whose scan has ended. -/
def Complete (lines : List Text) (start : Nat) (c : Construct) : Prop :=
  Scanned lines start c.resumeAt c ∧ start < c.resumeAt ∧ c.resumeAt ≤ lines.length

variable {lines : List Text} {start i : Nat} {c : Construct}

theorem Scanned.mono {stop stop' : Nat} (h : Scanned lines start stop c) (hs : stop ≤ stop') :
    Scanned lines start stop' c where
  placed r hr := (h.placed r hr).mono hs
  nested k hk := by
    obtain ⟨hlow, hhigh, hline⟩ := h.nested k hk
    exact ⟨hlow, by omega, hline⟩
  tryFree := h.tryFree

theorem Scanned.resume {stop : Nat} (h : Scanned lines start stop c) (resumeAt : Nat) :
    Scanned lines start stop { c with resumeAt } :=
  ⟨h.placed, h.nested, h.tryFree⟩

theorem Scanned.name {stop : Nat} (h : Scanned lines start stop c) (kind : BlockKind)
    (rest : Text) : Scanned lines start stop (c.name kind rest) := by
  refine ⟨?_, ?_, ?_⟩
  · rw [regions_name]
    exact h.placed
  · rw [nestedTry_name]
    exact h.nested
  · rw [regions_name, nestedTry_name]
    exact h.tryFree

/-- Noting the line that the scan has come to. -/
theorem Scanned.noteTry {line : Text} (h : Scanned lines start (i + 1) c) (hi : start ≤ i)
    (hline : lines[i]? = some line) (hs : isSkippable line = false) (opener : Option Opener) :
    Scanned lines start (i + 1) (c.noteTry i opener) := by
  rw [noteTry_eq]
  split
  · refine ⟨h.placed, ?_, fun hn => by simp at hn⟩
    intro k hk
    cases hn : c.nestedTry with
    | none =>
      simp only [hn, Option.getD_none, Option.some.injEq] at hk
      subst hk
      exact ⟨hi, Nat.lt_succ_self i, line, hline, hs⟩
    | some k' =>
      simp only [hn, Option.getD_some, Option.some.injEq] at hk
      subst hk
      exact h.nested k' hn
  · exact h

/-- Recording a region that lies where it should. -/
theorem Scanned.record {stop : Nat} {r : Region} (h : Scanned lines start stop c)
    (hp : r.Placed lines start stop) (ht : c.nestedTry = none → r.TryFree lines) :
    Scanned lines start stop (c.record r) := by
  refine ⟨?_, ?_, ?_⟩
  · intro r' hr'
    rcases mem_regions_record hr' with rfl | hr'
    · exact hp
    · exact h.placed r' hr'
  · rw [nestedTry_record]
    exact h.nested
  · rw [nestedTry_record]
    intro hn r' hr'
    rcases mem_regions_record hr' with rfl | hr'
    · exact ht hn
    · exact h.tryFree hn r' hr'

/-- Closing a region before a line that the scan has come to. -/
theorem Scanned.close {region : OpenRegion} {stop : Nat} (h : Scanned lines start stop c)
    (hlow : start < region.start) (hhigh : region.start ≤ i) (hi : i ≤ stop)
    (ht : c.nestedTry = none → TryFreeBetween lines region.start i) :
    Scanned lines start stop (c.close region i) := by
  apply h.record
  · refine ⟨?_, ?_, ?_, fun hinline => by simp at hinline⟩ <;> simp only <;> omega
  · intro hn
    rw [Nat.max_eq_left hhigh]
    exact (ht hn).region

theorem nestedTry_of_noteTry {opener : Option Opener} (h : (c.noteTry i opener).nestedTry = none) :
    c.nestedTry = none ∧ opener.any (·.kind = .tryBlock) = false := by
  rw [noteTry_eq] at h
  split at h
  · simp at h
  · next ht => exact ⟨h, by simpa using ht⟩

/-! ## What a scan keeps -/

/-- Opening a region on the line that the scan has come to. -/
theorem Scanned.openRegion {kind : BlockKind} {line rest : Text}
    (h : Scanned lines start (i + 1) c) (hi : start ≤ i) (hline : lines[i]? = some line)
    (hr : rest = ((Opener.read? line).map (·.rest)).getD []) :
    Scanning lines start (i + 1) (c.openRegion kind i line rest).1
      (c.openRegion kind i line rest).2 := by
  cases hb : (BraceDepth.start.past rest).isClosed with
  | false =>
    rw [openRegion_open hb]
    exact ⟨h.name kind rest, by simp only; omega, Nat.le_refl _, fun _ => .empty lines (i + 1)⟩
  | true =>
    rw [openRegion_inline hb]
    -- A line without an opener leaves no braces to be closed.
    obtain ⟨o, ho⟩ : ∃ o, Opener.read? line = some o := by
      cases ho : Opener.read? line with
      | some o => exact ⟨o, rfl⟩
      | none =>
        rw [hr, ho] at hb
        simp [BraceDepth.past, BraceDepth.start, BraceDepth.isClosed, braceCounts] at hb
    have hn := (h.name kind rest).noteTry hi hline (isSkippable_of_read? ho)
      ((inlineBody? line).bind Opener.read?)
    refine ⟨hn.record ⟨hi, by simp, Nat.le_refl _, fun _ => ⟨rfl, line, o, hline, ho⟩⟩ ?_,
      by omega, Nat.le_refl _⟩
    intro hnone
    obtain ⟨_, hbody⟩ := nestedTry_of_noteTry hnone
    intro j body hj
    simp only [Region.Holds, ↓reduceIte] at hj
    obtain ⟨rfl, line', hline', hinline⟩ := hj
    rw [hline] at hline'
    cases hline'
    simpa [hinline, opensTry] using hbody

theorem Scanning.step {line : Text} {search search' : Search} {c' : Construct}
    (h : Scanning lines start i c search) (hline : lines[i]? = some line)
    (hstep : ScanStep i line c search c' (some search')) :
    Scanning lines start (i + 1) c' search' := by
  cases hstep with
  | skip hs =>
    cases search with
    | close region =>
      obtain ⟨hc, hlow, hhigh, ht⟩ := h
      exact ⟨hc.mono (Nat.le_succ i), hlow, by omega,
        fun hn => (ht hn).extend hline (opensTry_of_isSkippable hs)⟩
    | continuation before resume =>
      obtain ⟨hc, hlow, hhigh⟩ := h
      exact ⟨hc, hlow, by omega⟩
  | @chain region o kind ho hd hk =>
    obtain ⟨hc, hlow, hhigh, ht⟩ := h
    exact ((hc.mono (Nat.le_succ i)).close hlow hhigh (Nat.le_succ i) ht).openRegion (by omega)
      hline (by simp [ho])
  | shut hs ho hb =>
    obtain ⟨hc, hlow, hhigh, ht⟩ := h
    have hn := (hc.mono (Nat.le_succ i)).noteTry (by omega) hline hs (Opener.read? line)
    exact ⟨hn.close hlow hhigh (Nat.le_succ i) fun hnone => ht (nestedTry_of_noteTry hnone).1,
      by omega, Nat.le_refl _⟩
  | inside hs ho hb =>
    obtain ⟨hc, hlow, hhigh, ht⟩ := h
    refine ⟨(hc.mono (Nat.le_succ i)).noteTry (by omega) hline hs _, hlow, by simp only; omega, ?_⟩
    intro hnone
    obtain ⟨hn, hline'⟩ := nestedTry_of_noteTry hnone
    exact (ht hn).extend hline hline'
  | follow ho hz hk =>
    obtain ⟨hc, hlow, hhigh⟩ := h
    exact (hc.mono (by omega)).openRegion (by omega) hline (by simp [ho])

theorem Scanning.complete {line : Text} {search : Search} {c' : Construct}
    (h : Scanning lines start i c search) (hline : lines[i]? = some line)
    (hstep : ScanStep i line c search c' none) : Complete lines start c' := by
  have hi : i < lines.length := (List.getElem?_eq_some_iff.mp hline).1
  cases hstep with
  | cutOff ho ht' hd hk =>
    obtain ⟨hc, hlow, hhigh, ht⟩ := h
    refine ⟨(hc.close hlow hhigh (Nat.le_refl i) ht).resume i, ?_, ?_⟩ <;> simp only <;> omega
  | leave hs ho =>
    obtain ⟨hc, hlow, hhigh⟩ := h
    exact ⟨hc.resume _, hlow, by simp only; omega⟩

theorem Scanning.runOut {search : Search} (h : Scanning lines start lines.length c search) :
    Complete lines start (scanLines c search lines.length []) := by
  cases search with
  | close region =>
    obtain ⟨hc, hlow, hhigh, ht⟩ := h
    exact ⟨(hc.close hlow hhigh (Nat.le_refl _) ht).resume _, by simp only [scanLines]; omega,
      Nat.le_refl lines.length⟩
  | continuation before resume =>
    obtain ⟨hc, hlow, hhigh⟩ := h
    exact ⟨hc.resume _, hlow, hhigh⟩

theorem scan_eq_scanFrom {line : Text} (h : lines[start]? = some line) :
    scan lines start = scanFrom start line (lines.drop (start + 1)) := by
  obtain ⟨hlt, rfl⟩ := List.getElem?_eq_some_iff.mp h
  rw [scan, List.drop_eq_getElem_cons hlt]

/-- The same for lines that are given by what is behind them. -/
theorem scan_of_drop {line : Text} {rest : List Text} (h : lines.drop start = line :: rest) :
    start < lines.length ∧ scan lines start = scanFrom start line rest := by
  have hlength := congrArg List.length h
  rw [List.length_drop, List.length_cons] at hlength
  exact ⟨by omega, by rw [scan, h]⟩

/-- Every scanned construct is complete. -/
theorem complete_scan (h : start < lines.length) : Complete lines start (scan lines start) := by
  have hline : lines[start]? = some lines[start] := List.getElem?_eq_getElem h
  rw [scan_eq_scanFrom hline, scanFrom]
  have hopened : Scanned lines start (start + 1) (openedAt start) := by
    refine ⟨?_, fun k hk => by simp [openedAt] at hk, ?_⟩
    · intro r hr
      simp only [regions, openedAt, Option.toList_none, List.append_nil, List.mem_singleton] at hr
      subst hr
      exact ⟨Nat.le_succ start, Nat.le_refl _, Nat.le_refl _, fun hinline => by simp at hinline⟩
    · intro _ r hr
      simp only [regions, openedAt, Option.toList_none, List.append_nil, List.mem_singleton] at hr
      subst hr
      exact (TryFreeBetween.empty lines (start + 1)).region
  exact scanLines_invariant (P := Scanning lines start) (fun hline h => h.complete hline)
    (fun hline h => h.step hline) Scanning.runOut h
    (hopened.openRegion (Nat.le_refl start) hline rfl)

end Construct

end LineScript
