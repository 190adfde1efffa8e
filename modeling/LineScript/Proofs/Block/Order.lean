import LineScript.Proofs.Block.Recorded
import LineScript.Proofs.Block.Regions

/-! The order of the regions of a construct. Each region is of the kind of its place, and the bodies
follow each other: none begins before the one in front of it has ended. This holds of every scanned
construct, whatever its lines are (`inOrder_scan`), since a region is recorded only behind the ones that
are there (`InOrder.record`). -/

namespace LineScript.Construct

/-! ## Regions in order -/

/-- The regions that have been recorded of the construct at the line `start`. The last of them is of the
kind `last`, and they have all ended at `bound`. -/
structure InOrder (start : Nat) (last : BlockKind) (bound : Nat) (c : Construct) : Prop where
  kind_eq : ∀ {k r}, c.region? k = some r → r.kind = k
  rank_le : ∀ {k r}, c.region? k = some r → k.rank ≤ last.rank
  stop_le : ∀ {k r}, c.region? k = some r → r.stop ≤ bound
  stop_le_start : ∀ {k k' r r'}, c.region? k = some r → c.region? k' = some r' →
    k.rank < k'.rank → r.stop ≤ r'.start
  start_lt : ∀ {k r}, c.region? k = some r → r.inline = false → start < r.start

variable {lines : List Text} {start i bound : Nat} {c c' : Construct} {last kind : BlockKind}

theorem InOrder.congr (h : InOrder start last bound c)
    (hsame : ∀ k, c'.region? k = c.region? k) : InOrder start last bound c' where
  kind_eq hr := h.kind_eq (hsame _ ▸ hr)
  rank_le hr := h.rank_le (hsame _ ▸ hr)
  stop_le hr := h.stop_le (hsame _ ▸ hr)
  stop_le_start hr hr' := h.stop_le_start (hsame _ ▸ hr) (hsame _ ▸ hr')
  start_lt hr := h.start_lt (hsame _ ▸ hr)

theorem InOrder.mono {last' : BlockKind} {bound' : Nat} (h : InOrder start last bound c)
    (hlast : last.rank ≤ last'.rank) (hbound : bound ≤ bound') : InOrder start last' bound' c :=
  { h with
    rank_le := fun hr => Nat.le_trans (h.rank_le hr) hlast
    stop_le := fun hr => Nat.le_trans (h.stop_le hr) hbound }

/-- What is recorded is the new region, or one of another kind that was there. -/
theorem region?_record_eq_some {region r : Region} {k : BlockKind}
    (h : (c.record region).region? k = some r) :
    k = region.kind ∧ r = region ∨ k ≠ region.kind ∧ c.region? k = some r := by
  rw [region?_record] at h
  split at h
  · next hk => exact Or.inl ⟨hk.symm, (Option.some.inj h).symm⟩
  · next hk => exact Or.inr ⟨Ne.symm hk, h⟩

/-- A region that begins behind the recorded ones of other kinds takes its place behind them. -/
theorem InOrder.record (h : InOrder start last bound c) (region : Region)
    (hlast : last.rank ≤ region.kind.rank)
    (hbehind : ∀ {k r}, c.region? k = some r → k ≠ region.kind → r.stop ≤ region.start)
    (hlow : region.inline = false → start < region.start) (hstop : region.start ≤ region.stop) :
    InOrder start region.kind region.stop (c.record region) := by
  refine ⟨?_, ?_, ?_, ?_, ?_⟩
  · intro k r hr
    rcases region?_record_eq_some hr with ⟨rfl, rfl⟩ | ⟨_, hr⟩
    · rfl
    · exact h.kind_eq hr
  · intro k r hr
    rcases region?_record_eq_some hr with ⟨rfl, rfl⟩ | ⟨_, hr⟩
    · exact Nat.le_refl _
    · exact Nat.le_trans (h.rank_le hr) hlast
  · intro k r hr
    rcases region?_record_eq_some hr with ⟨rfl, rfl⟩ | ⟨hk, hr⟩
    · exact Nat.le_refl _
    · exact Nat.le_trans (hbehind hr hk) hstop
  · intro k k' r r' hr hr' hrank
    rcases region?_record_eq_some hr' with ⟨rfl, rfl⟩ | ⟨_, hold'⟩
    · rcases region?_record_eq_some hr with ⟨rfl, rfl⟩ | ⟨hk, hold⟩
      · exact absurd hrank (Nat.lt_irrefl _)
      · exact hbehind hold hk
    · rcases region?_record_eq_some hr with ⟨rfl, rfl⟩ | ⟨_, hold⟩
      · -- Nothing is recorded behind the new region.
        exact absurd hrank (Nat.not_lt.mpr (Nat.le_trans (h.rank_le hold') hlast))
      · exact h.stop_le_start hold hold' hrank
  · intro k r hr
    rcases region?_record_eq_some hr with ⟨rfl, rfl⟩ | ⟨_, hr⟩
    · exact hlow
    · exact h.start_lt hr

/-! ## The scan -/

/-- What is known of the regions while the scan is at the line `i`: they have ended where the open region
begins, or where reading would go on. -/
def Orderly (start i : Nat) (c : Construct) : Search → Prop
  | .close region => InOrder start region.kind region.start c ∧ start < region.start ∧ region.start ≤ i
  | .continuation before resume => InOrder start before resume c ∧ resume ≤ i

/-- Closing the open region. -/
theorem Orderly.close {region : OpenRegion} (h : Orderly start i c (.close region)) :
    InOrder start region.kind i (c.close region i) := by
  obtain ⟨hc, hlow, hhigh⟩ := h
  rw [Construct.close, Nat.max_eq_left hhigh]
  exact hc.record ⟨region.kind, region.start, i, false⟩ (Nat.le_refl _)
    (fun hr _ => hc.stop_le hr) (fun _ => hlow) hhigh

/-- Opening a region on the line numbered `i`. -/
theorem InOrder.openRegion {line rest : Text} (h : InOrder start last bound c)
    (hlast : last.rank ≤ kind.rank) (hbound : bound ≤ i + 1) (hi : start ≤ i)
    (hbehind : ∀ {k r}, c.region? k = some r → k ≠ kind → r.stop ≤ i) :
    Orderly start (i + 1) (c.openRegion kind i line rest).1 (c.openRegion kind i line rest).2 := by
  cases hb : (BraceDepth.start.past rest).isClosed with
  | false =>
    rw [openRegion_open hb]
    have hname := h.congr (region?_name c kind rest)
    exact ⟨hname.mono hlast hbound, Nat.lt_succ_of_le hi, Nat.le_refl _⟩
  | true =>
    rw [openRegion_inline hb]
    have hnoted : InOrder start last bound
        ((c.name kind rest).noteTry i ((inlineBody? line).bind Opener.read?)) :=
      h.congr fun k => by rw [region?_noteTry, region?_name]
    refine ⟨hnoted.record ⟨kind, i, i + 1, true⟩ hlast ?_ ?_ ?_, Nat.le_refl _⟩
    · intro k r hr hk
      rw [region?_noteTry, region?_name] at hr
      exact hbehind hr hk
    · exact nofun
    · exact Nat.le_succ i

theorem Orderly.step {line : Text} {search search' : Search} (h : Orderly start i c search)
    (hi : start < i) (hstep : ScanStep i line c search c' (some search')) :
    Orderly start (i + 1) c' search' := by
  cases hstep with
  | skip hs =>
    cases search with
    | close region => exact ⟨h.1, h.2.1, Nat.le_succ_of_le h.2.2⟩
    | continuation before resume => exact ⟨h.1, Nat.le_succ_of_le h.2⟩
  | chain ho hd hk =>
    have hclosed := h.close
    exact hclosed.openRegion (Nat.le_of_lt (BlockKind.rank_lt_of_next? hk)) (Nat.le_succ i)
      (Nat.le_of_lt hi) fun hr _ => hclosed.stop_le hr
  | @shut region hs ho hb =>
    have hnoted : Orderly start i (c.noteTry i (Opener.read? line)) (.close region) :=
      ⟨h.1.congr (region?_noteTry c i _), h.2⟩
    exact ⟨hnoted.close.mono (Nat.le_refl _) (Nat.le_succ i), Nat.le_refl _⟩
  | inside hs ho hb => exact ⟨h.1.congr (region?_noteTry c i _), h.2.1, Nat.le_succ_of_le h.2.2⟩
  | follow ho hz hk =>
    exact h.1.openRegion (Nat.le_of_lt (BlockKind.rank_lt_of_next? hk)) (Nat.le_succ_of_le h.2)
      (Nat.le_of_lt hi) fun hr _ => Nat.le_trans (h.1.stop_le hr) h.2

theorem Orderly.complete {line : Text} {search : Search} (h : Orderly start i c search)
    (hstep : ScanStep i line c search c' none) : ∃ last bound, InOrder start last bound c' := by
  cases hstep with
  | cutOff ho ht hd hk => exact ⟨_, _, h.close.congr (region?_resume _ i)⟩
  | leave hs ho => exact ⟨_, _, h.1.congr (region?_resume c _)⟩

theorem Orderly.runOut {search : Search} (h : Orderly start i c search) :
    ∃ last bound, InOrder start last bound (scanLines c search i []) := by
  cases search with
  | close region => exact ⟨_, _, h.close.congr (region?_resume _ i)⟩
  | continuation before resume => exact ⟨_, _, h.1.congr (region?_resume c resume)⟩

theorem region?_openedAt {k : BlockKind} {r : Region} (h : (openedAt start).region? k = some r) :
    k = .tryBlock ∧ r = ⟨.tryBlock, start + 1, start + 1, false⟩ := by
  cases k with
  | tryBlock => exact ⟨rfl, (Option.some.inj h).symm⟩
  | catchBlock => cases h
  | finallyBlock => cases h

theorem inOrder_openedAt (start : Nat) : InOrder start .tryBlock (start + 1) (openedAt start) := by
  refine ⟨?_, ?_, ?_, ?_, ?_⟩
  · intro k r hr
    obtain ⟨rfl, rfl⟩ := region?_openedAt hr
    rfl
  · intro k r hr
    obtain ⟨rfl, rfl⟩ := region?_openedAt hr
    exact Nat.le_refl _
  · intro k r hr
    obtain ⟨rfl, rfl⟩ := region?_openedAt hr
    exact Nat.le_refl _
  · intro k k' r r' hr hr' hrank
    obtain ⟨rfl, rfl⟩ := region?_openedAt hr
    obtain ⟨rfl, rfl⟩ := region?_openedAt hr'
    exact absurd hrank (Nat.lt_irrefl _)
  · intro k r hr _
    obtain ⟨rfl, rfl⟩ := region?_openedAt hr
    exact Nat.lt_succ_self start

/-- The regions of a scanned construct are in order. -/
theorem inOrder_scan (h : start < lines.length) :
    ∃ last bound, InOrder start last bound (scan lines start) := by
  have hline : lines[start]? = some lines[start] := List.getElem?_eq_getElem h
  rw [scan_eq_scanFrom hline, scanFrom]
  generalize ((Opener.read? lines[start]).map (·.rest)).getD [] = rest
  have hopened : Orderly start (start + 1)
      ((openedAt start).openRegion .tryBlock start lines[start] rest).1
      ((openedAt start).openRegion .tryBlock start lines[start] rest).2 :=
    (inOrder_openedAt start).openRegion (Nat.le_refl _) (Nat.le_refl _) (Nat.le_refl start)
      fun hr hk => absurd (region?_openedAt hr).1 hk
  exact scanLines_invariant (P := fun i c search => start < i ∧ Orderly start i c search)
    (fun _ hi hstep => hi.2.complete hstep)
    (fun _ hi hstep => ⟨Nat.lt_succ_of_lt hi.1, hi.2.step hi.1 hstep⟩)
    (fun hi => hi.2.runOut) h ⟨Nat.lt_succ_self start, hopened⟩

/-- Every region of a construct is the one of its kind. -/
theorem mem_regions_iff {r : Region} : r ∈ c.regions ↔ ∃ kind, c.region? kind = some r := by
  constructor
  · intro hr
    simp only [regions, List.mem_cons, List.mem_append, Option.mem_toList] at hr
    rcases hr with (rfl | hr) | hr
    · exact ⟨.tryBlock, rfl⟩
    · exact ⟨.catchBlock, hr⟩
    · exact ⟨.finallyBlock, hr⟩
  · rintro ⟨kind, hr⟩
    cases kind with
    | tryBlock =>
      cases hr
      simp [regions]
    | catchBlock => simp [regions, show c.catchRegion = some r from hr]
    | finallyBlock => simp [regions, show c.finallyRegion = some r from hr]

/-- In the order of the places the regions follow each other. -/
theorem InOrder.pairwise (h : InOrder start last bound c) :
    c.regions.Pairwise fun r r' => r.stop ≤ r'.start := by
  have htry : c.region? .tryBlock = some c.tryRegion := rfl
  have hcatch : ∀ r, c.catchRegion = some r → c.tryRegion.stop ≤ r.start := by
    intro r (hr : c.region? .catchBlock = some r)
    exact h.stop_le_start htry hr (by decide)
  have hfinally : ∀ r, c.finallyRegion = some r → c.tryRegion.stop ≤ r.start := by
    intro r (hr : c.region? .finallyBlock = some r)
    exact h.stop_le_start htry hr (by decide)
  have hboth : ∀ r r', c.catchRegion = some r → c.finallyRegion = some r' →
      r.stop ≤ r'.start := by
    intro r r' (hr : c.region? .catchBlock = some r) (hr' : c.region? .finallyBlock = some r')
    exact h.stop_le_start hr hr' (by decide)
  cases hc : c.catchRegion <;> cases hf : c.finallyRegion <;> simp_all [regions]

end LineScript.Construct
