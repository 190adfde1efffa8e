import LineScript.Proofs.Block.Skipped
import LineScript.Proofs.Program.Numbered
import LineScript.Proofs.Session.Append
import LineScript.Proofs.Statement.Precedence

/-!
Bodies that are never run. Of a declaration, and of a catch or finally without a try, a run takes notice
with one line on the console; then it goes on behind the body, whatever is in there, with the session and
the report as they were (`execute_skips`).
-/

namespace LineScript

/-- What is written about a statement whose body is skipped. -/
def Item.notice? (i : Item) : Option Text :=
  match i.statement with
  | .declaration keyword signature => some ("[decl] ".toList ++ keyword ++ [' '] ++ signature)
  | .orphan kind =>
    some ("[warn] line ".toList ++ Text.ofNat i.line ++ ": ".toList ++ Session.orphanWord kind ++
      " without try".toList)
  | _ => none

namespace Run

/-- The run with a line written to the console. -/
def write (r : Run) (t : Text) : Run := { r with session := r.session.write t }

/-- A statement whose body is skipped does nothing but write its notice. -/
theorem runStep_notice {i : Item} {notice : Text} (h : i.notice? = some notice) (r : Run) :
    r.runStep (.item i) = r.write notice := by
  obtain ⟨line, statement⟩ := i
  cases statement with
  | declaration keyword signature =>
    obtain rfl := Option.some.inj h
    rfl
  | orphan kind =>
    obtain rfl := Option.some.inj h
    rfl
  | _ => cases h

end Run

namespace Program

variable {lines rest : List Text} {i : Nat} {header notice : Text}

/-- A line whose body is skipped is one step, and reading goes on behind the body. -/
theorem readFrom_notice (hdrop : lines.drop i = header :: rest)
    (h : (⟨i + 1, Statement.classify header.trim⟩ : Item).notice? = some notice) :
    isSkippable header = false ∧
      next i header rest (Statement.classify header.trim) = bodyEndAfter i header rest ∧
      readFrom i (lines.drop i) = .item ⟨i + 1, Statement.classify header.trim⟩ ::
        readFrom (bodyEndAfter i header rest) (lines.drop (bodyEndAfter i header rest)) := by
  have hc : Statement.classify header.trim ≠ .structural := by
    intro hc
    rw [hc] at h
    cases h
  have hs : isSkippable header = false := by
    refine Statement.isSkippable_of_classify hc fun t ht => ?_
    rw [ht] at h
    cases h
  have hnext : next i header rest (Statement.classify header.trim) = bodyEndAfter i header rest := by
    generalize Statement.classify header.trim = statement at h
    cases statement with
    | declaration => rfl
    | orphan => rfl
    | _ => cases h
  have hstep : stepAt i header rest = .item ⟨i + 1, Statement.classify header.trim⟩ := by
    unfold stepAt
    generalize Statement.classify header.trim = statement at h
    cases statement with
    | tryOpener => cases h
    | _ => rfl
  obtain ⟨hnumber, hbehind⟩ := drop_leadsTo hdrop (Statement.classify header.trim)
  rw [leadsTo_eq_next hdrop, hnext] at hnumber hbehind
  refine ⟨hs, hnext, ?_⟩
  rw [hdrop, readFrom_cons hs hc, hstep, hnext, hnumber, hbehind]

end Program

namespace Session

/-- A declaration, or a catch or finally without a try, behind which its body is opened, closes the braces
that it opens, and is closed by a brace on a line of its own. A run that comes to it writes its notice
and goes on behind the closing line; nothing else happens to the session or the report, whatever the
body holds. So it is wherever the execution of a source comes to such a line. -/
theorem execute_skips {lines opening body rest : List Text} {i : Nat} {header notice : Text}
    {closing : Closing} (hdrop : lines.drop i = header :: (opening ++ body ++ closing.text :: rest))
    (hnotice : (⟨i + 1, Statement.classify header.trim⟩ : Item).notice? = some notice)
    (ho : OpensBody header opening) (hb : BracesBalance body) :
    let stop := i + 1 + opening.length + body.length + 1
    (∀ r : Run, r.runSteps (Program.readFrom i (lines.drop i)) =
      (r.write notice).runSteps (Program.readFrom stop rest)) ∧
    (∀ r : Run, (r.write notice).report = r.report ∧
      r.session.Wrote notice (r.write notice).session) ∧
    ∀ source, Text.lines source = lines → Program.Reaches lines i →
      Program.Reaches lines stop ∧
      ∃ earlier, Program.read lines = earlier ++ Program.readFrom i (lines.drop i) ∧
        ∀ s : Session, s.execute source =
          let r := ((s.ready.runSteps earlier).write notice).runSteps (Program.readFrom stop rest)
          (r.report, r.session) := by
  intro stop
  obtain ⟨hs, hnext, hread⟩ := Program.readFrom_notice hdrop hnotice
  have hend : bodyEndAfter i header (opening ++ body ++ closing.text :: rest) = stop :=
    bodyEndAfter_balance ho hb closing
  have hrest : lines.drop stop = rest := by
    have hbehind := Program.drop_of_drop_eq_cons hdrop (opening.length + body.length + 1)
    rw [← Nat.add_assoc, ← Nat.add_assoc] at hbehind
    rw [hbehind, ← List.length_append, List.drop_append, List.drop_of_length_le (Nat.le_succ _),
      Nat.add_sub_cancel_left, List.nil_append]
    rfl
  rw [hend, hrest] at hread
  have hrun : ∀ r : Run, r.runSteps (Program.readFrom i (lines.drop i)) =
      (r.write notice).runSteps (Program.readFrom stop rest) := by
    intro r
    rw [hread, Run.runSteps_cons, Run.runStep_notice hnotice]
  refine ⟨hrun, fun r => ⟨rfl, r.session.wrote_write notice⟩, fun source hsource hreach => ?_⟩
  obtain ⟨earlier, hearlier⟩ := hreach.exists_earlier
  refine ⟨?_, earlier, hearlier, fun s => ?_⟩
  · rw [← hend, ← hnext]
    exact hreach.next hdrop hs
  · rw [← hrun, ← Run.runSteps_append, ← hearlier, ← hsource]
    rfl

/-- A catch without a try, with its brace behind a comment and a try and a quoted brace in its body. -/
theorem execute_skips_catch :
    let header := "\x7d catch (e)".toList
    let opening := ["# skipped".toList, "\x7b".toList]
    let body := ["try \x7b".toList, "print(\"\x7d\")".toList, "\x7d".toList]
    let rest := ["print(1)".toList]
    let notice := "[warn] line 1: catch without try".toList
    (⟨1, Statement.classify (Text.trim header)⟩ : Item).notice? = some notice ∧ OpensBody header opening ∧
      BracesBalance body ∧ ∀ r : Run,
        r.runSteps (Program.read (header :: (opening ++ body ++ "\x7d".toList :: rest))) =
          (r.write notice).runSteps (Program.readFrom 7 rest) ∧
        r.session.Wrote notice (r.write notice).session := by
  intro header opening body rest notice
  have hnotice : (⟨1, Statement.classify (Text.trim header)⟩ : Item).notice? = some notice := by
    decide
  have ho : OpensBody header opening :=
    @OpensBody.ownLine header ["# skipped".toList] "\x7b".toList (by decide)
      (by decide) (by decide)
  have hb : BracesBalance body := by decide
  let closing : Closing := ⟨[], [], .nil, .nil⟩
  have hdrop : (header :: (opening ++ body ++ closing.text :: rest)).drop 0 =
      header :: (opening ++ body ++ closing.text :: rest) := rfl
  obtain ⟨hrun, hwrite, -⟩ := execute_skips hdrop hnotice ho hb
  exact ⟨hnotice, ho, hb, fun r => ⟨hrun r, (hwrite r).2⟩⟩

end Session

end LineScript
