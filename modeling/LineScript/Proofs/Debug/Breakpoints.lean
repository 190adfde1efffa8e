import LineScript.Proofs.Debug.Arguments
import LineScript.Proofs.Debug.CallStack

/-!
The breakpoints of a session and its history. A client that knows the requests so far, and which of them
succeeded, knows the breakpoints of every source: they are those that the last request to set them has
named, in the order in which it named them (`breakpointsAfter?`). No other request touches them, be it
one that starts or ends a program, and setting those of one source leaves those of the others
(`breakpoints_history`).
-/

namespace LineScript.Debug

/-- The source path and the breakpoints that a request to set breakpoints names. -/
def Request.breakpoints? (r : Request) : Option (Text × List Breakpoint) :=
  match BreakpointArguments.read r.given with
  | .ok a => a.source.path.map fun path => (path, a.breakpoints)
  | .error _ => none

/-- The breakpoints that an exchange has set for a source path. -/
def Exchange.breakpointsAt? (path : Text) (e : Exchange) : Option (List Breakpoint) :=
  if e.success && e.command? == some .setBreakpoints then
    match e.request.breakpoints? with
    | some (p, list) => if p = path then some list else none
    | none => none
  else none

/-- The breakpoints that were set last for a source path. -/
def breakpointsAfter? (path : Text) (history : List Exchange) : Option (List Breakpoint) :=
  history.reverse.findSome? (Exchange.breakpointsAt? path)

theorem breakpointsAfter?_concat (path : Text) (history : List Exchange) (e : Exchange) :
    breakpointsAfter? path (history ++ [e]) =
      (e.breakpointsAt? path).or (breakpointsAfter? path history) := by
  rw [breakpointsAfter?, List.reverse_append, List.reverse_singleton, List.singleton_append,
    List.findSome?_cons]
  cases e.breakpointsAt? path <;> rfl

namespace DebugSession

variable {s s' : DebugSession} {r : Request} {command : Command} {success : Bool} {path : Text}

/-! ## One request -/

/-- A request to set breakpoints replaces those of the path that it names. If it does not name any, it
fails. -/
theorem handled_setBreakpoints (s : DebugSession)
    (hcommand : Command.ofName? r.command = some .setBreakpoints) :
    (∃ path list, r.breakpoints? = some (path, list) ∧
      s.handled r = { s with breakpoints := s.breakpoints.insert path list }.answer
        (.breakpoints (list.map Breakpoint.line))) ∨
    r.breakpoints? = none ∧ ∃ f, s.handled r = s.fail f := by
  rw [handled_known hcommand, dispatch, withArguments, Request.breakpoints?]
  cases BreakpointArguments.read r.given with
  | error e => exact Or.inr ⟨rfl, _, rfl⟩
  | ok a =>
    dsimp only
    rw [setBreakpoints]
    cases a.source.path with
    | none => exact Or.inr ⟨rfl, _, rfl⟩
    | some path => exact Or.inl ⟨path, a.breakpoints, rfl, rfl⟩

/-- A request to set breakpoints succeeds if it names a path and breakpoints. -/
theorem success_setBreakpoints (s : DebugSession)
    (hcommand : Command.ofName? r.command = some .setBreakpoints) :
    (s.exchange r).success = r.breakpoints?.isSome := by
  rw [exchange]
  rcases s.handled_setBreakpoints hcommand with ⟨p, list, hnamed, hhandled⟩ | ⟨hnone, f, hhandled⟩
  · rw [hhandled, hnamed]
    rfl
  · rw [hhandled, hnone]
    rfl

theorem breakpointsAt?_exchange (s : DebugSession)
    (hcommand : Command.ofName? r.command = some .setBreakpoints) :
    (s.exchange r).breakpointsAt? path =
      r.breakpoints?.bind fun named => if named.1 = path then some named.2 else none := by
  have hsuccess := s.success_setBreakpoints hcommand
  have hsets : (s.exchange r).command? = some .setBreakpoints := hcommand
  have hrequest : (s.exchange r).request.breakpoints? = r.breakpoints? := rfl
  rw [Exchange.breakpointsAt?, hsuccess, hsets, hrequest]
  cases r.breakpoints? <;> rfl

theorem breakpointsAt?_exchange_of_ne (h : Command.ofName? r.command ≠ some .setBreakpoints) :
    (s.exchange r).breakpointsAt? path = none := by
  rw [Exchange.breakpointsAt?, if_neg]
  intro hset
  exact h (beq_iff_eq.mp (Bool.and_eq_true_iff.mp hset).2)

/-- No turn but one that sets breakpoints touches them. -/
theorem Turn.breakpoints_eq (h : Turn s command success s') (hset : command ≠ .setBreakpoints) :
    s'.breakpoints = s.breakpoints := by
  cases h with
  | sets => contradiction
  | _ => rfl

/-- No request but one to set breakpoints touches them. -/
theorem breakpoints_handled (h : Command.ofName? r.command ≠ some .setBreakpoints) :
    (s.handled r).session.breakpoints = s.breakpoints := by
  rcases s.handled_cases r with ⟨command, hknown, hturn⟩ | ⟨-, -, hsame⟩
  · exact hturn.breakpoints_eq fun hset => h (hset ▸ hknown)
  · rw [hsame]

/-- A request sets the breakpoints of the path that it names, if it succeeds, and no others. -/
theorem get?_breakpoints_handle (s : DebugSession) (r : Request) (path : Text) :
    (s.handle r).2.breakpoints.get? path =
      ((s.exchange r).breakpointsAt? path).or (s.breakpoints.get? path) := by
  show (s.handled r).session.breakpoints.get? path = _
  by_cases hcommand : Command.ofName? r.command = some .setBreakpoints
  · rw [s.breakpointsAt?_exchange hcommand]
    rcases s.handled_setBreakpoints hcommand with ⟨p, list, hnamed, hhandled⟩ | ⟨hnone, f, hhandled⟩
    · rw [hhandled, hnamed, Option.bind_some]
      show Entries.get? path (s.breakpoints.insert p list) = _
      by_cases hp : p = path
      · subst hp
        rw [Entries.get?_insert_self, if_pos rfl, Option.some_or]
      · rw [Entries.get?_insert_of_ne (Ne.symm hp), if_neg hp, Option.none_or]
    · rw [hhandled, hnone]
      rfl
  · rw [breakpointsAt?_exchange_of_ne hcommand, breakpoints_handled hcommand]
    rfl

/-! ## Requests in turn -/

theorem get?_breakpoints_handleAll {history : List Exchange}
    (h : s.breakpoints.get? path = breakpointsAfter? path history) (requests : List Request) :
    (s.handleAll requests).2.breakpoints.get? path =
      breakpointsAfter? path (history ++ s.exchanges requests) := by
  induction requests generalizing s history with
  | nil => rwa [exchanges, List.append_nil]
  | cons r requests ih =>
    have hr : (s.handle r).2.breakpoints.get? path =
        breakpointsAfter? path (history ++ [s.exchange r]) := by
      rw [get?_breakpoints_handle, h, breakpointsAfter?_concat]
    rw [exchanges, List.append_cons]
    exact ih hr

/-! ## Answers -/

/-- The answer to a request that names breakpoints has one for each of them, verified, on the same line
and in the same order. -/
theorem handle_setBreakpoints {list : List Breakpoint} (hs : s.pending = [])
    (hcommand : Command.ofName? r.command = some .setBreakpoints)
    (hnamed : r.breakpoints? = some (path, list)) :
    (s.handle r).1 =
      [.response s.nextSeq r.seq r.command (.breakpoints (list.map Breakpoint.line))] := by
  rcases s.handled_setBreakpoints hcommand with ⟨p, list', hnamed', hhandled⟩ | ⟨hnone, -⟩
  · obtain ⟨rfl, rfl⟩ := Prod.mk.inj (Option.some.inj (hnamed'.symm.trans hnamed))
    have hpending : (s.handled r).session.pending = [] := by rw [hhandled]; exact hs
    rw [handle_eq, hpending, hhandled]
    rfl
  · rw [hnone] at hnamed
    contradiction

theorem json_breakpoints (list : List Breakpoint) :
    (Body.breakpoints (list.map Breakpoint.line)).json =
      .record [("breakpoints", .arr (list.map fun b =>
        .record [("verified", .bool true), ("line", .int b.line)]))] := by
  rw [Body.json, List.map_map]
  rfl

theorem breakpoints?_json {list : List Breakpoint}
    (h : ∀ b ∈ list, b.line ≤ Json.greatestSigned)
    (harguments : r.arguments = some (BreakpointArguments.json path list)) :
    r.breakpoints? = some (path, list) := by
  have hgiven : r.given = BreakpointArguments.json path list := by
    rw [Request.given, harguments]
    rfl
  rw [Request.breakpoints?, hgiven, BreakpointArguments.read_json path h]
  rfl

/-- Whatever requests have led to a session, the breakpoints of a source path are those that the last
request to set them, among the ones that succeeded, has named for this path, and there are none if there
was no such request. A request to set breakpoints succeeds if its arguments name a path and breakpoints,
as an object with their lines and conditions does, and then its answer has one verified breakpoint for
each of them, on the same line and in the same order. -/
theorem breakpoints_history (chance : Chance) (requests : List Request) :
    let s := ((start chance).handleAll requests).2
    let history := (start chance).exchanges requests
    (∀ path, s.breakpointsAt path = (breakpointsAfter? path history).getD []) ∧
      ∀ r, Command.ofName? r.command = some .setBreakpoints →
        (s.exchange r).success = r.breakpoints?.isSome ∧
        ∀ path list,
          ((∀ b ∈ list, b.line ≤ Json.greatestSigned) →
            r.arguments = some (BreakpointArguments.json path list) →
            r.breakpoints? = some (path, list)) ∧
          (r.breakpoints? = some (path, list) →
            (s.handle r).1 =
              [.response s.nextSeq r.seq r.command (.breakpoints (list.map Breakpoint.line))] ∧
            (Body.breakpoints (list.map Breakpoint.line)).json =
              .record [("breakpoints", .arr (list.map fun b =>
                .record [("verified", .bool true), ("line", .int b.line)]))]) := by
  intro s history
  refine ⟨fun path => ?_, fun r hcommand => ⟨?_, fun path list => ⟨breakpoints?_json, ?_⟩⟩⟩
  · have hstart : (start chance).breakpoints.get? path = breakpointsAfter? path [] := rfl
    rw [breakpointsAt, get?_breakpoints_handleAll hstart requests, List.nil_append]
  · exact s.success_setBreakpoints hcommand
  · have hpending : s.pending = [] := pending_handleAll rfl requests
    exact fun hnamed => ⟨handle_setBreakpoints hpending hcommand hnamed, json_breakpoints list⟩

/-- Breakpoints of two sources, one of them set twice over, and a request that names a line but fails for
another: what was set stays, with its repetition, and a launch and the end of the program change nothing. -/
example (chance : Chance) :
    let set := fun seq (path : String) lines => Request.mk seq "setBreakpoints".toList
      (some (.arr [.arr [.null, .str path.toList], .arr lines]))
    let line := fun n => Json.arr [.int n]
    let s := ((start chance).handleAll [set 1 "a.ln" [line 1], set 2 "b.ln" [line 9],
      set 3 "a.ln" [line 7, .arr [.int 3, .str "hp < 10".toList], line 7],
      ⟨4, "launch".toList, some (.arr [.str "a.ln".toList])⟩, set 5 "a.ln" [line 2, .null],
      ⟨6, "terminate".toList, none⟩]).2
    s.breakpointsAt "a.ln".toList = [⟨7, none⟩, ⟨3, some "hp < 10".toList⟩, ⟨7, none⟩] ∧
      s.breakpointsAt "b.ln".toList = [⟨9, none⟩] ∧ s.breakpointsAt "c.ln".toList = [] := by
  cbv

end DebugSession

end LineScript.Debug
