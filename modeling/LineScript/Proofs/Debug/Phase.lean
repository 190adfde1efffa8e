import LineScript.Proofs.Debug.Serve
import LineScript.Proofs.Debug.Termination

/-!
What the phase of a session tells. Requests set the phase, the runtime and whether its program runs
apart from one another, and some set only one of the three. Even so the phase of a session tells whether
there is a runtime and how it stands, as every turn sees to (`Turn.tells`), whatever requests have led to
the session, failing ones included (`phase_history`).
-/

namespace LineScript.Debug

/-- What a phase tells of the runtime. -/
def Phase.Tells : Phase → Option Runtime → Prop
  | uninitialized, runtime => runtime = none
  | initialized, _ => True
  | launched, runtime => ∃ r, runtime = some r ∧ r.running = false ∧ r.stack = []
  | running, runtime => ∃ r, runtime = some r ∧ r.running = true
  | stepping, runtime => ∃ r, runtime = some r
  | terminated, runtime => ∀ r, runtime = some r → r.running = false

namespace DebugSession

variable {s s' : DebugSession} {command : Command} {success : Bool} {requests : List Request}

/-! ## Turns -/

/-- A turn that goes to a phase makes true what the phase tells, and one that stays in it keeps that. -/
theorem Turn.tells (h : Turn s command success s') (hs : s.phase.Tells s.runtime) :
    s'.phase.Tells s'.runtime := by
  cases h with
  | fails => exact hs
  | asks => exact hs
  | initializes => trivial
  | launches => exact ⟨_, rfl, rfl, rfl⟩
  | restarts => exact ⟨_, rfl, rfl, rfl⟩
  | sets => exact hs
  | waits => exact hs
  | resumes => exact ⟨_, rfl, rfl⟩
  | pushes => exact ⟨_, rfl⟩
  | pops => exact ⟨_, rfl⟩
  | stops => exact s.still_stop
  | leaves => exact s.still_stop

/-- No turn takes the runtime away. -/
theorem Turn.isSome_runtime (h : Turn s command success s') (hs : s.runtime.isSome = true) :
    s'.runtime.isSome = true := by
  have hstop : s.stop.runtime.isSome = true := by rw [stop, Option.isSome_map, hs]
  cases h with
  | fails => exact hs
  | asks => exact hs
  | initializes => exact hs
  | launches => rfl
  | restarts => rfl
  | sets => exact hs
  | waits => exact hs
  | resumes => rfl
  | pushes => rfl
  | pops => rfl
  | stops => exact hstop
  | leaves => exact hstop

/-! ## Requests in turn -/

theorem tells_handleAll (hs : s.phase.Tells s.runtime) (requests : List Request) :
    (s.handleAll requests).2.phase.Tells (s.handleAll requests).2.runtime :=
  handleAll_keeps (I := fun s => s.phase.Tells s.runtime)
    (fun _ _ => handle_keeps (fun _ _ h => h) Turn.tells) hs requests

theorem isSome_runtime_handleAll (hs : s.runtime.isSome = true) (requests : List Request) :
    (s.handleAll requests).2.runtime.isSome = true :=
  handleAll_keeps (I := fun s => s.runtime.isSome = true)
    (fun _ _ => handle_keeps (fun _ _ h => h) Turn.isSome_runtime) hs requests

theorem finished_handleAll (s : DebugSession) (requests : List Request) :
    (s.handleAll requests).2.finished =
      (s.finished || requests.any fun r => r.command == disconnectName) := by
  induction requests generalizing s with
  | nil => simp [handleAll]
  | cons r requests ih =>
    rw [List.any_cons, ← Bool.or_assoc, ← finished_handle]
    exact ih (s.handle r).2

/-- Whatever requests have led to a session, its phase tells of its runtime, the runtime stays once it is
there, and the session is finished if there was a disconnect among the requests, and only then. -/
theorem phase_history (chance : Chance) (requests : List Request) :
    let s := ((start chance).handleAll requests).2
    s.phase.Tells s.runtime ∧
      (s.runtime.isSome = true →
        ∀ more, (s.handleAll more).2.runtime.isSome = true) ∧
      (s.finished = true ↔ ∃ r ∈ requests, Command.ofName? r.command = some .disconnect) := by
  intro s
  have hstart : (start chance).phase.Tells (start chance).runtime := rfl
  refine ⟨tells_handleAll hstart requests, isSome_runtime_handleAll, ?_⟩
  rw [finished_handleAll]
  simp only [start, Bool.false_or, List.any_eq_true, beq_iff_eq, ofName?_eq_disconnect]

end DebugSession

end LineScript.Debug
