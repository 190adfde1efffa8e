import LineScript.Session.Run

/-! What statements do to the host. A function writes to the console, prompts, pauses, draws or reads the
clock, and nothing else; so a relation between hosts that each of these keeps (`Host.Kept`) holds between
the hosts before and after any statement (`Kept.runItem`). One such relation is that a console has
recorded further events (`kept_records`). The least that a statement does is to write one line
(`Session.Wrote`). -/

namespace LineScript

theorem Session.host_writeBack (s : Session) (receiver : Option Text) (update : Option Value) :
    (s.writeBack receiver update).host = s.host := by
  unfold writeBack
  split
  · split <;> rfl
  · rfl

/-- A relation between a host and a later one that everything a function can do to its host keeps. -/
structure Host.Kept (R : Host → Host → Prop) : Prop where
  refl : ∀ h, R h h
  trans : ∀ {h h' h''}, R h h' → R h' h'' → R h h''
  write : ∀ h t, R h (h.write t)
  prompt : ∀ h message, R h (h.prompt message).2
  pause : ∀ h nanoseconds, R h (h.pause nanoseconds)
  between : ∀ h low high, R h (h.between low high).2
  fraction : ∀ h, R h h.fraction.2
  now : ∀ h, R h h.now.2

namespace Host.Kept

variable {R : Host → Host → Prop} (hR : Kept R)

include hR

/-! ## Functions -/

theorem writeAll (ts : List Text) (h : Host) : R h (h.writeAll ts) := by
  unfold Host.writeAll
  induction ts generalizing h with
  | nil => exact hR.refl h
  | cons t ts ih => exact hR.trans (hR.write h t) (ih (h.write t))

theorem randomInteger (args : Arguments) (h : Host) : R h (Numeric.randomInteger args h).2 := by
  unfold Numeric.randomInteger
  split
  · exact hR.refl h
  · next low _ =>
    split
    · exact hR.refl h
    · next high _ =>
      simp only
      split
      · exact hR.refl h
      · exact hR.between h (low.ceil.toInt Numeric.leastInteger Numeric.greatestInteger)
          (high.floor.toInt Numeric.leastInteger Numeric.greatestInteger)

theorem sleepFor (args : Arguments) (h : Host) : R h (Numeric.sleepFor args h).2 := by
  unfold Numeric.sleepFor
  split
  · exact hR.refl h
  · split
    · exact hR.refl h
    · exact hR.pause h _

/-- A draw that is logged. -/
theorem draw (low high : Int) (message : Int → Text) (h : Host) :
    R h (Game.logGame (h.between low high).2 (message (h.between low high).1)) :=
  hR.trans (hR.between h low high) (hR.write _ _)

theorem restore (args : Arguments) (h : Host) : R h (Game.restore args h).2 := by
  unfold Game.restore
  simp only
  split <;> exact hR.write h _

theorem reply (f : Builtin) (c : BuiltinCall) (h : Host) : R h (f.reply c h).2 := by
  cases f
  case print => exact hR.write h _
  case input => exact hR.prompt h _
  case random => exact hR.fraction h
  case randint => exact hR.randomInteger _ h
  case now => exact hR.now h
  case sleep => exact hR.sleepFor _ h
  case searchBuiltin => exact hR.writeAll _ h
  case spawnPlayer => exact hR.write h _
  case rollDice => exact hR.draw 1 _ (fun n => _ ++ ": ".toList ++ Text.ofInt n) h
  case attack =>
    exact hR.draw 0 5 (fun n => _ ++ ((Game.strength c.args).add (.ofInt n)).plainText) h
  case heal => exact hR.restore _ h
  case saveGame => exact hR.write h _
  all_goals exact hR.refl h

theorem call (f : Builtin) (c : BuiltinCall) (h : Host) : R h (f.call c h).host := by
  have hreply := hR.reply f c h
  unfold Builtin.call
  generalize f.reply c h = outcome at hreply ⊢
  obtain ⟨answer, h'⟩ := outcome
  cases answer with
  | value v => exact hreply
  | update v receiver => exact hreply
  | mismatch expected got => exact hR.trans hreply (hR.write h' _)
  | failure e => exact hreply

/-! ## Evaluation -/

theorem invoke (s : Session) (e : Entry) (name : Text) (receiver : Option Text) (args : Arguments) :
    R s.host (s.invoke e name receiver args).2.host := by
  unfold Session.invoke
  rw [Session.host_writeBack]
  exact hR.call e.function ⟨name, s.registry, args⟩ s.host

mutual

theorem evalOperand (s : Session) (o : Operand) : R s.host (s.evalOperand o).2.host := by
  cases o with
  | text t => exact hR.refl s.host
  | call t name operands =>
    have hargs := evalOperands s operands
    simp only [Session.evalOperand]
    cases s.registry.lookup? name with
    | none => exact hR.refl s.host
    | some e =>
      generalize s.evalOperands operands = outcome at hargs ⊢
      obtain ⟨failure | args, s'⟩ := outcome
      · exact hargs
      · exact hR.trans hargs (hR.invoke s' e name _ args)
termination_by structural o

theorem evalOperands (s : Session) (operands : List Operand) :
    R s.host (s.evalOperands operands).2.host := by
  cases operands with
  | nil => exact hR.refl s.host
  | cons o rest =>
    have ho := evalOperand s o
    simp only [Session.evalOperands]
    generalize s.evalOperand o = outcome at ho ⊢
    obtain ⟨failure | v, s'⟩ := outcome
    · exact ho
    · have hrest := evalOperands s' rest
      simp only
      generalize s'.evalOperands rest = outcome at hrest ⊢
      obtain ⟨failure | vs, s''⟩ := outcome
      · exact hR.trans ho hrest
      · exact hR.trans ho hrest
termination_by structural operands

end

theorem eval (s : Session) (t : Text) : R s.host (s.eval t).2.host :=
  hR.evalOperand s (Operand.read t)

/-! ## Statements -/

theorem importModule (s : Session) (name : Text) : R s.host (s.importModule name).host := by
  unfold Session.importModule
  split <;> exact hR.write s.host _

theorem runAssignment (s : Session) (name expression : Text) :
    R s.host (s.runAssignment name expression).2.host := by
  have heval := hR.eval s expression
  unfold Session.runAssignment
  generalize s.eval expression = outcome at heval ⊢
  obtain ⟨failure | v, s'⟩ := outcome
  · exact heval
  · exact hR.trans heval (hR.write s'.host _)

theorem runExpression (s : Session) (t : Text) : R s.host (s.runExpression t).2.host := by
  have heval := hR.eval s t
  unfold Session.runExpression
  generalize s.eval t = outcome at heval ⊢
  obtain ⟨failure | v, s'⟩ := outcome
  · exact heval
  · simp only
    split
    · exact heval
    · exact hR.trans heval (hR.write s'.host _)

theorem runCall (s : Session) (name args : Text) : R s.host (s.runCall name args).2.host := by
  have hargs := hR.evalOperands s (Operand.readAll args)
  unfold Session.runCall
  simp only
  generalize s.evalOperands (Operand.readAll args) = outcome at hargs ⊢
  obtain ⟨failure | vs, s'⟩ := outcome
  · exact hargs
  · simp only
    cases s'.registry.lookup? name with
    | none => exact hR.trans hargs (hR.write s'.host _)
    | some e =>
      have hcall := hR.trans hargs
        (hR.invoke s' e name ((Operand.readAll args).head?.map Operand.source) vs)
      simp only
      generalize s'.invoke e name _ vs = outcome at hcall ⊢
      obtain ⟨failure | v, s''⟩ := outcome
      · exact hcall
      · simp only
        split
        · exact hR.trans hcall (hR.write s''.host _)
        · exact hcall

theorem runItem (s : Session) (i : Item) : R s.host (s.runItem i).2.host := by
  obtain ⟨line, statement⟩ := i
  cases statement with
  | structural => exact hR.refl s.host
  | importModule name => exact hR.importModule s name
  | declaration keyword signature => exact hR.write s.host _
  | tryOpener => exact hR.refl s.host
  | orphan kind => exact hR.write s.host _
  | assignment name expression => exact hR.runAssignment s name expression
  | call name args => exact hR.runCall s name args
  | expression t => exact hR.runExpression s t

end Host.Kept

/-! ## The log -/

namespace Console

variable {c c' c'' : Console} {events events' : List ConsoleEvent}

theorem silent_record (c : Console) (e : ConsoleEvent) : (c.record e).silent = c.silent := by
  cases hs : c.silent <;> simp [record, hs]

theorem log_foldl_record (c : Console) (events : List ConsoleEvent) :
    (events.foldl record c).log = if c.silent then c.log else c.log ++ events.toArray := by
  induction events generalizing c with
  | nil => simp
  | cons e events ih =>
    rw [List.foldl_cons, ih, silent_record]
    cases hs : c.silent with
    | true => simp [record, hs]
    | false => simp [record, hs]

/-- A console on which events have been recorded, whatever answers have been used up. -/
structure Records (c : Console) (events : List ConsoleEvent) (c' : Console) : Prop where
  silent : c'.silent = c.silent
  log : c'.log = (events.foldl record c).log

theorem Records.nil (c : Console) : c.Records [] c := ⟨rfl, rfl⟩

theorem Records.record (c : Console) (e : ConsoleEvent) : c.Records [e] (c.record e) :=
  ⟨c.silent_record e, rfl⟩

theorem Records.append (h : c.Records events c') (h' : c'.Records events' c'') :
    c.Records (events ++ events') c'' where
  silent := h'.silent.trans h.silent
  log := by
    rw [h'.log, log_foldl_record, h.log, h.silent, log_foldl_record, log_foldl_record]
    cases c.silent with
    | true => rfl
    | false => simp

theorem Records.prompt (c : Console) (message : Text) :
    ∃ events, c.Records events (c.prompt message).2 := by
  cases hs : c.silent with
  | true => exact ⟨[], by simpa [Console.prompt, hs] using Records.nil c⟩
  | false =>
    have hrecord := Records.record c (.prompt message)
    refine ⟨[.prompt message], ?_⟩
    simp only [Console.prompt, hs, Bool.false_eq_true, ↓reduceIte]
    split
    · exact hrecord
    · exact ⟨hrecord.silent, hrecord.log⟩

end Console

/-- Whatever is done to a host, its console has recorded events. -/
theorem kept_records :
    Host.Kept fun h h' => ∃ events, h.console.Records events h'.console where
  refl h := ⟨[], .nil h.console⟩
  trans := by
    rintro h h' h'' ⟨events, hfirst⟩ ⟨events', hsecond⟩
    exact ⟨events ++ events', hfirst.append hsecond⟩
  write h t := ⟨[.line t], .record h.console (.line t)⟩
  prompt h message := Console.Records.prompt h.console message
  pause h nanoseconds := ⟨[.pause nanoseconds], .record h.console (.pause nanoseconds)⟩
  between h _ _ := ⟨[], .nil h.console⟩
  fraction h := ⟨[], .nil h.console⟩
  now h := ⟨[], .nil h.console⟩

/-! ## One line -/

/-- Nothing has happened to a session but that a line has been written: it is the last one on the
console, unless that is silent. -/
structure Session.Wrote (s : Session) (t : Text) (s' : Session) : Prop where
  lines : s'.host.console.lines =
    s.host.console.lines ++ if s.host.console.silent then [] else [t]
  prompts : s'.host.console.prompts = s.host.console.prompts
  answers : s'.host.console.answers = s.host.console.answers
  silent : s'.host.console.silent = s.host.console.silent
  rest : s' = { s with host := { s.host with console := s'.host.console } }

theorem Session.wrote_write (s : Session) (t : Text) : s.Wrote t (s.write t) where
  lines := by
    cases h : s.host.console.silent with
    | true => simp [write, Host.write, Console.write, Console.record, h]
    | false => exact Console.lines_write h t
  prompts := s.host.console.prompts_write t
  answers := by
    cases h : s.host.console.silent <;>
      simp [write, Host.write, Console.write, Console.record, h]
  silent := s.host.console.silent_record (.line t)
  rest := rfl

end LineScript
