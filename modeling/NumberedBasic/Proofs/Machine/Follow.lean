import NumberedBasic.Proofs.Machine.Step
import NumberedBasic.Proofs.Program.Successor

/-! Two machines with different programs, of which the second follows the first. It may take more
steps, and it may stand on another line, as long as the line corresponds to that of the first. -/
namespace NumberedBasic

/-- The state with another line to be carried out next and another count of statements. -/
@[simps] def State.moved (s : State) (cursor : Int) (steps : Nat) : State :=
  { s with cursor, steps }

namespace Machine

variable {J : Int → Int → Prop} {R : State → State → Prop} {m m' : Machine} {s t : State}

/-- The machines emit alike, and what comes after a line in one program corresponds to what comes
after it in the other. -/
structure Parallel (m m' : Machine) (J : Int → Int → Prop) : Prop where
  streaming : m'.streaming = m.streaming
  after : ∀ number, Option.Rel J (m.program.after? number) (m'.program.after? number)

/-- The same result, but for jumps to lines that correspond. -/
inductive Onward (J : Int → Int → Prop) : Except Fault Flow → Except Fault Flow → Prop
  | next : Onward J (.ok .next) (.ok .next)
  | halt : Onward J (.ok .halt) (.ok .halt)
  | jump {line line' : Int} : J line line' → Onward J (.ok (.jump line)) (.ok (.jump line'))
  | error (fault : Fault) : Onward J (.error fault) (.error fault)

/-- The second outcome is the first one as it shows where the second machine stands. -/
structure Echoes (J : Int → Int → Prop) (cursor : Int) (steps : Nat) (a b : Outcome) : Prop where
  state : b.1 = a.1.moved cursor steps
  result : Onward J a.2 b.2

theorem Parallel.emit_moved (h : Parallel m m' J) (s : State) (cursor : Int) (steps : Nat)
    (out : Output) : m'.emit (s.moved cursor steps) out = (m.emit s out).moved cursor steps := by
  unfold emit
  rw [h.streaming]
  cases m.streaming with
  | true => rfl
  | false => rfl

theorem readInteger_moved (r : Request) (s : State) (cursor : Int) (steps : Nat) :
    readInteger r (s.moved cursor steps) =
      ((readInteger r s).1.moved cursor steps, (readInteger r s).2) := by
  rw [readInteger_eq, readInteger_eq]
  rfl

theorem readAll_echoes (prompt : String) (names : List String) (s : State) (cursor : Int)
    (steps : Nat) : Echoes J cursor steps (readAll prompt names s)
      (readAll prompt names (s.moved cursor steps)) := by
  induction names generalizing s with
  | nil => exact ⟨rfl, .next⟩
  | cons name names ih =>
      rw [readAll, readAll, State.moved_current, readInteger_moved]
      generalize readInteger ⟨s.current, name, prompt⟩ s = a
      obtain ⟨t, a⟩ := a
      cases a with
      | ok value => exact ih (t.assign name value)
      | error fault => exact ⟨rfl, .error fault⟩

theorem Parallel.jumpAfter_echoes (h : Parallel m m' J) (s : State) (cursor : Int) (steps : Nat)
    (number : Int) : Echoes J cursor steps (m.jumpAfter s number)
      (m'.jumpAfter (s.moved cursor steps) number) := by
  have hafter := h.after number
  unfold jumpAfter
  generalize m.program.after? number = a at hafter
  generalize m'.program.after? number = b at hafter
  cases hafter with
  | some hline => exact ⟨rfl, .jump hline⟩
  | none => exact ⟨rfl, .error _⟩

theorem Parallel.changes_moved (h : Parallel m m' J) (s : State) (cursor : Int) (steps : Nat)
    (changes : List Change) : changes.foldl m'.change (s.moved cursor steps) =
      (changes.foldl m.change s).moved cursor steps := by
  have hchange : ∀ (s : State) (c : Change),
      m'.change (s.moved cursor steps) c = (m.change s c).moved cursor steps := by
    intro s c
    cases c with
    | emit out => exact h.emit_moved s cursor steps out
    | _ => rfl
  exact List.foldl_hom (State.moved · cursor steps) hchange

theorem Parallel.turn_echoes (h : Parallel m m' J) (s : State) (cursor : Int) (steps : Nat)
    {turn : Turn} (hturn : ∀ target, turn = .give (.ok (.jump target)) → J target target) :
    Echoes J cursor steps (m.turn s turn) (m'.turn (s.moved cursor steps) turn) := by
  cases turn with
  | give result =>
      cases result with
      | error fault => exact ⟨rfl, .error fault⟩
      | ok flow =>
          cases flow with
          | next => exact ⟨rfl, .next⟩
          | halt => exact ⟨rfl, .halt⟩
          | jump target => exact ⟨rfl, .jump (hturn target rfl)⟩
  | after number => exact h.jumpAfter_echoes s cursor steps number
  | read prompt names => exact readAll_echoes prompt names s cursor steps

/-- Carrying out the same statement, the two machines do the same. -/
theorem Parallel.exec_echoes (h : Parallel m m' J) (s : State) (cursor : Int) (steps : Nat)
    (stmt : Statement) (hstmt : ∀ target ∈ stmt.targets, J target target) :
    Echoes J cursor steps (m.exec s stmt) (m'.exec (s.moved cursor steps) stmt) := by
  rw [exec_eq_perform, exec_eq_perform, perform, perform, h.changes_moved]
  refine h.turn_echoes _ cursor steps fun target hjump => hstmt target ?_
  have hjumps : stmt.JumpsTo s.vars target := (deed_does s.vars s.loops s.calls stmt).jumpsTo hjump
  exact hjumps.mem_targets

/-- Without a limit a line that is found and is no END is carried out. -/
theorem step_of_found (hm : m.limit = 0) {line : Line}
    (hfound : m.program.get? s.cursor = some line) (hend : line.statement.isEnd = false) :
    m.step s = m.proceed
      (m.exec { s with current := line.number, steps := s.steps + 1 } line.statement) :=
  Fetches.step_eq (.due hfound hend fun hlimit => hlimit.1 hm)

/-- What can be seen of a run that has stopped is the same. -/
structure SameEnd (s t : State) : Prop where
  vars : t.vars = s.vars
  input : t.input = s.input
  outputs : t.outputs = s.outputs
  sent : t.sent = s.sent

theorem SameEnd.trans {u : State} (h : SameEnd s t) (h' : SameEnd t u) : SameEnd s u :=
  ⟨h'.vars.trans h.vars, h'.input.trans h.input, h'.outputs.trans h.outputs, h'.sent.trans h.sent⟩

/-- Both runs go on in states that stand in the relation, or both have stopped with the same end. -/
inductive Follows (R : State → State → Prop) : Progress → Progress → Prop
  | running {s t : State} : R s t → Follows R (.running s) (.running t)
  | stopped {s t : State} {error : Option LineFault} :
      SameEnd s t → Follows R (.stopped s error) (.stopped t error)

/-- The states differ at most in the count, in the line to be carried out next and in the one
carried out last. The last of these goes unnoticed where the next line is there: carrying that one
out, a machine puts everything down to it. -/
structure Level (p : Program) (J : Int → Int → Prop) (s t : State) : Prop where
  rest : t = { s with cursor := t.cursor, current := t.current, steps := t.steps }
  cursor : J s.cursor t.cursor
  current : t.current = s.current ∨ s.cursor ∈ p.declared

theorem Level.sameEnd {p : Program} (h : Level p J s t) : SameEnd s t := by
  rw [h.rest]
  exact ⟨rfl, rfl, rfl, rfl⟩

/-- A line that is not there is missed by both machines. -/
theorem Level.astray_follows {p : Program} (h : Level p J s t) (hcursor : s.cursor = t.cursor)
    (hmissing : s.cursor ∉ p.declared) :
    Follows (Level p J) (fail s (.noSuchLine s.cursor)) (fail t (.noSuchLine t.cursor)) := by
  rw [fail, fail, h.current.resolve_right hmissing, hcursor]
  exact .stopped h.sameEnd

theorem Parallel.proceed_follows (h : Parallel m m' J) {p : Program} {cursor : Int} {steps : Nat}
    {a b : Outcome} (hab : Echoes J cursor steps a b) :
    Follows (Level p J) (m.proceed a) (m'.proceed b) := by
  obtain ⟨s, a⟩ := a
  obtain ⟨t, b⟩ := b
  obtain ⟨hstate, hresult⟩ := hab
  dsimp only at hstate hresult
  subst hstate
  cases hresult with
  | next =>
      have hafter := h.after s.current
      rw [proceed, proceed, State.moved_current]
      generalize m.program.after? s.current = a at hafter
      generalize m'.program.after? s.current = b at hafter
      cases hafter with
      | some hline => exact .running ⟨rfl, hline, .inl rfl⟩
      | none => exact .stopped ⟨rfl, rfl, rfl, rfl⟩
  | halt => exact .stopped ⟨rfl, rfl, rfl, rfl⟩
  | jump hline => exact .running ⟨rfl, hline, .inl rfl⟩
  | error fault => exact .stopped ⟨rfl, rfl, rfl, rfl⟩

/-- Where both machines carry out the same statement on the same line, the second still follows. -/
theorem Parallel.exec_follows (h : Parallel m m' J) {p : Program} (hst : Level p J s t)
    (number : Int) {stmt : Statement} (hstmt : ∀ target ∈ stmt.targets, J target target) :
    Follows (Level p J)
      (m.proceed (m.exec { s with current := number, steps := s.steps + 1 } stmt))
      (m'.proceed (m'.exec { t with current := number, steps := t.steps + 1 } stmt)) := by
  have hechoes := h.exec_echoes { s with current := number, steps := s.steps + 1 } t.cursor
    (t.steps + 1) stmt hstmt
  have hstate : { t with current := number, steps := t.steps + 1 } =
      State.moved { s with current := number, steps := s.steps + 1 } t.cursor (t.steps + 1) := by
    rw [hst.rest]
    rfl
  rw [hstate]
  exact h.proceed_follows hechoes

/-- A machine that follows every step in one step or more follows every run, in as many steps or
more. -/
theorem run_follows
    (hstep : ∀ {s t}, R s t → ∃ k, Follows R (m.step s) (m'.run (k + 1) t)) (h : R s t)
    (fuel : Nat) : ∃ k, fuel ≤ k ∧ Follows R (m.run fuel s) (m'.run k t) := by
  induction fuel generalizing s t with
  | zero => exact ⟨0, Nat.le_refl 0, .running h⟩
  | succ fuel ih =>
      obtain ⟨k, hfollows⟩ := hstep h
      rw [run]
      generalize m.step s = a at hfollows
      generalize hrun : m'.run (k + 1) t = b at hfollows
      cases hfollows with
      | running h =>
          obtain ⟨j, hle, hrest⟩ := ih h
          refine ⟨k + 1 + j, by omega, ?_⟩
          rw [run_add_of_running hrun]
          exact hrest
      | stopped hend =>
          refine ⟨k + 1 + fuel, by omega, ?_⟩
          rw [run_add_of_stopped hrun]
          exact .stopped hend

end Machine

/-- A session comes to one end only. -/
theorem Session.Ends.unique {s t u : Session} {r q : Report} (h : s.Ends t r) (h' : s.Ends u q) :
    t = u ∧ r = q := by
  obtain ⟨fuel, hrun⟩ := h
  obtain ⟨fuel', hrun'⟩ := h'
  obtain ⟨v, error, hstopped, rfl, rfl⟩ := run_eq_some hrun
  obtain ⟨w, error', hstopped', rfl, rfl⟩ := run_eq_some hrun'
  have hsame := (Machine.stopped_unique hstopped hstopped').1
  rw [hstopped, hstopped'] at hsame
  cases hsame
  exact ⟨rfl, rfl⟩

/-- Without a limit and on the same input, whatever an earlier run has left, both programs run for
ever, or both come to an end with the same output, the same requests and the same error, and leave
the same variables and input. -/
def Program.RunsAs (p q : Program) : Prop :=
  ∀ (streaming : Bool) (left : State),
    let a : Session := ⟨⟨p, 0, streaming⟩, left⟩
    let b : Session := ⟨⟨q, 0, streaming⟩, left⟩
    ((∀ t r, ¬ a.Ends t r) ∧ ∀ t r, ¬ b.Ends t r) ∨
      ∃ t u r, a.Ends t r ∧ b.Ends u r ∧ t.vars = u.vars ∧ t.input = u.input

/-- What the second program comes to, the first one comes to as well. -/
theorem Program.RunsAs.ends {p q : Program} (h : p.RunsAs q) {streaming : Bool} {left : State}
    {u : Session} {r : Report} (hq : Session.Ends ⟨⟨q, 0, streaming⟩, left⟩ u r) :
    ∃ t, Session.Ends ⟨⟨p, 0, streaming⟩, left⟩ t r ∧ t.vars = u.vars ∧ t.input = u.input := by
  rcases h streaming left with ⟨-, hnever⟩ | ⟨t, v, r', hp, hq', hvars, hinput⟩
  · exact absurd hq (hnever u r)
  · obtain ⟨rfl, rfl⟩ := hq'.unique hq
    exact ⟨t, hp, hvars, hinput⟩

theorem Program.runsAs_of_follows {p q : Program} {R : State → State → Prop}
    (hstep : ∀ streaming {s t}, R s t → ∃ k, Machine.Follows R
      (Machine.step ⟨p, 0, streaming⟩ s) (Machine.run ⟨q, 0, streaming⟩ (k + 1) t))
    (hstart : ∀ input,
      R (State.start input (p.first?.getD 0)) (State.start input (q.first?.getD 0))) :
    p.RunsAs q := by
  intro streaming left a b
  have hfollows : ∀ fuel, ∃ k, fuel ≤ k ∧
      Machine.Follows R (a.machine.run fuel a.initial) (b.machine.run k b.initial) :=
    Machine.run_follows (hstep streaming) (hstart left.input)
  by_cases hends : ∃ fuel t error, a.machine.run fuel a.initial = .stopped t error
  · obtain ⟨fuel, s, error, hrun⟩ := hends
    obtain ⟨k, -, hfollows⟩ := hfollows fuel
    rw [hrun] at hfollows
    generalize hrun' : b.machine.run k b.initial = y at hfollows
    cases hfollows with
    | @stopped _ t _ hend =>
        have hreport := Session.run_of_stopped (s := b) hrun'
        rw [hend.outputs, hend.sent] at hreport
        exact .inr ⟨_, _, _, ⟨fuel, Session.run_of_stopped hrun⟩, ⟨k, hreport⟩, hend.vars.symm,
          hend.input.symm⟩
  · refine .inl ⟨?_, ?_⟩
    · rintro t r ⟨fuel, hrun⟩
      obtain ⟨u, error, hstopped, -⟩ := Session.run_eq_some hrun
      exact hends ⟨fuel, u, error, hstopped⟩
    · -- A run of the second program that stops would cut short the run that follows the first.
      rintro t r ⟨fuel, hrun⟩
      obtain ⟨u, error, hstopped, -⟩ := Session.run_eq_some hrun
      obtain ⟨k, hle, hfollows⟩ := hfollows fuel
      have hlonger : b.machine.run k b.initial = .stopped u error := by
        rw [← Nat.add_sub_cancel' hle, Machine.run_add_of_stopped hstopped]
      rw [hlonger] at hfollows
      generalize hfree : a.machine.run fuel a.initial = x at hfollows
      cases hfollows with
      | @stopped s _ _ hend => exact hends ⟨fuel, s, error, hfree⟩

end NumberedBasic
