import Mathlib.Logic.Relation
import NumberedBasic.Proofs.Machine.Deed

/-! What a step can do. A statement changes the state by a few updates where the machine stands;
only the step that carries it out counts it and moves on. -/
namespace NumberedBasic.Machine
open Relation (ReflTransGen)

/-- One thing that happens to the state while a statement is carried out. -/
inductive Update (m : Machine) : State → State → Prop
  | change (s : State) (c : Change) : Update m s (m.change s c)
  | read (s : State) (r : Request) : Update m s (readInteger r s).1

variable {s t u : State}

theorem changes_update (m : Machine) (s : State) (changes : List Change) :
    ReflTransGen m.Update s (changes.foldl m.change s) := by
  induction changes generalizing s with
  | nil => exact .refl
  | cons c changes ih => exact (ih (m.change s c)).head (.change s c)

theorem readAll_updates (m : Machine) (prompt : String) (names : List String) (s : State) :
    ReflTransGen m.Update s (readAll prompt names s).1 := by
  induction names generalizing s with
  | nil => exact .refl
  | cons name names ih =>
      have hread := Update.read (m := m) s ⟨s.current, name, prompt⟩
      rw [readAll]
      generalize readInteger ⟨s.current, name, prompt⟩ s = a at hread
      obtain ⟨t, a⟩ := a
      cases a with
      | error f => exact .single hread
      | ok value =>
          have hassign := Update.change (m := m) t (.assign name value)
          exact (ih (t.assign name value)).head hassign |>.head hread

theorem jumpAfter_state (m : Machine) (s : State) (number : Int) :
    (m.jumpAfter s number).1 = s := by
  unfold jumpAfter
  cases m.program.after? number with
  | some line => rfl
  | none => rfl

theorem turn_updates (m : Machine) (s : State) (turn : Turn) :
    ReflTransGen m.Update s (m.turn s turn).1 := by
  cases turn with
  | give result => exact .refl
  | after number =>
      rw [Machine.turn, jumpAfter_state]
  | read prompt names => exact readAll_updates m prompt names s

theorem exec_updates (m : Machine) (s : State) (stmt : Statement) :
    ReflTransGen m.Update s (m.exec s stmt).1 := by
  rw [exec_eq_perform]
  exact (changes_update m s _).trans (turn_updates m _ _)

/-- What every update keeps up holds after a statement. -/
theorem exec_invariant {m : Machine} {I : State → Prop}
    (hupdate : ∀ {s t}, Update m s t → I s → I t) (hs : I s) (stmt : Statement) :
    I (m.exec s stmt).1 := by
  have hupdates := exec_updates m s stmt
  generalize (m.exec s stmt).1 = t at hupdates
  induction hupdates with
  | refl => exact hs
  | tail _ hlast ih => exact hupdate hlast ih

/-- The same line is running, and no further statement has been counted. -/
structure Stays (s t : State) : Prop where
  current : t.current = s.current
  steps : t.steps = s.steps

theorem Update.stays {m : Machine} (h : Update m s t) : Stays s t := by
  cases h with
  | change c =>
      cases c with
      | emit out =>
          rw [Machine.change, emit_eq_withPorts]
          exact ⟨rfl, rfl⟩
      | assign name value => exact ⟨rfl, rfl⟩
      | openLoop name first last => exact ⟨rfl, rfl⟩
      | closeLoop => exact ⟨rfl, rfl⟩
      | call => exact ⟨rfl, rfl⟩
      | leave => exact ⟨rfl, rfl⟩
  | read r =>
      rw [readInteger_eq]
      exact ⟨rfl, rfl⟩

theorem exec_stays (m : Machine) (s : State) (stmt : Statement) : Stays s (m.exec s stmt).1 := by
  refine exec_invariant (I := Stays s) (fun hupdate hs => ?_) ⟨rfl, rfl⟩ stmt
  have hlast := hupdate.stays
  exact ⟨hlast.current.trans hs.current, hlast.steps.trans hs.steps⟩

def Progress.state : Progress → State
  | .running s => s
  | .stopped s _ => s

theorem steps_proceed (m : Machine) (a : Outcome) : (m.proceed a).state.steps = a.1.steps := by
  obtain ⟨s, a⟩ := a
  cases a with
  | error f => rfl
  | ok flow =>
      cases flow with
      | halt => rfl
      | jump line => rfl
      | next =>
          rw [proceed]
          cases m.program.after? s.current with
          | some line => rfl
          | none => rfl

/-- A run goes on where the statement jumped to, or on the line after it. -/
theorem proceed_running {m : Machine} {a : Outcome} (h : m.proceed a = .running t) :
    (∃ line, a.2 = .ok (.jump line) ∧ t = { a.1 with cursor := line }) ∨
      ∃ line, a.2 = .ok .next ∧ m.program.after? a.1.current = some line ∧
        t = { a.1 with cursor := line } := by
  obtain ⟨s, a⟩ := a
  cases a with
  | error f => cases h
  | ok flow =>
      cases flow with
      | halt => cases h
      | jump line =>
          cases h
          exact .inl ⟨line, rfl, rfl⟩
      | next =>
          rw [proceed] at h
          cases hafter : m.program.after? s.current with
          | none =>
              rw [hafter] at h
              cases h
          | some line =>
              rw [hafter] at h
              cases h
              exact .inr ⟨line, rfl, rfl, rfl⟩

/-- A run stops with the fault of the statement, at an END, or behind the last line. -/
theorem proceed_stopped {m : Machine} {a : Outcome} {error : Option LineFault}
    (h : m.proceed a = .stopped t error) :
    t = a.1 ∧ ((∃ fault, a.2 = .error fault ∧ error = some ⟨t.current, fault⟩) ∨
      a.2 = .ok .halt ∧ error = none ∨
      a.2 = .ok .next ∧ error = some ⟨t.current, .noLineAfter t.current⟩) := by
  obtain ⟨s, a⟩ := a
  cases a with
  | error fault =>
      cases h
      exact ⟨rfl, .inl ⟨fault, rfl, rfl⟩⟩
  | ok flow =>
      cases flow with
      | halt =>
          cases h
          exact ⟨rfl, .inr (.inl ⟨rfl, rfl⟩)⟩
      | jump line => cases h
      | next =>
          rw [proceed] at h
          cases hafter : m.program.after? s.current with
          | some line =>
              rw [hafter] at h
              cases h
          | none =>
              rw [hafter] at h
              cases h
              exact ⟨rfl, .inr (.inr ⟨rfl, rfl⟩)⟩

/-- The line that the next step carries out. There is none where the program ends, where the line is
not there, and where the limit has been reached. -/
def due? (m : Machine) (s : State) : Option Line :=
  match m.program.get? s.cursor with
  | none => none
  | some line =>
      if line.statement.isEnd then none
      else if m.limit ≠ 0 ∧ m.limit ≤ s.steps then none
      else some line

/-- Everything that a step can come to, with the line that it carries out. -/
inductive Fetches (m : Machine) (s : State) : Option Line → Progress → Prop
  | astray : m.program.get? s.cursor = none → Fetches m s none (fail s (.noSuchLine s.cursor))
  | ended {line : Line} : m.program.get? s.cursor = some line → line.statement.isEnd = true →
      Fetches m s none (.stopped s none)
  | cut {line : Line} : m.program.get? s.cursor = some line → line.statement.isEnd = false →
      m.limit ≠ 0 ∧ m.limit ≤ s.steps →
      Fetches m s none (fail { s with current := line.number } (.stepLimit m.limit))
  | due {line : Line} : m.program.get? s.cursor = some line → line.statement.isEnd = false →
      ¬ (m.limit ≠ 0 ∧ m.limit ≤ s.steps) →
      Fetches m s (some line) (m.proceed
        (m.exec { s with current := line.number, steps := s.steps + 1 } line.statement))

theorem fetches (m : Machine) (s : State) : Fetches m s (m.due? s) (m.step s) := by
  unfold due? step
  cases hfound : m.program.get? s.cursor with
  | none => exact .astray hfound
  | some line =>
      dsimp only
      cases hend : line.statement.isEnd with
      | true => exact .ended hfound hend
      | false =>
          by_cases hlimit : m.limit ≠ 0 ∧ m.limit ≤ s.steps
          · simp only [Bool.false_eq_true, if_false, if_pos hlimit]
            exact .cut hfound hend hlimit
          · simp only [Bool.false_eq_true, if_false, if_neg hlimit]
            exact .due hfound hend hlimit

theorem Fetches.due_eq {m : Machine} {line : Option Line} {p : Progress} (h : Fetches m s line p) :
    m.due? s = line := by
  cases h with
  | astray hfound => simp [due?, hfound]
  | ended hfound hend => simp [due?, hfound, hend]
  | cut hfound hend hlimit => simp [due?, hfound, hlimit]
  | due hfound hend hlimit => simp [due?, hfound, hend, hlimit]

theorem Fetches.step_eq {m : Machine} {line : Option Line} {p : Progress} (h : Fetches m s line p) :
    m.step s = p := by
  cases h with
  | astray hfound => simp [step, hfound]
  | ended hfound hend => simp [step, hfound, hend]
  | cut hfound hend hlimit => simp [step, hfound, hend, hlimit]
  | due hfound hend hlimit => simp [step, hfound, hend, hlimit]

/-- A step that carries nothing out is the last one. -/
theorem step_of_not_due {m : Machine} (h : m.due? s = none) :
    ∃ t error, m.step s = .stopped t error ∧ t.steps = s.steps := by
  have hfetch := fetches m s
  rw [h] at hfetch
  generalize m.step s = p at hfetch
  cases hfetch with
  | astray hfound => exact ⟨_, _, rfl, rfl⟩
  | ended hfound hend => exact ⟨_, _, rfl, rfl⟩
  | cut hfound hend hlimit => exact ⟨_, _, rfl, rfl⟩

theorem step_of_due {m : Machine} {line : Line} (h : m.due? s = some line) :
    m.step s = m.proceed
      (m.exec { s with current := line.number, steps := s.steps + 1 } line.statement) := by
  have hfetch := fetches m s
  rw [h] at hfetch
  generalize m.step s = p at hfetch
  cases hfetch with
  | due hfound hend hlimit => rfl

theorem mem_of_due {m : Machine} {line : Line} (h : m.due? s = some line) :
    line ∈ m.program.lines := by
  have hfetch := fetches m s
  rw [h] at hfetch
  generalize m.step s = p at hfetch
  cases hfetch with
  | due hfound hend hlimit => exact Program.mem_of_get? hfound

/-- A run goes on only after it has carried out a line. -/
theorem step_running {m : Machine} (h : m.step s = .running t) :
    ∃ line, m.due? s = some line ∧ m.proceed
      (m.exec { s with current := line.number, steps := s.steps + 1 } line.statement) =
        .running t := by
  cases hdue : m.due? s with
  | none =>
      obtain ⟨u, error, hstep, -⟩ := step_of_not_due hdue
      rw [hstep] at h
      cases h
  | some line => exact ⟨line, rfl, (step_of_due hdue).symm.trans h⟩

theorem current_of_step {m : Machine} {line : Line} (hdue : m.due? s = some line)
    (h : m.step s = .running t) : t.current = line.number := by
  have hcurrent :=
    (exec_stays m { s with current := line.number, steps := s.steps + 1 } line.statement).current
  rw [step_of_due hdue] at h
  rcases proceed_running h with ⟨target, -, rfl⟩ | ⟨number, -, -, rfl⟩
  · exact hcurrent
  · exact hcurrent

theorem steps_step_of_due {m : Machine} {line : Line} (h : m.due? s = some line) :
    (m.step s).state.steps = s.steps + 1 := by
  rw [step_of_due h, steps_proceed]
  exact (exec_stays m _ line.statement).steps

/-- The lines carried out by a run of at most so many steps, in order. -/
def executed (m : Machine) : Nat → State → List Line
  | 0, _ => []
  | fuel + 1, s =>
      match m.due? s with
      | none => []
      | some line =>
          match m.step s with
          | .running t => line :: m.executed fuel t
          | .stopped _ _ => [line]

/-- The counter tells how many lines have been carried out. -/
theorem steps_run (m : Machine) (fuel : Nat) (s : State) :
    (m.run fuel s).state.steps = s.steps + (m.executed fuel s).length := by
  induction fuel generalizing s with
  | zero => rfl
  | succ fuel ih =>
      rw [run, executed]
      cases hdue : m.due? s with
      | none =>
          obtain ⟨t, error, hstep, hsteps⟩ := step_of_not_due hdue
          rw [hstep]
          exact hsteps
      | some line =>
          have hsteps := steps_step_of_due hdue
          generalize m.step s = p at hsteps
          cases p with
          | stopped t error => exact hsteps
          | running t =>
              have hcount := ih t
              change t.steps = s.steps + 1 at hsteps
              simp only [List.length_cons]
              omega

theorem length_executed_le (m : Machine) (fuel : Nat) (s : State) :
    (m.executed fuel s).length ≤ fuel := by
  induction fuel generalizing s with
  | zero => exact Nat.le_refl 0
  | succ fuel ih =>
      rw [executed]
      cases m.due? s with
      | none => exact Nat.zero_le _
      | some line =>
          cases m.step s with
          | running t => exact Nat.succ_le_succ (ih t)
          | stopped t error => exact Nat.succ_le_succ (Nat.zero_le fuel)

/-- As long as a run goes on, every step carries out a line. -/
theorem length_executed_of_running {m : Machine} {fuel : Nat} (h : m.run fuel s = .running t) :
    (m.executed fuel s).length = fuel := by
  induction fuel generalizing s with
  | zero => rfl
  | succ fuel ih =>
      rw [run] at h
      rw [executed]
      cases hdue : m.due? s with
      | none =>
          obtain ⟨u, error, hstep, -⟩ := step_of_not_due hdue
          rw [hstep] at h
          cases h
      | some line =>
          generalize m.step s = p at h
          cases p with
          | running u => simp only [List.length_cons, ih h]
          | stopped u error => cases h

/-- What a run carries out may be cut in two where the run may. -/
theorem executed_add (m : Machine) (a b : Nat) (s : State) :
    m.executed (a + b) s = m.executed a s ++
      match m.run a s with
      | .running t => m.executed b t
      | .stopped _ _ => [] := by
  induction a generalizing s with
  | zero => simp [executed, run]
  | succ a ih =>
      rw [Nat.succ_add, executed, executed, run]
      cases hdue : m.due? s with
      | none =>
          obtain ⟨t, error, hstep, -⟩ := step_of_not_due hdue
          rw [hstep]
          rfl
      | some line =>
          cases m.step s with
          | running t => simp only [ih t, List.cons_append]
          | stopped t error => rfl

theorem executed_add_of_running {m : Machine} {a : Nat} (h : m.run a s = .running t) (b : Nat) :
    m.executed (a + b) s = m.executed a s ++ m.executed b t := by
  rw [executed_add, h]

theorem executed_add_of_stopped {m : Machine} {a : Nat} {error : Option LineFault}
    (h : m.run a s = .stopped t error) (b : Nat) : m.executed (a + b) s = m.executed a s := by
  rw [executed_add, h, List.append_nil]

/-- A run that has stopped has carried out whatever any run from there carries out. -/
theorem executed_prefix_of_stopped {m : Machine} {a : Nat} {error : Option LineFault}
    (h : m.run a s = .stopped t error) (b : Nat) : m.executed b s <+: m.executed a s := by
  rw [← executed_add_of_stopped h b, Nat.add_comm, executed_add]
  exact List.prefix_append _ _

/-- A run stops in one state only, however many steps it is given. -/
theorem stopped_unique {m : Machine} {a b : Nat} {error error' : Option LineFault}
    (ha : m.run a s = .stopped t error) (hb : m.run b s = .stopped u error') :
    m.run a s = m.run b s ∧ m.executed a s = m.executed b s := by
  constructor
  · rw [ha, hb, ← run_add_of_stopped ha b, Nat.add_comm, run_add_of_stopped hb a]
  · rw [← executed_add_of_stopped ha b, Nat.add_comm, executed_add_of_stopped hb a]

theorem executed_one {m : Machine} {line : Line} (h : m.due? s = some line) :
    m.executed 1 s = [line] := by
  rw [executed, h]
  cases m.step s with
  | running t => rfl
  | stopped t error => rfl

theorem executed_of_not_due {m : Machine} (h : m.due? s = none) (fuel : Nat) :
    m.executed fuel s = [] := by
  cases fuel with
  | zero => rfl
  | succ fuel => rw [executed, h]

theorem run_one (m : Machine) (s : State) : m.run 1 s = m.step s := by
  rw [run]
  cases m.step s with
  | running t => rfl
  | stopped t error => rfl

theorem run_add_of_running {m : Machine} {a : Nat} (h : m.run a s = .running t) (b : Nat) :
    m.run (a + b) s = m.run b t := by
  rw [run_add, h, resume]

/-- The last step of a run that goes on. -/
theorem run_succ_running {m : Machine} {k : Nat} (h : m.run (k + 1) s = .running t) :
    ∃ u, m.run k s = .running u ∧ m.step u = .running t := by
  cases hrun : m.run k s with
  | stopped u error =>
      rw [run_add_of_stopped hrun] at h
      cases h
  | running u =>
      rw [run_add_of_running hrun, run_one] at h
      exact ⟨u, rfl, h⟩

/-- The last step of a run that has stopped. -/
theorem run_stopped {m : Machine} {fuel : Nat} {error : Option LineFault}
    (h : m.run fuel s = .stopped t error) :
    ∃ k u, m.run k s = .running u ∧ m.step u = .stopped t error ∧
      m.executed fuel s = m.executed k s ++ (m.due? u).toList := by
  induction fuel generalizing s with
  | zero => cases h
  | succ fuel ih =>
      rw [run] at h
      cases hstep : m.step s with
      | stopped u error' =>
          rw [hstep] at h
          refine ⟨0, s, rfl, hstep.trans h, ?_⟩
          simp only [executed, hstep]
          cases m.due? s with
          | none => rfl
          | some line => rfl
      | running u =>
          rw [hstep] at h
          obtain ⟨k, v, hrun, hlast, hexecuted⟩ := ih h
          obtain ⟨line, hdue, -⟩ := step_running hstep
          refine ⟨k + 1, v, ?_, hlast, ?_⟩
          · rw [run, hstep]
            exact hrun
          · simp only [executed, hdue, hstep, hexecuted, List.cons_append]

/-- What holds at the beginning and is kept up by every step holds as long as a run goes on. -/
theorem run_invariant {m : Machine} {I : State → Prop} {k : Nat}
    (hstep : ∀ {s t}, I s → m.step s = .running t → I t) (hs : I s)
    (h : m.run k s = .running t) : I t := by
  induction k generalizing t with
  | zero =>
      cases h
      exact hs
  | succ k ih =>
      obtain ⟨u, hrun, hlast⟩ := run_succ_running h
      exact hstep (ih hrun) hlast

end NumberedBasic.Machine

namespace NumberedBasic.Session

theorem ofProgram_eq_ok {program : Program} {s : Session} (h : ofProgram program = .ok s) :
    s = .new ⟨program, 0, false⟩ .empty := by
  unfold ofProgram at h
  split at h
  · cases h
  · cases h
    rfl

theorem ofSource_eq_ok {source : String} {s : Session} (h : ofSource source = .ok s) :
    ∃ program, s = .new ⟨program, 0, false⟩ .empty := by
  unfold ofSource at h
  split at h
  · exact ⟨_, ofProgram_eq_ok h⟩
  · cases h

theorem run_eq_some {s t : Session} {r : Report} {fuel : Nat} (h : s.run fuel = some (t, r)) :
    ∃ u error, s.machine.run fuel s.initial = .stopped u error ∧
      t = ⟨s.machine, u⟩ ∧ r = ⟨u.outputs.reverse, u.sent.reverse, error⟩ := by
  unfold run at h
  split at h
  · cases h
  · rename_i u error hrun
    cases h
    exact ⟨u, error, hrun, rfl, rfl⟩

theorem run_of_stopped {s : Session} {u : State} {error : Option LineFault} {fuel : Nat}
    (h : s.machine.run fuel s.initial = .stopped u error) :
    s.run fuel = some (⟨s.machine, u⟩, ⟨u.outputs.reverse, u.sent.reverse, error⟩) := by
  rw [run, h]

/-- Running the session comes to an end, and leaves another one and a report. -/
def Ends (s t : Session) (r : Report) : Prop := ∃ fuel, s.run fuel = some (t, r)

end NumberedBasic.Session
