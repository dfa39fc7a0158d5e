import NumberedBasic.Machine.Statement

/-! Running a program statement by statement. -/
namespace NumberedBasic.Machine

inductive Progress where
  | running (s : State)
  | stopped (s : State) (error : Option LineFault)
  deriving DecidableEq, Repr

/-- Stops with a fault on the line carried out last. -/
def fail (s : State) (fault : Fault) : Progress := .stopped s (some ⟨s.current, fault⟩)

/-- Goes on where a statement left off. -/
def proceed (m : Machine) : Outcome → Progress
  | (s, .error f) => fail s f
  | (s, .ok .halt) => .stopped s none
  | (s, .ok (.jump line)) => .running { s with cursor := line }
  | (s, .ok .next) =>
      match m.program.after? s.current with
      | some line => .running { s with cursor := line }
      | none => fail s (.noLineAfter s.current)

/-- Fetches the line at the cursor and carries it out. An END there stops the program before it
counts as a statement. -/
def step (m : Machine) (s : State) : Progress :=
  match m.program.get? s.cursor with
  | none => fail s (.noSuchLine s.cursor)
  | some line =>
      if line.statement.isEnd then .stopped s none
      else if m.limit ≠ 0 ∧ m.limit ≤ s.steps then
        fail { s with current := line.number } (.stepLimit m.limit)
      else
        m.proceed
          (m.exec { s with current := line.number, steps := s.steps + 1 } line.statement)

/-- Carries out at most so many steps. -/
def run (m : Machine) : Nat → State → Progress
  | 0, s => .running s
  | fuel + 1, s =>
      match m.step s with
      | .running s => m.run fuel s
      | .stopped s error => .stopped s error

/-- Goes on with a run that was cut off. -/
def resume (m : Machine) (fuel : Nat) : Progress → Progress
  | .running s => m.run fuel s
  | .stopped s error => .stopped s error

/-- A run may be cut in two anywhere. -/
theorem run_add (m : Machine) (a b : Nat) (s : State) :
    m.run (a + b) s = m.resume b (m.run a s) := by
  induction a generalizing s with
  | zero => simp [run, resume]
  | succ a ih =>
      rw [Nat.succ_add, run, run]
      cases m.step s with
      | running s => exact ih s
      | stopped s error => rfl

/-- More steps do not change a run that has stopped. -/
theorem run_add_of_stopped {m : Machine} {fuel : Nat} {s t : State} {error : Option LineFault}
    (h : m.run fuel s = .stopped t error) (extra : Nat) :
    m.run (fuel + extra) s = .stopped t error := by
  rw [run_add, h]
  rfl

end NumberedBasic.Machine
