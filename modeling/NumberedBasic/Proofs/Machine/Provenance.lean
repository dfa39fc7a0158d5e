import NumberedBasic.Proofs.Machine.Flow

/-! Where the fault of a run comes from. A fault is put down to the line that was carried out last;
only the limit is put down to the line that would have come next. A line that is not there is missed
one step after the jump to it, and still put down to the jump. -/
namespace NumberedBasic
namespace Machine

/-- The line is the last one that a run of so many steps carries out, and was fetched in the second
state. -/
def Last (m : Machine) (fuel : Nat) (s u : State) (line : Line) : Prop :=
  ∃ k, m.run k s = .running u ∧ m.due? u = some line ∧
    m.executed fuel s = m.executed k s ++ [line]

/-- A run of so many steps carries out nothing after it has come to the second state, and the line
stands there to be carried out next. -/
def Pending (m : Machine) (fuel : Nat) (s u : State) (line : Line) : Prop :=
  ∃ k, m.run k s = .running u ∧ m.executed fuel s = m.executed k s ∧
    m.program.get? u.cursor = some line ∧ line.statement.isEnd = false

/-- Everything that a fault of a run can come from. -/
inductive Origin (m : Machine) (fuel : Nat) (s : State) : LineFault → Prop
  | jump {u : State} {line : Line} {target : Int} : m.Last fuel s u line →
      line.statement.JumpsTo u.vars target → target ∉ m.program.declared →
      Origin m fuel s ⟨line.number, .noSuchLine target⟩
  | limit {u v : State} {line next : Line} : m.Last fuel s u line → m.Pending fuel s v next →
      Origin m fuel s ⟨next.number, .stepLimit m.limit⟩
  | statement {u : State} {line : Line} {fault : Fault} : m.Last fuel s u line →
      fault.isPlain = true ∨ (∃ n, fault = .noLineAfter n) → Origin m fuel s ⟨line.number, fault⟩

variable {m : Machine} {s t u v : State} {line : Line} {fuel : Nat} {e : LineFault}

theorem Last.mem_declared (h : m.Last fuel s u line) : line.number ∈ m.program.declared := by
  obtain ⟨k, -, hdue, -⟩ := h
  exact ⟨line, mem_of_due hdue, rfl⟩

/-- What a run carried out last before it came to a state. -/
theorem last_of_running {k : Nat} (h : m.run (k + 1) s = .running u)
    (hexecuted : m.executed fuel s = m.executed (k + 1) s) :
    ∃ v line, m.Last fuel s v line ∧ m.due? v = some line ∧ m.step v = .running u := by
  obtain ⟨v, hrun, hstep⟩ := run_succ_running h
  obtain ⟨line, hdue, -⟩ := step_running hstep
  refine ⟨v, line, ⟨k, hrun, hdue, ?_⟩, hdue, hstep⟩
  rw [hexecuted, executed_add_of_running hrun, executed_one hdue]

/-- A line that is not there was jumped to from the line carried out last. -/
theorem last_jumpsTo {k : Nat} (hcursor : s.cursor ∈ m.program.declared)
    (h : m.run k s = .running u) (hexecuted : m.executed fuel s = m.executed k s)
    (hmissing : u.cursor ∉ m.program.declared) :
    ∃ v line, m.Last fuel s v line ∧ line.statement.JumpsTo v.vars u.cursor ∧
      u.current = line.number := by
  cases k with
  | zero =>
      cases h
      exact absurd hcursor hmissing
  | succ k =>
      obtain ⟨v, line, hlast, hdue, hstep⟩ := last_of_running h hexecuted
      refine ⟨v, line, hlast, ?_, current_of_step hdue hstep⟩
      obtain ⟨line', hdue', hjumps | ⟨n, hafter⟩⟩ := step_cursor hstep
      · rw [hdue] at hdue'
        cases hdue'
        exact hjumps
      · exact absurd (Program.isLeast_of_after? hafter).1.1 hmissing

/-- A run that has reached its limit has carried out a line. -/
theorem last_of_limit {k : Nat} (hsteps : s.steps = 0) (h : m.run k s = .running u)
    (hexecuted : m.executed fuel s = m.executed k s) (hlimit : m.limit ≠ 0 ∧ m.limit ≤ u.steps) :
    ∃ v line, m.Last fuel s v line := by
  cases k with
  | zero =>
      cases h
      omega
  | succ k =>
      obtain ⟨v, line, hlast, -, -⟩ := last_of_running h hexecuted
      exact ⟨v, line, hlast⟩

theorem run_origin (hcursor : s.cursor ∈ m.program.declared) (hsteps : s.steps = 0)
    (h : m.run fuel s = .stopped t (some e)) : m.Origin fuel s e := by
  obtain ⟨k, u, hrun, hstep, hexecuted⟩ := run_stopped h
  have hfetch := fetches m u
  rw [hstep] at hfetch
  generalize hdue : m.due? u = due at hfetch hexecuted
  generalize hstopped : Progress.stopped t (some e) = p at hfetch
  cases hfetch with
  | astray hfound =>
      cases hstopped
      -- The missing line has not become the current one: the line with the jump still is.
      rw [Option.toList_none, List.append_nil] at hexecuted
      have hmissing := Program.get?_eq_none_iff.mp hfound
      obtain ⟨v, line, hlast, hjumps, hcurrent⟩ := last_jumpsTo hcursor hrun hexecuted hmissing
      rw [hcurrent]
      exact .jump hlast hjumps hmissing
  | ended hfound hend => cases hstopped
  | cut hfound hend hlimit =>
      cases hstopped
      rw [Option.toList_none, List.append_nil] at hexecuted
      obtain ⟨v, line, hlast⟩ := last_of_limit hsteps hrun hexecuted hlimit
      exact .limit hlast ⟨k, hrun, hexecuted, hfound, hend⟩
  | @due line hfound hend hlimit =>
      have hlast : m.Last fuel s u line := ⟨k, hrun, hdue, hexecuted⟩
      have hcurrent := (exec_stays m { u with current := line.number, steps := u.steps + 1 }
        line.statement).current
      obtain ⟨rfl, ⟨fault, herror, heq⟩ | ⟨-, heq⟩ | ⟨-, heq⟩⟩ := proceed_stopped hstopped.symm
      · cases heq
        rw [hcurrent]
        exact .statement hlast (exec_error herror)
      · cases heq
      · cases heq
        rw [hcurrent]
        exact .statement hlast (.inr ⟨_, rfl⟩)

namespace Origin

theorem line_mem (h : m.Origin fuel s e) : e.line ∈ m.program.declared := by
  cases h with
  | jump hlast hjumps hmissing => exact hlast.mem_declared
  | limit hlast hpending =>
      obtain ⟨k, -, -, hfound, -⟩ := hpending
      exact Program.mem_declared hfound
  | statement hlast hfault => exact hlast.mem_declared

theorem exists_last (h : m.Origin fuel s e) :
    ∃ u last, m.Last fuel s u last ∧ ((∀ n, e.fault ≠ .stepLimit n) → e.line = last.number) := by
  cases h with
  | jump hlast hjumps hmissing => exact ⟨_, _, hlast, fun _ => rfl⟩
  | limit hlast hpending => exact ⟨_, _, hlast, fun hother => absurd rfl (hother m.limit)⟩
  | statement hlast hfault => exact ⟨_, _, hlast, fun _ => rfl⟩

theorem exists_pending {n : Nat} (h : m.Origin fuel s e) (hlimit : e.fault = .stepLimit n) :
    ∃ u next, m.Pending fuel s u next ∧ e.line = next.number := by
  cases h with
  | jump hlast hjumps hmissing => cases hlimit
  | limit hlast hpending => exact ⟨_, _, hpending, rfl⟩
  | statement hlast hfault =>
      cases hlimit
      rcases hfault with hplain | ⟨k, hafter⟩
      · cases hplain
      · cases hafter

theorem exists_jump {n : Int} (h : m.Origin fuel s e) (hmissing : e.fault = .noSuchLine n) :
    ∃ u last, m.Last fuel s u last ∧ last.statement.JumpsTo u.vars n ∧
      n ∉ m.program.declared := by
  cases h with
  | jump hlast hjumps hundeclared =>
      cases hmissing
      exact ⟨_, _, hlast, hjumps, hundeclared⟩
  | limit hlast hpending => cases hmissing
  | statement hlast hfault =>
      cases hmissing
      rcases hfault with hplain | ⟨k, hafter⟩
      · cases hplain
      · cases hafter

end Origin

/-- After a jump to a line that is not there a run has nowhere to go. -/
theorem run_of_last_jumpsTo {target : Int} (h : m.Last fuel s u line)
    (hjumps : line.statement.JumpsTo u.vars target) (hmissing : target ∉ m.program.declared) :
    ∃ k t, m.run k s = .stopped t (some ⟨line.number, .noSuchLine target⟩) := by
  obtain ⟨k, hrun, hdue, -⟩ := h
  obtain ⟨v, hstep, rfl⟩ := step_of_jumpsTo hdue hjumps
  have hnext : m.run (k + 1) s = .running v := by
    rw [run_add_of_running hrun, run_one, hstep]
  have hastray := Fetches.astray (Program.get?_eq_none_iff.mpr hmissing)
  refine ⟨k + 1 + 1, v, ?_⟩
  rw [run_add_of_running hnext, run_one, hastray.step_eq, fail, current_of_step hdue hstep]

end Machine

namespace Session

theorem initial_cursor_mem {s : Session} (h : s.program.lines ≠ []) :
    s.initial.cursor ∈ s.program.declared := by
  obtain ⟨first, hfirst⟩ := Program.exists_first? h
  rw [initial_eq, hfirst]
  exact Program.first?_mem_declared hfirst

/-- A fault of a run names a line of the program. -/
structure Names (s : Session) (fuel : Nat) (e : LineFault) : Prop where
  declared : e.line ∈ s.program.declared
  /-- It is the line that was carried out last, unless the limit was reached. -/
  last : ∃ u last, s.machine.Last fuel s.initial u last ∧
    ((∀ n, e.fault ≠ .stepLimit n) → e.line = last.number)
  /-- Where the limit was reached, it is the line that would have come next. -/
  pending : ∀ n, e.fault = .stepLimit n →
    ∃ u next, s.machine.Pending fuel s.initial u next ∧ e.line = next.number

/-- Where the fault of a run comes from. -/
structure Traces (s : Session) (fuel : Nat) (r : Report) : Prop where
  names : ∀ e, r.error = some e → s.Names fuel e
  /-- The fault tells of a line that is not there exactly when the statement carried out last is a
  GOTO or a GOSUB to such a line, be it under IFs. -/
  missing_iff : ∀ n, (∃ e, r.error = some e ∧
      e.fault.message = "line " ++ Decimal.write n ++ " does not exist") ↔
    ∃ u last, s.machine.Last fuel s.initial u last ∧ last.statement.JumpsTo u.vars n ∧
      n ∉ s.program.declared
  /-- No program begins on a line that is not there. -/
  begins : s.initial.cursor ∈ s.program.declared
  /-- Nothing but a jump leads to a line that is not there. -/
  astray : ∀ k u v, s.machine.run k s.initial = .running u → s.machine.step u = .running v →
    v.cursor ∉ s.program.declared →
    ∃ line, s.machine.due? u = some line ∧ line.statement.JumpsTo u.vars v.cursor

theorem fault_names_last_line {s : Session} (hne : s.program.lines ≠ []) {fuel : Nat} {t : Session}
    {r : Report} (h : s.run fuel = some (t, r)) : s.Traces fuel r := by
  have hcursor := initial_cursor_mem hne
  obtain ⟨u, error, hrun, rfl, rfl⟩ := run_eq_some h
  refine ⟨?_, ?_, hcursor, ?_⟩
  · rintro e rfl
    have horigin := Machine.run_origin hcursor rfl hrun
    exact ⟨horigin.line_mem, horigin.exists_last, fun n hlimit => horigin.exists_pending hlimit⟩
  · intro n
    constructor
    · rintro ⟨e, rfl, hmessage⟩
      have horigin := Machine.run_origin hcursor rfl hrun
      exact horigin.exists_jump (Fault.message_eq_noSuchLine_iff.mp hmessage)
    · rintro ⟨v, last, hlast, hjumps, hmissing⟩
      obtain ⟨k, w, hstopped⟩ := Machine.run_of_last_jumpsTo hlast hjumps hmissing
      have hsame := (Machine.stopped_unique hrun hstopped).1
      rw [hrun, hstopped] at hsame
      cases hsame
      exact ⟨_, rfl, rfl⟩
  · intro k v w _ hstep hmissing
    obtain ⟨line, hdue, hjumps | ⟨n, hafter⟩⟩ := Machine.step_cursor hstep
    · exact ⟨line, hdue, hjumps⟩
    · exact absurd (Program.isLeast_of_after? hafter).1.1 hmissing

/-- When the missing line is looked for, the limit has been reached as well. -/
def lost : Session :=
  .new ⟨.ofLines [⟨10, .gosub 30⟩,
    ⟨20, .if_ ⟨.lt, .lit 0, .lit 1⟩ (.if_ ⟨.eq, .lit 1, .lit 1⟩ (.goto 99))⟩, ⟨30, .return_⟩],
    3, false⟩ .empty

theorem fault_names_last_line_lost :
    lost.program.lines ≠ [] ∧
      ∃ t r, lost.run 4 = some (t, r) ∧ r.error = some ⟨20, .noSuchLine 99⟩ ∧
        20 ∈ lost.program.declared ∧
        ∃ u last, lost.machine.Last 4 lost.initial u last ∧
          last.statement.JumpsTo u.vars 99 ∧ 99 ∉ lost.program.declared := by
  have hne : lost.program.lines ≠ [] := by decide
  have hrun : (lost.run 4).map (·.2.error) = some (some ⟨20, .noSuchLine 99⟩) := by
    decide +kernel
  obtain ⟨⟨t, r⟩, hsome, herror⟩ := Option.map_eq_some_iff.mp hrun
  have htraces := fault_names_last_line hne hsome
  exact ⟨hne, t, r, hsome, herror, (htraces.names _ herror).declared,
    (htraces.missing_iff 99).mp ⟨_, herror, rfl⟩⟩

end Session

end NumberedBasic
