import NumberedBasic.Proofs.Machine.Step

/-! A limit on the number of statements cuts a run short and changes nothing else. -/
namespace NumberedBasic
namespace Machine

@[simps] def withLimit (m : Machine) (n : Nat) : Machine := { m with limit := n }

variable {m : Machine} {s u : State} {line : Line} {n : Nat}

/-- The statements do not know of the limit. -/
theorem exec_withLimit (m : Machine) (n : Nat) (s : State) (stmt : Statement) :
    (m.withLimit n).exec s stmt = m.exec s stmt := by
  induction stmt with
  | if_ c body ih => rw [exec, exec, ih]
  | input prompt names => cases prompt <;> rfl
  | _ => rfl

theorem proceed_withLimit (m : Machine) (n : Nat) (a : Outcome) :
    (m.withLimit n).proceed a = m.proceed a := rfl

/-- Below the limit the next step is the one that would be taken without it. -/
theorem fetches_withLimit_of_lt (hm : m.limit = 0) (h : s.steps < n) :
    Fetches (m.withLimit n) s (m.due? s) (m.step s) := by
  have hfetch := fetches m s
  generalize m.due? s = line at hfetch
  generalize m.step s = p at hfetch
  cases hfetch with
  | astray hfound => exact .astray hfound
  | ended hfound hend => exact .ended hfound hend
  | cut hfound hend hlimit => exact absurd hm hlimit.1
  | due hfound hend hlimit =>
      have hroom : ¬ (n ≠ 0 ∧ n ≤ s.steps) := by omega
      have hdue := Fetches.due (m := m.withLimit n) hfound hend hroom
      rw [exec_withLimit, proceed_withLimit] at hdue
      exact hdue

/-- Where no line is due, the limit makes no difference. -/
theorem step_withLimit_of_not_due (hm : m.limit = 0) (h : m.due? s = none) :
    (m.withLimit n).step s = m.step s := by
  have hfetch := fetches m s
  rw [h] at hfetch
  generalize m.step s = p at hfetch
  cases hfetch with
  | astray hfound => exact Fetches.step_eq (.astray hfound)
  | ended hfound hend => exact Fetches.step_eq (.ended hfound hend)
  | cut hfound hend hlimit => exact absurd hm hlimit.1

/-- At the limit the line that is due stops the machine instead of being carried out. -/
theorem step_withLimit_of_due (hn : 0 < n) (hsteps : n ≤ s.steps) (h : m.due? s = some line) :
    (m.withLimit n).step s = fail { s with current := line.number } (.stepLimit n) := by
  have hfetch := fetches m s
  rw [h] at hfetch
  generalize m.step s = p at hfetch
  cases hfetch with
  | due hfound hend hlimit => exact Fetches.step_eq (.cut hfound hend ⟨Nat.ne_of_gt hn, hsteps⟩)

theorem due?_withLimit_of_le (hn : 0 < n) (hsteps : n ≤ s.steps) :
    (m.withLimit n).due? s = none := by
  have hfetch := fetches (m.withLimit n) s
  generalize (m.withLimit n).due? s = line at hfetch
  generalize (m.withLimit n).step s = p at hfetch
  cases hfetch with
  | astray hfound => rfl
  | ended hfound hend => rfl
  | cut hfound hend hlimit => rfl
  | due hfound hend hlimit => exact absurd ⟨Nat.ne_of_gt hn, hsteps⟩ hlimit

/-- Up to the limit the two runs are one. -/
theorem run_withLimit (hm : m.limit = 0) {fuel : Nat} (h : s.steps + fuel ≤ n) :
    (m.withLimit n).run fuel s = m.run fuel s ∧
      (m.withLimit n).executed fuel s = m.executed fuel s := by
  induction fuel generalizing s with
  | zero => exact ⟨rfl, rfl⟩
  | succ fuel ih =>
      have hfetch := fetches_withLimit_of_lt hm (show s.steps < n by omega)
      rw [run, run, executed, executed, hfetch.step_eq, hfetch.due_eq]
      cases hdue : m.due? s with
      | none =>
          obtain ⟨t, error, hstep, -⟩ := step_of_not_due hdue
          rw [hstep]
          exact ⟨rfl, rfl⟩
      | some line =>
          have hsteps := steps_step_of_due hdue
          generalize m.step s = p at hsteps
          cases p with
          | stopped t error => exact ⟨rfl, rfl⟩
          | running t =>
              change t.steps = s.steps + 1 at hsteps
              obtain ⟨hrun, hexecuted⟩ := ih (show t.steps + fuel ≤ n by omega)
              exact ⟨hrun, congrArg (line :: ·) hexecuted⟩

/-- Without a limit the run is over before it could pass the limit, and with it the run is the
same. -/
structure Finishes (m : Machine) (n : Nat) (s : State) : Prop where
  stopped : ∃ t error, m.run (n + 1) s = .stopped t error
  length_le : (m.executed (n + 1) s).length ≤ n
  run_eq : (m.withLimit n).run (n + 1) s = m.run (n + 1) s
  executed_eq : (m.withLimit n).executed (n + 1) s = m.executed (n + 1) s

/-- Without a limit the run reaches a state in which one line too many is due, and with it the run
stops there. -/
structure Overruns (m : Machine) (n : Nat) (s u : State) (line : Line) : Prop where
  running : m.run n s = .running u
  next : m.executed (n + 1) s = m.executed n s ++ [line]
  run_eq : (m.withLimit n).run (n + 1) s =
    fail { u with current := line.number } (.stepLimit n)
  executed_eq : (m.withLimit n).executed (n + 1) s = m.executed n s

theorem finishes_or_overruns (hm : m.limit = 0) (hn : 0 < n) (hs : s.steps = 0) :
    m.Finishes n s ∨ ∃ u line, m.Overruns n s u line := by
  have hroom : s.steps + n ≤ n := by omega
  obtain ⟨hrun, hexecuted⟩ := run_withLimit hm hroom
  cases hfree : m.run n s with
  | stopped t error =>
      rw [hfree] at hrun
      refine .inl ⟨⟨t, error, run_add_of_stopped hfree 1⟩, ?_, ?_, ?_⟩
      · rw [executed_add_of_stopped hfree]
        exact length_executed_le m n s
      · rw [run_add_of_stopped hrun 1, run_add_of_stopped hfree 1]
      · rw [executed_add_of_stopped hrun, executed_add_of_stopped hfree, hexecuted]
  | running u =>
      rw [hfree] at hrun
      have hsteps : n ≤ u.steps := by
        have hcount := steps_run m n s
        rw [hfree, length_executed_of_running hfree, hs, Nat.zero_add] at hcount
        exact Nat.le_of_eq hcount.symm
      have hlimited : (m.withLimit n).executed (n + 1) s = m.executed n s := by
        have hnone := due?_withLimit_of_le (m := m) hn hsteps
        rw [executed_add_of_running hrun, executed_of_not_due hnone, hexecuted, List.append_nil]
      cases hdue : m.due? u with
      | none =>
          have hsame := step_withLimit_of_not_due (n := n) hm hdue
          obtain ⟨t, error, hstep, -⟩ := step_of_not_due hdue
          have hlast : m.run (n + 1) s = .stopped t error := by
            rw [run_add_of_running hfree, run_one, hstep]
          have hall : m.executed (n + 1) s = m.executed n s := by
            rw [executed_add_of_running hfree, executed_of_not_due hdue, List.append_nil]
          refine .inl ⟨⟨t, error, hlast⟩, ?_, ?_, hlimited.trans hall.symm⟩
          · rw [hall]
            exact length_executed_le m n s
          · rw [hlast, run_add_of_running hrun, run_one, hsame, hstep]
      | some line =>
          refine .inr ⟨u, line, hfree, ?_, ?_, hlimited⟩
          · rw [executed_add_of_running hfree, executed_one hdue]
          · rw [run_add_of_running hrun, run_one, step_withLimit_of_due hn hsteps hdue]

end Machine

namespace Session

/-- Running the session carries out these lines in order and comes to an end, which leaves another
session and a report. -/
def Executes (s : Session) (lines : List Line) (t : Session) (r : Report) : Prop :=
  ∃ fuel, s.run fuel = some (t, r) ∧ s.machine.executed fuel s.initial = lines

/-- How a limit tells on a session. -/
structure Truncates (s : Session) (n : Nat) : Prop where
  /-- With the limit every run comes to an end. -/
  ends : ∃ t r, (s.setLimit n).Ends t r
  /-- A run that comes to its end within the limit is the same with it. -/
  within : ∀ lines t r, (s.setLimit 0).Executes lines t r → lines.length ≤ n →
    (s.setLimit n).Executes lines { t with limit := n } r
  /-- Any other run is carried out as far as the limit, and stops with a fault on the line that
  would come next. -/
  beyond : (∀ lines t r, (s.setLimit 0).Executes lines t r → n < lines.length) →
    ∃ u line, (s.setLimit 0).machine.run n s.initial = .running u ∧
      ((s.setLimit 0).machine.executed n s.initial).length = n ∧
      (s.setLimit 0).machine.executed (n + 1) s.initial =
        (s.setLimit 0).machine.executed n s.initial ++ [line] ∧
      (s.setLimit n).Executes ((s.setLimit 0).machine.executed n s.initial)
        ⟨(s.setLimit n).machine, { u with current := line.number }⟩
        ⟨u.outputs.reverse, u.sent.reverse, some ⟨line.number, .stepLimit n⟩⟩ ∧
      (Fault.stepLimit n).message = "step limit of " ++ Decimal.write n ++ " exceeded"

theorem setLimit_truncates (s : Session) {n : Nat} (hn : 0 < n) : s.Truncates n := by
  have hcases := Machine.finishes_or_overruns (m := (s.setLimit 0).machine)
    (s := (s.setLimit 0).initial) rfl hn rfl
  refine ⟨?_, ?_, ?_⟩
  · obtain hfinishes | ⟨u, line, hover⟩ := hcases
    · obtain ⟨t, error, hstopped⟩ := hfinishes.stopped
      exact ⟨_, _, n + 1, run_of_stopped (hfinishes.run_eq.trans hstopped)⟩
    · exact ⟨_, _, n + 1, run_of_stopped hover.run_eq⟩
  · rintro lines t r ⟨fuel, hrun, rfl⟩ hlength
    obtain ⟨u, error, hstopped, rfl, rfl⟩ := run_eq_some hrun
    obtain hfinishes | ⟨v, line, hover⟩ := hcases
    · obtain ⟨v, error', hfree⟩ := hfinishes.stopped
      obtain ⟨hrun_eq, hexecuted_eq⟩ := Machine.stopped_unique hstopped hfree
      refine ⟨n + 1, run_of_stopped ?_, hfinishes.executed_eq.trans hexecuted_eq.symm⟩
      exact (hfinishes.run_eq.trans hrun_eq.symm).trans hstopped
    · have hle := (Machine.executed_prefix_of_stopped hstopped (n + 1)).length_le
      have hfull := Machine.length_executed_of_running hover.running
      rw [hover.next, List.length_append, hfull, List.length_singleton] at hle
      exact absurd (Nat.le_trans hle hlength) (Nat.not_succ_le_self n)
  · intro hbeyond
    obtain hfinishes | ⟨u, line, hover⟩ := hcases
    · obtain ⟨v, error, hfree⟩ := hfinishes.stopped
      have hlt := hbeyond _ _ _ ⟨n + 1, run_of_stopped hfree, rfl⟩
      exact absurd hfinishes.length_le (Nat.not_le_of_gt hlt)
    · have hfull := Machine.length_executed_of_running hover.running
      have hrun := run_of_stopped (s := s.setLimit n) hover.run_eq
      exact ⟨u, line, hover.running, hfull, hover.next, ⟨n + 1, hrun, hover.executed_eq⟩, rfl⟩

/-- A program that never ends by itself. -/
def forever : Session :=
  .new ⟨.ofLines [⟨10, .print [.expr (.lit 1)]⟩, ⟨20, .goto 10⟩], 0, false⟩ .empty

theorem setLimit_truncates_forever :
    0 < 3 ∧ forever.Truncates 3 ∧
      ((forever.setLimit 3).run 4).map (·.2) =
        some ⟨[⟨"1", true⟩, ⟨"1", true⟩], [], some ⟨20, .stepLimit 3⟩⟩ :=
  ⟨by decide, setLimit_truncates forever (by decide), by decide +kernel⟩

end Session

end NumberedBasic
