import Mathlib.Algebra.Order.Ring.Nat
import NumberedBasic.Proofs.Machine.Flow
import NumberedBasic.Proofs.Program.Insert

/-! A program without NEXT that only jumps forward comes to an end. A RETURN goes back, and then the
lines behind its GOSUB are carried out once more. But each open call stands for at most so many
steps as the lines behind it allow, and these are used up one call at a time. -/
namespace NumberedBasic

/-- Whether the statement is a NEXT, alone or under IFs. -/
def Statement.hasNext : Statement → Bool
  | .next _ => true
  | .if_ _ body => body.hasNext
  | _ => false

theorem Statement.hasNext_unwrap (vars : Store) (stmt : Statement) :
    (stmt.unwrap vars).hasNext = stmt.hasNext := by
  induction stmt with
  | if_ c body ih =>
      rw [unwrap]
      split
      · exact ih
      · rfl
  | _ => rfl

namespace Program

/-- No line holds a NEXT, and every GOTO and GOSUB leads to a number above that of its own line. -/
structure Forward (p : Program) : Prop where
  hasNext : ∀ line ∈ p.lines, line.statement.hasNext = false
  jumps : ∀ line ∈ p.lines, ∀ target ∈ line.statement.targets, line.number < target

/-- How many lines there are from the number on. -/
def linesFrom (p : Program) (n : Int) : Nat := (p.lines.filter fun line => n ≤ line.number).length

/-- How many steps can be taken from the number on before a call is left that was open already. A
line that calls a subroutine has all behind it carried out twice, once by the subroutine and once
after it, so each line doubles the count and adds itself. -/
def stepsFrom (p : Program) (n : Int) : Nat := 2 ^ p.linesFrom n - 1

variable {p : Program} {n i j : Int}

theorem sublist_linesFrom (h : i ≤ j) :
    (p.lines.filter fun line => j ≤ line.number).Sublist
      (p.lines.filter fun line => i ≤ line.number) := by
  apply List.monotone_filter_right
  intro line hline
  rw [decide_eq_true_eq] at hline ⊢
  exact Int.le_trans h hline

theorem linesFrom_lt (hn : n ∈ p.declared) (h : n < i) : p.linesFrom i < p.linesFrom n := by
  have hsublist := sublist_linesFrom (p := p) (Int.le_of_lt h)
  apply Nat.lt_of_not_le
  intro hle
  -- Otherwise the same lines are counted twice, but only one time the line of the number itself.
  have heq := hsublist.eq_of_length_le hle
  obtain ⟨line, hline, rfl⟩ := hn
  have hmem : line ∈ p.lines.filter fun line => i ≤ line.number := by
    rw [heq]
    simp [hline]
  simp only [List.mem_filter, decide_eq_true_eq] at hmem
  omega

theorem stepsFrom_le (h : i ≤ j) : p.stepsFrom j ≤ p.stepsFrom i := by
  have hpow := Nat.pow_le_pow_right Nat.two_pos (sublist_linesFrom (p := p) h).length_le
  exact Nat.sub_le_sub_right hpow 1

/-- From a line on there are more steps than from two places behind it together. -/
theorem stepsFrom_add_lt (hn : n ∈ p.declared) (hi : n < i) (hj : n < j) :
    p.stepsFrom i + p.stepsFrom j < p.stepsFrom n := by
  have hdouble : ∀ {k}, n < k → 2 * 2 ^ p.linesFrom k ≤ 2 ^ p.linesFrom n := by
    intro k hk
    rw [← Nat.pow_succ']
    exact Nat.pow_le_pow_right Nat.two_pos (linesFrom_lt hn hk)
  have hpos : ∀ k, 0 < 2 ^ p.linesFrom k := fun k => Nat.two_pow_pos _
  have hi' := hdouble hi
  have hj' := hdouble hj
  have hposi := hpos i
  have hposj := hpos j
  unfold stepsFrom
  omega

end Program

namespace Machine

variable {m : Machine} {s t : State}

/-- How many steps are left: those from the line to be carried out next, and for each open call
those from the line behind it. -/
def stepsLeft (p : Program) (s : State) : Nat :=
  p.stepsFrom s.cursor + (s.calls.map fun caller => p.stepsFrom (caller + 1)).sum

theorem number_of_due {line : Line} (h : m.due? s = some line) :
    line.number = s.cursor ∧ s.cursor ∈ m.program.declared := by
  have hfetch := fetches m s
  rw [h] at hfetch
  generalize m.step s = p at hfetch
  cases hfetch with
  | due hfound hend hlimit =>
      have hnumber := Program.number_of_get? hfound
      exact ⟨hnumber, line, Program.mem_of_get? hfound, hnumber⟩

theorem stepsLeft_lt_of_calls (hs : s.cursor ∈ m.program.declared) (hcalls : t.calls = s.calls)
    (hcursor : s.cursor < t.cursor) : stepsLeft m.program t < stepsLeft m.program s := by
  have hlt := Program.stepsFrom_add_lt hs hcursor hcursor
  unfold stepsLeft
  rw [hcalls]
  omega

theorem step_stepsLeft (hp : m.program.Forward) (h : m.step s = .running t) :
    stepsLeft m.program t < stepsLeft m.program s := by
  obtain ⟨line, hdue, hmoves⟩ := step_moves h
  have hline := mem_of_due hdue
  obtain ⟨hnumber, hs⟩ := number_of_due hdue
  have hnext := (line.statement.hasNext_unwrap s.vars).trans (hp.hasNext line hline)
  have hjumps : ∀ {target}, line.statement.JumpsTo s.vars target → s.cursor < target := by
    intro target htarget
    rw [← hnumber]
    exact hp.jumps line hline target htarget.mem_targets
  have hafter : ∀ {k}, m.program.after? line.number = some k → s.cursor < k := by
    intro k hk
    rw [← hnumber]
    exact (Program.isLeast_of_after? hk).1.2
  generalize hstmt : line.statement.unwrap s.vars = stmt at hmoves hnext
  cases hmoves with
  | passes hsame hk => exact stepsLeft_lt_of_calls hs hsame.calls (hafter hk)
  | opens hloops hcalls hvalue hk => exact stepsLeft_lt_of_calls hs hcalls (hafter hk)
  | closes => cases hnext
  | repeats => cases hnext
  | goes hsame => exact stepsLeft_lt_of_calls hs hsame.calls (hjumps (.inl hstmt))
  | calls hloops hcalls =>
      have hlt := Program.stepsFrom_add_lt hs (hjumps (.inr hstmt)) (Int.lt_succ s.cursor)
      unfold stepsLeft
      rw [hcalls, hnumber, List.map_cons, List.sum_cons]
      omega
  | @returns caller hloops hcalls hk =>
      have hbehind := (Program.isLeast_of_after? hk).1.2
      have hle := Program.stepsFrom_le (p := m.program) (i := caller + 1) (j := t.cursor) hbehind
      have hpos := Program.stepsFrom_add_lt hs (Int.lt_succ s.cursor) (Int.lt_succ s.cursor)
      unfold stepsLeft
      rw [hcalls, List.map_cons, List.sum_cons]
      omega

/-- A run that is given more steps than are left has stopped. -/
theorem run_of_stepsLeft_lt (hp : m.program.Forward) {fuel : Nat}
    (h : stepsLeft m.program s < fuel) : ∃ t error, m.run fuel s = .stopped t error := by
  induction fuel generalizing s with
  | zero => omega
  | succ fuel ih =>
      rw [run]
      cases hstep : m.step s with
      | stopped t error => exact ⟨t, error, rfl⟩
      | running t =>
          have hlt := step_stepsLeft hp hstep
          exact ih (by omega)

end Machine

namespace Session

/-- A program without NEXT whose jumps all lead forward comes to an end on every input, within two
to the number of its lines steps. -/
theorem forward_ends (s : Session) (h : s.program.Forward) :
    ∃ t r, s.run (2 ^ s.program.size) = some (t, r) := by
  have hleft : Machine.stepsLeft s.program s.initial < 2 ^ s.program.size := by
    have hle : s.program.linesFrom s.initial.cursor ≤ s.program.size := List.length_filter_le _ _
    have hpow := Nat.pow_le_pow_right Nat.two_pos hle
    have hpos := Nat.two_pow_pos (s.program.linesFrom s.initial.cursor)
    change s.program.stepsFrom s.initial.cursor + 0 < _
    unfold Program.stepsFrom
    omega
  obtain ⟨t, error, hstopped⟩ := Machine.run_of_stepsLeft_lt (m := s.machine) h hleft
  exact ⟨_, _, run_of_stopped hstopped⟩

/-- Every line but the first is carried out more than once. -/
def cascade : Session :=
  .new ⟨.ofLines [⟨10, .gosub 20⟩, ⟨20, .if_ ⟨.lt, .lit 0, .lit 1⟩ (.gosub 30)⟩,
    ⟨30, .input none ["n"]⟩, ⟨40, .return_⟩], 0, false⟩
    ⟨[], some ⟨[⟨Text.Glyph.ofString "1 2", none⟩, ⟨Text.Glyph.ofString " ", none⟩,
      ⟨Text.Glyph.ofString "3 4", none⟩], .endOfInput, none⟩⟩

theorem forward_ends_cascade :
    cascade.program.Forward ∧ cascade.limit = 0 ∧
      (cascade.machine.executed 16 cascade.initial).map (·.number) =
        [10, 20, 30, 40, 30, 40, 20, 30, 40, 30, 40] ∧
      ∃ t r, cascade.run (2 ^ 4) = some (t, r) ∧ r.error = some ⟨40, .noGosub⟩ := by
  have hforward : cascade.program.Forward := ⟨by decide, by decide⟩
  have herror : (cascade.run (2 ^ 4)).map (·.2.error) = some (some ⟨40, .noGosub⟩) := by
    decide +kernel
  obtain ⟨t, r, hrun⟩ := forward_ends cascade hforward
  change cascade.run (2 ^ 4) = some (t, r) at hrun
  rw [hrun] at herror
  exact ⟨hforward, rfl, by decide +kernel, t, r, hrun, Option.some.inj herror⟩

end Session

end NumberedBasic
