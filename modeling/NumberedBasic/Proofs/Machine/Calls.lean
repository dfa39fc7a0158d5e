import Mathlib.Data.List.Infix
import NumberedBasic.Proofs.Machine.Flow

/-! The open calls of a run. A GOSUB and its RETURN enclose whatever is done between them: the calls
that were open before stay as they are below the new one, and when it is left the program goes on
behind the GOSUB. -/
namespace NumberedBasic
namespace Machine

variable {m : Machine} {s t u : State} {caller : Int} {outer : List Int}

theorem step_of_gosub {line : Line} {target : Int} (hdue : m.due? s = some line)
    (h : line.statement.unwrap s.vars = .gosub target) :
    ∃ t, m.step s = .running t ∧ t.calls = line.number :: s.calls := by
  rw [step_unwrap hdue, h]
  exact ⟨_, rfl, rfl⟩

/-- The step between the states is a RETURN to the caller, and leaves only the outer calls open. -/
structure Returned (m : Machine) (caller : Int) (outer : List Int) (s t : State) : Prop where
  calls : t.calls = outer
  statement : ∃ line, m.due? s = some line ∧ line.statement.unwrap s.vars = .return_
  cursor : m.program.after? caller = some t.cursor

/-- A step stays above an open call, or it is the one that leaves it. -/
theorem step_inside (hs : caller :: outer <:+ s.calls) (h : m.step s = .running t) :
    caller :: outer <:+ t.calls ∨ Returned m caller outer s t := by
  obtain ⟨line, hdue, hmoves⟩ := step_moves h
  generalize hstmt : line.statement.unwrap s.vars = stmt at hmoves
  cases hmoves with
  | passes hsame hafter => exact .inl (hsame.calls ▸ hs)
  | opens hloops hcalls hvalue hafter => exact .inl (hcalls ▸ hs)
  | closes hloops hcalls hafter => exact .inl (hcalls ▸ hs)
  | repeats hloops hsame hafter => exact .inl (hsame.calls ▸ hs)
  | goes hsame => exact .inl (hsame.calls ▸ hs)
  | calls hloops hcalls =>
      rw [hcalls]
      exact .inl (hs.trans (List.suffix_cons _ _))
  | returns hloops hcalls hafter =>
      rw [hcalls] at hs
      rcases List.suffix_cons_iff.mp hs with heq | hinside
      · cases heq
        exact .inr ⟨rfl, ⟨line, hdue, hstmt⟩, hafter⟩
      · exact .inl hinside

/-- As long as the number of open calls has not come down to that of the outer ones, a run stays
above an open call. The step with which it comes down leaves that call. -/
theorem run_inside {n : Nat} (hs : caller :: outer <:+ s.calls) (h : m.run n s = .running t)
    (hbefore : ∀ i < n, ∀ u, m.run i s = .running u → u.calls.length ≠ outer.length) :
    caller :: outer <:+ t.calls ∨
      ∃ k u, n = k + 1 ∧ m.run k s = .running u ∧ Returned m caller outer u t := by
  induction n generalizing t with
  | zero =>
      cases h
      exact .inl hs
  | succ n ih =>
      obtain ⟨u, hrun, hstep⟩ := run_succ_running h
      have hearlier : ∀ i < n, ∀ v, m.run i s = .running v → v.calls.length ≠ outer.length :=
        fun i hi => hbefore i (Nat.lt_succ_of_lt hi)
      rcases ih hrun hearlier with hinside | ⟨k, v, -, -, hreturned⟩
      · rcases step_inside hinside hstep with hinside | hreturned
        · exact .inl hinside
        · exact .inr ⟨n, u, rfl, hrun, hreturned⟩
      · -- The call was left earlier, so the number had come down before the end.
        have hlength := hbefore n (Nat.lt_succ_self n) u hrun
        rw [hreturned.calls] at hlength
        exact absurd rfl hlength

theorem length_of_inside (h : caller :: outer <:+ s.calls) : s.calls.length ≠ outer.length := by
  have hle := h.length_le
  rw [List.length_cons] at hle
  omega

end Machine

namespace Session

/-- Between a GOSUB and the first line that is fetched with no more calls open than before it, all
these calls and that of the GOSUB stay open. At that line exactly the calls from before are open, a
RETURN has just been carried out, be it under IFs, and the line is the first one after the GOSUB. -/
theorem gosub_encloses (s : Session) {k n : Nat} {u t : State} {line : Line} {target : Int}
    (hu : s.machine.run k s.initial = .running u) (hdue : s.machine.due? u = some line)
    (hgosub : line.statement.unwrap u.vars = .gosub target)
    (ht : s.machine.run (k + 1 + n) s.initial = .running t)
    (hbefore : ∀ i < n, ∀ v, s.machine.run (k + 1 + i) s.initial = .running v →
      v.calls.length ≠ u.calls.length) :
    (t.calls.length ≠ u.calls.length → line.number :: u.calls <:+ t.calls) ∧
      (t.calls.length = u.calls.length →
        t.calls = u.calls ∧
        (∃ v last, s.machine.run (k + n) s.initial = .running v ∧
          s.machine.due? v = some last ∧ last.statement.unwrap v.vars = .return_) ∧
        IsLeast {j | j ∈ s.program.declared ∧ line.number < j} t.cursor) := by
  obtain ⟨w, hstep, hcalls⟩ := Machine.step_of_gosub hdue hgosub
  have hsince : ∀ i, s.machine.run (k + 1 + i) s.initial = s.machine.run i w := by
    intro i
    apply Machine.run_add_of_running
    rw [Machine.run_add_of_running hu, Machine.run_one, hstep]
  have hearlier : ∀ i < n, ∀ v, s.machine.run i w = .running v →
      v.calls.length ≠ u.calls.length := by
    intro i hi v hv
    exact hbefore i hi v ((hsince i).trans hv)
  have hinner : line.number :: u.calls <:+ w.calls := by rw [hcalls]
  rw [hsince n] at ht
  rcases Machine.run_inside hinner ht hearlier with hinside | hleft
  · refine ⟨fun _ => hinside, ?_⟩
    intro heq
    exact absurd heq (Machine.length_of_inside hinside)
  · obtain ⟨i, v, rfl, hrun, hreturned⟩ := hleft
    obtain ⟨last, hlast, hreturn⟩ := hreturned.statement
    refine ⟨?_, fun _ => ⟨hreturned.calls, ⟨v, last, ?_, hlast, hreturn⟩, ?_⟩⟩
    · intro hne
      exact absurd (congrArg List.length hreturned.calls) hne
    · rw [show k + (i + 1) = k + 1 + i by omega, hsince i]
      exact hrun
    · exact Program.isLeast_of_after? hreturned.cursor

def outerCall : Line := ⟨10, .if_ ⟨.lt, .lit 0, .lit 1⟩ (.gosub 40)⟩

/-- The subroutine calls another one in a loop, which jumps before it returns. -/
def nested : Session :=
  .new ⟨.ofLines [outerCall, ⟨20, .print []⟩, ⟨30, .end_⟩, ⟨40, .for_ "i" (.lit 1) (.lit 2)⟩,
    ⟨50, .gosub 80⟩, ⟨60, .next "i"⟩, ⟨70, .if_ ⟨.eq, .var "i", .lit 2⟩ .return_⟩,
    ⟨80, .goto 90⟩, ⟨90, .return_⟩], 0, false⟩ .empty

def nestedState : State :=
  { vars := ⟨[("i", 2)]⟩, loops := [], calls := [], cursor := 20, current := 70, steps := 11,
    input := .empty, outputs := [], sent := [] }

theorem gosub_encloses_nested :
    nested.machine.due? nested.initial = some outerCall ∧
      outerCall.statement.unwrap nested.initial.vars = .gosub 40 ∧
      nested.machine.run 11 nested.initial = .running nestedState ∧
      (∀ i < 10, ∀ v, nested.machine.run (0 + 1 + i) nested.initial = .running v →
        v.calls.length ≠ 0) ∧
      IsLeast {j | j ∈ nested.program.declared ∧ 10 < j} 20 := by
  have hdue : nested.machine.due? nested.initial = some outerCall := by decide +kernel
  have hgosub : outerCall.statement.unwrap nested.initial.vars = .gosub 40 := by decide +kernel
  have hrun : nested.machine.run 11 nested.initial = .running nestedState := by decide +kernel
  have hopen : ∀ i < 10,
      (nested.machine.run (0 + 1 + i) nested.initial).state.calls.length ≠ 0 := by
    decide +kernel
  have hbefore : ∀ i < 10, ∀ v, nested.machine.run (0 + 1 + i) nested.initial = .running v →
      v.calls.length ≠ 0 := by
    intro i hi v hv
    have hlength := hopen i hi
    rw [hv] at hlength
    exact hlength
  obtain ⟨-, -, hcursor⟩ := (gosub_encloses nested (k := 0) (n := 10) rfl hdue hgosub hrun
    hbefore).2 rfl
  exact ⟨hdue, hgosub, hrun, hbefore, hcursor⟩

end Session

end NumberedBasic
