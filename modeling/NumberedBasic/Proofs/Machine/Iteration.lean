import NumberedBasic.Proofs.Machine.Loops
import NumberedBasic.Proofs.Program.Insert

/-! How often a loop is gone through. The bounds are fixed when the FOR is carried out, and the
counter is raised by the NEXT alone, so the number of rounds is known at the FOR, whatever is done
inside the loop. -/
namespace NumberedBasic

theorem toInt_max (a b : Int64) : (max a b).toInt = max a.toInt b.toInt := by
  change (if a ≤ b then b else a).toInt = _
  split
  · rename_i hle
    rw [Int64.le_iff_toInt_le] at hle
    omega
  · rename_i hle
    rw [Int64.le_iff_toInt_le] at hle
    omega

/-- A word below another one can be raised without wrapping around. -/
theorem toInt_add_one_of_lt {a b : Int64} (h : a < b) : (a + 1).toInt = a.toInt + 1 := by
  have hlt := Int64.lt_iff_toInt_lt.mp h
  have hlow := a.le_toInt
  have hhigh := b.toInt_lt
  have hone : (1 : Int64).toInt = 1 := rfl
  rw [Int64.toInt_add, hone, Int.bmod_eq_of_le (by omega) (by omega)]

/-- The loop is the innermost one, and its variable has the value. -/
structure Loop.Counts (loop : Loop) (outer : List Loop) (value : Int64) (s : State) : Prop where
  loops : s.loops = loop :: outer
  value : s.vars.get? loop.name = some value

/-- In the states the variable has one value after the other, from the first one up to the last one
and no further, but the first one in any case. -/
structure CountsUp (name : String) (first last : Int64) (states : List State) : Prop where
  length : (states.length : Int) = max 1 (last.toInt - first.toInt + 1)
  value : ∀ (i : Nat) u, states[i]? = some u →
    ∃ value, u.vars.get? name = some value ∧ value.toInt = first.toInt + i

namespace CountsUp

variable {name : String} {first last : Int64} {s : State} {states : List State}

theorem once (hs : s.vars.get? name = some first) (hle : last ≤ first) :
    CountsUp name first last [s] := by
  rw [Int64.le_iff_toInt_le] at hle
  refine ⟨by simp only [List.length_singleton]; omega, ?_⟩
  intro i u hu
  cases i with
  | zero =>
      cases hu
      exact ⟨first, hs, by simp⟩
  | succ i => cases hu

/-- One more round before the others. -/
theorem cons (hs : s.vars.get? name = some first) (hlt : first < last)
    (h : CountsUp name (first + 1) last states) : CountsUp name first last (s :: states) := by
  have hraised := toInt_add_one_of_lt hlt
  rw [Int64.lt_iff_toInt_lt] at hlt
  have hlength := h.length
  refine ⟨by rw [List.length_cons]; omega, ?_⟩
  intro i u hu
  cases i with
  | zero =>
      cases hu
      exact ⟨first, hs, by simp⟩
  | succ i =>
      obtain ⟨value, hvalue, hnext⟩ := h.value i u hu
      exact ⟨value, hvalue, by omega⟩

end CountsUp

namespace Machine

/-- The states in which a run of at most so many steps carries out the line of the number, in
order. -/
def visits (m : Machine) (number : Int) : Nat → State → List State
  | 0, _ => []
  | fuel + 1, s =>
      match m.due? s with
      | none => []
      | some _ =>
          (if s.cursor = number then [s] else []) ++
            match m.step s with
            | .running t => m.visits number fuel t
            | .stopped _ _ => []

/-- So many steps later the line of the number is fetched for the first time. -/
inductive Arrives (m : Machine) (number : Int) : Nat → State → State → Prop
  | here {s : State} : s.cursor = number → Arrives m number 0 s s
  | later {n : Nat} {s t u : State} : s.cursor ≠ number → m.step s = .running t →
      Arrives m number n t u → Arrives m number (n + 1) s u

/-- Every round of the loop that begins in a state of the invariant comes to the line of the number,
with the same loops open and the same value of the variable. If the NEXT there begins another round,
the invariant holds again. -/
def Rounds (m : Machine) (invariant : State → Prop) (loop : Loop) (outer : List Loop)
    (number : Int) : Prop :=
  ∀ value, loop.first ≤ value → value ≤ max loop.first loop.last →
    ∀ s, invariant s → m.program.after? loop.line = some s.cursor → loop.Counts outer value s →
      ∃ n t, m.Arrives number n s t ∧ loop.Counts outer value t ∧
        (value < loop.last → ∀ u, m.step t = .running u → invariant u)

variable {m : Machine} {s t : State} {number : Int} {line : Line}

theorem visits_add_of_running {a : Nat} (h : m.run a s = .running t) (b : Nat) :
    m.visits number (a + b) s = m.visits number a s ++ m.visits number b t := by
  induction a generalizing s with
  | zero =>
      cases h
      rw [Nat.zero_add]
      rfl
  | succ a ih =>
      rw [Nat.succ_add, visits, visits]
      rw [run] at h
      cases hdue : m.due? s with
      | none =>
          obtain ⟨u, error, hstep, -⟩ := step_of_not_due hdue
          rw [hstep] at h
          cases h
      | some line =>
          cases hstep : m.step s with
          | stopped u error =>
              rw [hstep] at h
              cases h
          | running u =>
              rw [hstep] at h
              simp only [ih h, List.append_assoc]

theorem visits_of_step (hdue : m.due? s = some line) :
    m.visits number 1 s = if s.cursor = number then [s] else [] := by
  rw [visits, hdue]
  cases m.step s with
  | running t => exact List.append_nil _
  | stopped t error => exact List.append_nil _

theorem Arrives.run_eq {n : Nat} (h : m.Arrives number n s t) : m.run n s = .running t := by
  induction h with
  | here hcursor => rfl
  | later hcursor hstep _ ih =>
      rw [run, hstep]
      exact ih

theorem Arrives.cursor_eq {n : Nat} (h : m.Arrives number n s t) : t.cursor = number := by
  induction h with
  | here hcursor => exact hcursor
  | later _ _ _ ih => exact ih

/-- On the way to a line that line is not carried out. -/
theorem Arrives.visits_eq {n : Nat} (h : m.Arrives number n s t) (hdue : m.due? t = some line) :
    m.visits number (n + 1) s = [t] := by
  induction h with
  | here hcursor => rw [visits_of_step hdue, if_pos hcursor]
  | later hcursor hstep _ ih =>
      obtain ⟨passed, hpassed, -⟩ := step_running hstep
      rw [visits, hpassed, hstep]
      simp only [if_neg hcursor, List.nil_append, ih hdue]

/-- Without a limit a line is carried out whenever it is fetched, unless it is an END. -/
theorem due?_of_unlimited (hlimit : m.limit = 0) (hline : line ∈ m.program.lines)
    (hend : line.statement.isEnd = false) (hcursor : s.cursor = line.number) :
    m.due? s = some line := by
  have hfound : m.program.get? s.cursor = some line :=
    Program.get?_eq_some_iff.mpr ⟨hline, hcursor.symm⟩
  simp [due?, hfound, hend, hlimit]

section Steps

variable {loop : Loop} {outer : List Loop} {value : Int64} {next : Int}

theorem step_for {name : String} {first last : Expr} {a b : Int64}
    (hdue : m.due? s = some ⟨number, .for_ name first last⟩) (hfirst : first.eval s.vars = .ok a)
    (hlast : last.eval s.vars = .ok b) (hafter : m.program.after? number = some next) :
    ∃ t, m.step s = .running t ∧ t.cursor = next ∧
      Loop.Counts ⟨name, number, a, b⟩ s.loops a t := by
  rw [step_of_due hdue]
  simp only [exec, hfirst, hlast, proceed, State.assign, hafter]
  exact ⟨_, rfl, rfl, rfl, by simp [Store.get?_set]⟩

theorem step_next_repeats (hdue : m.due? s = some ⟨number, .next loop.name⟩)
    (h : loop.Counts outer value s) (hlt : value < loop.last)
    (hafter : m.program.after? loop.line = some next) :
    ∃ t, m.step s = .running t ∧ t.cursor = next ∧ loop.Counts outer (value + 1) t := by
  have hle : ¬ loop.last ≤ value := Int64.not_le.mpr hlt
  rw [step_of_due hdue]
  simp only [exec, closeLoop, h.loops, h.value, if_true, if_neg hle, jumpAfter, hafter, proceed]
  exact ⟨_, rfl, rfl, rfl, by simp [State.assign, Store.get?_set]⟩

theorem step_next_leaves (hdue : m.due? s = some ⟨number, .next loop.name⟩)
    (h : loop.Counts outer value s) (hle : loop.last ≤ value) :
    m.step s = m.proceed
      ({ s with current := number, steps := s.steps + 1, loops := outer }, .ok .next) := by
  rw [step_of_due hdue]
  simp only [exec, closeLoop, h.loops, h.value, if_true, if_pos hle]

end Steps

/-- From the beginning of a round on, the remaining rounds are gone through one by one. -/
theorem run_rounds {invariant : State → Prop} {loop : Loop} {outer : List Loop} {value : Int64}
    (hnext : ∀ {t}, t.cursor = number → m.due? t = some ⟨number, .next loop.name⟩)
    (hrounds : m.Rounds invariant loop outer number)
    (hfirst : loop.first ≤ value) (hvalue : value ≤ max loop.first loop.last)
    (hs : invariant s) (hcursor : m.program.after? loop.line = some s.cursor)
    (hcounts : loop.Counts outer value s) :
    ∃ n t, m.run n s = .running t ∧ t.cursor = number ∧
      loop.Counts outer (max loop.first loop.last) t ∧
      CountsUp loop.name value loop.last (m.visits number (n + 1) s) := by
  -- The number of rounds that follow this one goes down.
  generalize hleft : (loop.last.toInt - value.toInt).toNat = left
  induction left generalizing s value with
  | zero =>
      obtain ⟨n, t, harrives, hthere, -⟩ := hrounds value hfirst hvalue s hs hcursor hcounts
      have hle : loop.last ≤ value := by
        rw [Int64.le_iff_toInt_le]
        omega
      have hmax : max loop.first loop.last = value := by
        rw [Int64.le_iff_toInt_le] at hfirst hvalue hle
        rw [← Int64.toInt_inj]
        rw [toInt_max] at hvalue ⊢
        omega
      refine ⟨n, t, harrives.run_eq, harrives.cursor_eq, hmax ▸ hthere, ?_⟩
      rw [harrives.visits_eq (hnext harrives.cursor_eq)]
      exact .once hthere.value hle
  | succ left ih =>
      obtain ⟨n, t, harrives, hthere, hagain⟩ := hrounds value hfirst hvalue s hs hcursor hcounts
      have hlt : value < loop.last := by
        rw [Int64.lt_iff_toInt_lt]
        omega
      have hdue := hnext harrives.cursor_eq
      obtain ⟨u, hstep, hu, hcounts'⟩ := step_next_repeats hdue hthere hlt hcursor
      have hrun : m.run (n + 1) s = .running u := by
        rw [run_add_of_running harrives.run_eq, run_one, hstep]
      have hraised := toInt_add_one_of_lt hlt
      have hfirst' : loop.first ≤ value + 1 := by
        rw [Int64.le_iff_toInt_le] at hfirst ⊢
        omega
      have hvalue' : value + 1 ≤ max loop.first loop.last := by
        rw [Int64.lt_iff_toInt_lt] at hlt
        rw [Int64.le_iff_toInt_le, toInt_max]
        omega
      obtain ⟨k, v, hrest, hv, hlast, hup⟩ := ih hfirst' hvalue' (hagain hlt u hstep)
        (by rw [hu, hcursor]) hcounts' (by omega)
      refine ⟨n + 1 + k, v, ?_, hv, hlast, ?_⟩
      · rw [run_add_of_running hrun, hrest]
      · rw [Nat.add_assoc, visits_add_of_running hrun, harrives.visits_eq hdue]
        exact hup.cons hthere.value hlt

/-- A loop whose rounds all come to its NEXT is gone through once for each value from its lower to
its upper bound, as these were when the FOR was carried out, and once if there is none. The NEXT
then finds these values in ascending order, and the last time it leaves the loop: the loops from
before are open, the variable keeps its last value, and the run goes on behind the NEXT, if there is
a line. -/
theorem loop_counts_up {name : String} {first last : Expr} {a b : Int} {f l : Int64}
    {invariant : State → Prop} (hlimit : m.limit = 0) (hab : a < b)
    (hfor : ⟨a, .for_ name first last⟩ ∈ m.program.lines)
    (hnext : ⟨b, .next name⟩ ∈ m.program.lines) (hcursor : s.cursor = a)
    (hfirst : first.eval s.vars = .ok f)
    (hlast : last.eval s.vars = .ok l) (hentry : ∀ t, m.step s = .running t → invariant t)
    (hrounds : m.Rounds invariant ⟨name, a, f, l⟩ s.loops b) :
    ∃ n t, m.run n s = .running t ∧ t.cursor = b ∧
      CountsUp name f l (m.visits b (n + 1) s) ∧
      (m.run (n + 1) s).state.loops = s.loops ∧
      (m.run (n + 1) s).state.vars.get? name = some (max f l) ∧
      (∀ c, m.program.after? b = some c → ∃ u, m.run (n + 1) s = .running u ∧ u.cursor = c) ∧
      (m.program.after? b = none →
        ∃ u, m.run (n + 1) s = .stopped u (some ⟨b, .noLineAfter b⟩)) := by
  have hdue : m.due? s = some ⟨a, .for_ name first last⟩ :=
    due?_of_unlimited hlimit hfor rfl hcursor
  have hdue' : ∀ {t : State}, t.cursor = b → m.due? t = some ⟨b, .next name⟩ :=
    fun ht => due?_of_unlimited hlimit hnext rfl ht
  obtain ⟨c, hafter⟩ : ∃ c, m.program.after? a = some c := by
    cases hafter : m.program.after? a with
    | some c => exact ⟨c, rfl⟩
    | none =>
        have hle := Program.after?_eq_none_iff.mp hafter b ⟨_, hnext, rfl⟩
        omega
  obtain ⟨t, hstep, ht, hcounts⟩ := step_for hdue hfirst hlast hafter
  have hmax : f ≤ max f l := by
    rw [Int64.le_iff_toInt_le, toInt_max]
    omega
  obtain ⟨n, u, hrun, hu, hthere, hup⟩ := run_rounds hdue' hrounds (Int64.le_refl f) hmax
    (hentry t hstep) (by rw [ht, hafter]) hcounts
  have hone : m.run 1 s = .running t := by rw [run_one, hstep]
  have hall : m.run (1 + n) s = .running u := by rw [run_add_of_running hone, hrun]
  have hleaves := step_next_leaves (hdue' hu) hthere (by
    rw [Int64.le_iff_toInt_le, toInt_max]
    omega)
  have hend : m.run (1 + n + 1) s = m.proceed
      ({ u with current := b, steps := u.steps + 1, loops := s.loops }, .ok .next) := by
    rw [run_add_of_running hall, run_one, hleaves]
  refine ⟨1 + n, u, hall, hu, ?_, ?_, ?_, ?_, ?_⟩
  · rw [Nat.add_assoc, visits_add_of_running hone, visits_of_step hdue, if_neg (by omega)]
    exact hup
  all_goals rw [hend, proceed]
  · cases m.program.after? b with
    | some c => rfl
    | none => rfl
  · cases m.program.after? b with
    | some c => exact hthere.value
    | none => exact hthere.value
  · intro c hc
    rw [hc]
    exact ⟨_, rfl, rfl⟩
  · intro hnone
    rw [hnone]
    exact ⟨_, rfl⟩

theorem step_let {name : String} {e : Expr} {value : Int64} {next : Int}
    (hdue : m.due? s = some ⟨number, .let_ name e⟩) (hvalue : e.eval s.vars = .ok value)
    (hafter : m.program.after? number = some next) :
    ∃ t, m.step s = .running t ∧ t.cursor = next ∧ t.loops = s.loops ∧
      t.vars = s.vars.set name value := by
  rw [step_of_due hdue]
  simp only [exec, hvalue, proceed, State.assign, hafter]
  exact ⟨_, rfl, rfl, rfl, rfl⟩

/-- The bounds are the greatest words there are, and the body takes away the upper one. -/
def summing : Session :=
  .new ⟨.ofLines [⟨10, .let_ "n" (.lit 9223372036854775807)⟩, ⟨20, .let_ "sum" (.lit 0)⟩,
    ⟨30, .for_ "i" (.lit 9223372036854775805) (.var "n")⟩,
    ⟨40, .let_ "sum" (.binary .add (.var "sum") (.var "i"))⟩, ⟨50, .let_ "n" (.lit 0)⟩,
    ⟨60, .next "i"⟩], 0, false⟩ .empty

def summingState : State :=
  { vars := ⟨[("n", 9223372036854775807), ("sum", 0)]⟩, loops := [], calls := [], cursor := 30,
    current := 20, steps := 2, input := .empty, outputs := [], sent := [] }

/-- A round needs the sum so far, or else its first line has nothing to add to. -/
theorem rounds_summing : summing.machine.Rounds (fun s => s.vars.Defines "sum")
    ⟨"i", 30, 9223372036854775805, 9223372036854775807⟩ [] 60 := by
  intro value _ _ s hsum hafter hcounts
  obtain ⟨sum, hsum⟩ := hsum
  have hcursor : s.cursor = 40 := Option.some.inj (hafter.symm.trans (by decide))
  have hadds : summing.machine.due? s =
      some ⟨40, .let_ "sum" (.binary .add (.var "sum") (.var "i"))⟩ :=
    due?_of_unlimited rfl (by decide) rfl hcursor
  have hsum' : (Expr.binary .add (.var "sum") (.var "i")).eval s.vars = .ok (sum + value) := by
    have hcounter : s.vars.get? "i" = some value := hcounts.value
    simp [Expr.eval, hsum, hcounter, Operator.apply]
  have hfifty : summing.machine.program.after? 40 = some 50 := by decide
  obtain ⟨t, hstep, ht, hloops, hvars⟩ := step_let hadds hsum' hfifty
  have hclears : summing.machine.due? t = some ⟨50, .let_ "n" (.lit 0)⟩ :=
    due?_of_unlimited rfl (by decide) rfl ht
  have hsixty : summing.machine.program.after? 50 = some 60 := by decide
  obtain ⟨u, hstep', hu, hloops', hvars'⟩ := step_let hclears rfl hsixty
  refine ⟨2, u, ?_, ⟨?_, ?_⟩, ?_⟩
  · exact .later (by omega) hstep (.later (by omega) hstep' (.here hu))
  · rw [hloops', hloops, hcounts.loops]
  · rw [hvars', hvars]
    simpa [Store.get?_set] using hcounts.value
  · intro _ v hagain
    refine step_defines hagain ⟨sum + value, ?_⟩
    rw [hvars', hvars]
    simp [Store.get?_set]

/-- There are three rounds, and none after that of the greatest word. -/
theorem loop_counts_up_summing :
    summing.machine.run 2 summing.initial = .running summingState ∧
      ∃ n t, summing.machine.run n summingState = .running t ∧ t.cursor = 60 ∧
        CountsUp "i" 9223372036854775805 9223372036854775807
          (summing.machine.visits 60 (n + 1) summingState) ∧
        (summing.machine.visits 60 (n + 1) summingState).length = 3 ∧
        ∃ u, summing.machine.run (n + 1) summingState =
          .stopped u (some ⟨60, .noLineAfter 60⟩) := by
  have hrun : summing.machine.run 2 summing.initial = .running summingState := by decide +kernel
  have hfor : ⟨30, .for_ "i" (.lit 9223372036854775805) (.var "n")⟩ ∈
      summing.machine.program.lines := by decide
  have hnext : ⟨60, .next "i"⟩ ∈ summing.machine.program.lines := by decide
  have hentry : ∀ t, summing.machine.step summingState = .running t → t.vars.Defines "sum" :=
    fun t hstep => step_defines hstep ⟨0, rfl⟩
  obtain ⟨n, t, hrounds, hcursor, hup, -, -, -, hend⟩ :=
    loop_counts_up rfl (by decide) hfor hnext rfl rfl rfl hentry rounds_summing
  have hlength : ((summing.machine.visits 60 (n + 1) summingState).length : Int) = 3 := hup.length
  exact ⟨hrun, n, t, hrounds, hcursor, hup, by omega, hend (by decide)⟩

end Machine

end NumberedBasic
