import NumberedBasic.Proofs.Machine.Flow

/-! The open loops of a run. A loop that is open when a line is fetched can be repeated: its
variable has a value, and there is a line after its FOR. So the only thing that can be wrong with a
NEXT is that it does not belong to the innermost loop. -/
namespace NumberedBasic

/-- The variable has a value. -/
def Store.Defines (vars : Store) (name : String) : Prop := ∃ value, vars.get? name = some value

theorem Store.Defines.set {vars : Store} {name : String} (h : vars.Defines name) (other : String)
    (value : Int64) : (vars.set other value).Defines name := by
  obtain ⟨old, hold⟩ := h
  rw [Defines, get?_set]
  by_cases hname : name = other
  · exact ⟨value, if_pos hname⟩
  · exact ⟨old, by rw [if_neg hname, hold]⟩

/-- The loop counts with a variable that has a value, and a line of the program opened it that is
not the last one. -/
structure Loop.Repeatable (p : Program) (vars : Store) (loop : Loop) : Prop where
  value : vars.Defines loop.name
  line : loop.line ∈ p.declared
  successor : ∃ k ∈ p.declared, loop.line < k

theorem Loop.Repeatable.exists_after {p : Program} {vars : Store} {loop : Loop}
    (h : loop.Repeatable p vars) : ∃ k, p.after? loop.line = some k := by
  cases hafter : p.after? loop.line with
  | some k => exact ⟨k, rfl⟩
  | none =>
      obtain ⟨k, hk, hlt⟩ := h.successor
      have hle := Program.after?_eq_none_iff.mp hafter k hk
      omega

/-- There is no open loop, or the innermost one counts with another variable. -/
def State.Misnested (s : State) (name : String) : Prop :=
  s.loops = [] ∨ ∃ loop outer, s.loops = loop :: outer ∧ loop.name ≠ name

namespace Machine

variable {m : Machine} {s t u : State} {name : String}

/-- No update takes a value away from a variable. -/
theorem Update.defines (h : Update m s t) (hs : s.vars.Defines name) : t.vars.Defines name := by
  cases h with
  | change c =>
      cases c with
      | emit out =>
          rw [Machine.change, emit_eq_withPorts]
          exact hs
      | assign other value => exact hs.set other value
      | openLoop other first last => exact hs
      | closeLoop => exact hs
      | call => exact hs
      | leave => exact hs
  | read r =>
      rw [readInteger_eq]
      exact hs

theorem exec_defines (hs : s.vars.Defines name) (stmt : Statement) :
    (m.exec s stmt).1.vars.Defines name :=
  exec_invariant (I := fun s => s.vars.Defines name) Update.defines hs stmt

theorem step_defines (h : m.step s = .running t) (hs : s.vars.Defines name) :
    t.vars.Defines name := by
  obtain ⟨line, -, hproceed⟩ := step_running h
  have hexec := exec_defines (m := m)
    (s := { s with current := line.number, steps := s.steps + 1 }) hs line.statement
  rcases proceed_running hproceed with ⟨target, -, rfl⟩ | ⟨number, -, -, rfl⟩
  · exact hexec
  · exact hexec

/-- A step that goes on leaves open loops that were open before it, or one of its own line, which is
then followed by another line. -/
theorem mem_loops_of_step (h : m.step s = .running t) {loop : Loop} (hloop : loop ∈ t.loops) :
    loop ∈ s.loops ∨ t.vars.Defines loop.name ∧ ∃ line, m.due? s = some line ∧
      loop.line = line.number ∧ m.program.after? line.number = some t.cursor := by
  obtain ⟨line, hdue, hmoves⟩ := step_moves h
  generalize line.statement.unwrap s.vars = stmt at hmoves
  cases hmoves with
  | passes hsame hafter => exact .inl (hsame.loops ▸ hloop)
  | opens hloops hcalls hvalue hafter =>
      rw [hloops] at hloop
      rcases List.mem_cons.mp hloop with rfl | hloop
      · exact .inr ⟨⟨_, hvalue⟩, line, hdue, rfl, hafter⟩
      · exact .inl hloop
  | closes hloops hcalls hafter =>
      rw [hloops]
      exact .inl (List.mem_cons_of_mem _ hloop)
  | repeats hloops hsame hafter => exact .inl (hsame.loops ▸ hloop)
  | goes hsame => exact .inl (hsame.loops ▸ hloop)
  | calls hloops hcalls => exact .inl (hloops ▸ hloop)
  | returns hloops hcalls hafter => exact .inl (hloops ▸ hloop)

theorem step_repeatable (hs : ∀ loop ∈ s.loops, loop.Repeatable m.program s.vars)
    (h : m.step s = .running t) : ∀ loop ∈ t.loops, loop.Repeatable m.program t.vars := by
  intro loop hloop
  rcases mem_loops_of_step h hloop with hold | ⟨hvalue, line, hdue, hline, hafter⟩
  · have hrepeatable := hs loop hold
    exact ⟨step_defines h hrepeatable.value, hrepeatable.line, hrepeatable.successor⟩
  · -- A FOR on the last line ends the run, so this one has the next line behind it.
    obtain ⟨hnext, -⟩ := Program.isLeast_of_after? hafter
    refine ⟨hvalue, ?_, t.cursor, hnext.1, ?_⟩
    · rw [hline]
      exact ⟨line, mem_of_due hdue, rfl⟩
    · rw [hline]
      exact hnext.2

/-- What comes of closing a loop where every open loop can be repeated. The third case is the only
one in which the variable is changed, and it leads on to another line. -/
inductive Closes (m : Machine) (s : State) (name : String) : Outcome → Prop
  | misnested : s.Misnested name → Closes m s name (s, .error .forNesting)
  | closed {outer : List Loop} : ¬ s.Misnested name →
      Closes m s name ({ s with loops := outer }, .ok .next)
  | repeated {value : Int64} {line : Int} : ¬ s.Misnested name →
      Closes m s name (s.assign name value, .ok (.jump line))

theorem closeLoop_closes (hs : ∀ loop ∈ s.loops, loop.Repeatable m.program s.vars)
    (name : String) : Closes m s name (m.closeLoop s name) := by
  unfold closeLoop
  cases hloops : s.loops with
  | nil => exact .misnested (.inl hloops)
  | cons loop outer =>
      dsimp only
      split
      · rename_i hname
        subst hname
        have hnested : ¬ s.Misnested loop.name := by
          rintro (hempty | ⟨top, rest, htop, hother⟩)
          · rw [hloops] at hempty
            cases hempty
          · rw [hloops] at htop
            cases htop
            exact hother rfl
        have hloop := hs loop (hloops ▸ List.mem_cons_self)
        obtain ⟨counter, hcounter⟩ := hloop.value
        obtain ⟨line, hafter⟩ := hloop.exists_after
        rw [hcounter]
        dsimp only
        split
        · exact .closed hnested
        · rw [jumpAfter, hafter]
          exact .repeated hnested
      · rename_i hname
        exact .misnested (.inr ⟨loop, outer, hloops, hname⟩)

theorem Closes.error_iff {a : Outcome} (h : Closes m s name a) (fault : Fault) :
    a.2 = .error fault ↔ fault = .forNesting ∧ s.Misnested name := by
  cases h with
  | misnested hmisnested =>
      constructor
      · intro herror
        cases herror
        exact ⟨rfl, hmisnested⟩
      · rintro ⟨rfl, -⟩
        rfl
  | closed hnested | repeated hnested =>
      constructor
      · intro herror
        cases herror
      · rintro ⟨-, hmisnested⟩
        exact absurd hmisnested hnested

theorem Closes.vars_of_stopped {a : Outcome} {error : Option LineFault} (h : Closes m s name a)
    (hstopped : m.proceed a = .stopped t error) : t.vars = s.vars := by
  cases h with
  | misnested hmisnested => rw [(proceed_stopped hstopped).1]
  | closed hnested => rw [(proceed_stopped hstopped).1]
  | repeated hnested => cases hstopped

end Machine

namespace Session

/-- Whenever a line is fetched, every open loop can be repeated. A NEXT that is then carried out, be
it under IFs, fails exactly when it does not belong to the innermost loop, and a run that stops
there leaves the variables as they were. -/
theorem next_faults_iff_misnested (s : Session) {k : Nat} {u : State}
    (h : s.machine.run k s.initial = .running u) :
    (∀ loop ∈ u.loops, loop.Repeatable s.program u.vars) ∧
      ∀ line name, s.machine.due? u = some line → line.statement.unwrap u.vars = .next name →
        (∀ fault, (s.machine.exec { u with current := line.number, steps := u.steps + 1 }
            line.statement).2 = .error fault ↔
          fault = .forNesting ∧ u.Misnested name) ∧
        (∀ t error, s.machine.step u = .stopped t error → t.vars = u.vars) ∧
        Fault.forNesting.message = "incorrect nesting of FORs" := by
  have hloops : ∀ loop ∈ u.loops, loop.Repeatable s.machine.program u.vars := by
    refine Machine.run_invariant Machine.step_repeatable ?_ h
    intro loop hloop
    cases hloop
  refine ⟨hloops, ?_⟩
  intro line name hdue hnext
  have hexec := s.machine.exec_unwrap { u with current := line.number, steps := u.steps + 1 }
    line.statement
  change s.machine.exec _ (line.statement.unwrap u.vars) = _ at hexec
  rw [hnext] at hexec
  have hcloses := Machine.closeLoop_closes (m := s.machine)
    (s := { u with current := line.number, steps := u.steps + 1 }) hloops name
  rw [Machine.step_of_due hdue, ← hexec]
  exact ⟨hcloses.error_iff, fun t error hstopped => hcloses.vars_of_stopped hstopped, rfl⟩

/-- No loop counts with the variable of this NEXT. -/
def strayNext : Line :=
  ⟨40, .if_ ⟨.lt, .lit 0, .var "i"⟩ (.if_ ⟨.eq, .var "j", .lit 2⟩ (.next "k"))⟩

/-- The inner loop is repeated once and closed, the outer one stays open. -/
def crossed : Session :=
  .new ⟨.ofLines [⟨10, .for_ "i" (.lit 1) (.lit 2)⟩, ⟨20, .for_ "j" (.lit 1) (.lit 2)⟩,
    ⟨30, .next "j"⟩, strayNext], 0, false⟩ .empty

def crossedState : State :=
  { vars := ⟨[("i", 1), ("j", 2)]⟩, loops := [⟨"i", 10, 1, 2⟩], calls := [], cursor := 40,
    current := 30, steps := 4, input := .empty, outputs := [], sent := [] }

theorem next_faults_iff_misnested_crossed :
    crossed.machine.run 4 crossed.initial = .running crossedState ∧
      crossed.machine.due? crossedState = some strayNext ∧
      strayNext.statement.unwrap crossedState.vars = .next "k" ∧
      (∀ loop ∈ crossedState.loops, loop.Repeatable crossed.program crossedState.vars) ∧
      (crossed.machine.exec { crossedState with current := 40, steps := 5 }
        strayNext.statement).2 = .error .forNesting := by
  have hrun : crossed.machine.run 4 crossed.initial = .running crossedState := by decide +kernel
  have hdue : crossed.machine.due? crossedState = some strayNext := by decide +kernel
  have hstray : strayNext.statement.unwrap crossedState.vars = .next "k" := by decide +kernel
  obtain ⟨hloops, hnext⟩ := next_faults_iff_misnested crossed hrun
  obtain ⟨hfault, -, -⟩ := hnext strayNext "k" hdue hstray
  have hmisnested : crossedState.Misnested "k" := .inr ⟨_, _, rfl, by decide⟩
  exact ⟨hrun, hdue, hstray, hloops, (hfault .forNesting).mpr ⟨rfl, hmisnested⟩⟩

end Session

end NumberedBasic
