import NumberedBasic.Proofs.Machine.Step
import NumberedBasic.Proofs.Program.Successor

/-! Where a statement leads. Loops are opened and closed, calls are made and left, and a program
moves to another line in a few ways only, and each of them belongs to one kind of statement. -/
namespace NumberedBasic

namespace Machine

variable {m : Machine} {s t u : State}

/-- The same loops and calls are open. -/
structure SameStacks (s t : State) : Prop where
  loops : t.loops = s.loops
  calls : t.calls = s.calls

theorem SameStacks.trans (h : SameStacks s t) (h' : SameStacks t u) : SameStacks s u :=
  ⟨h'.loops.trans h.loops, h'.calls.trans h.calls⟩

theorem emit_sameStacks (m : Machine) (s : State) (out : Output) : SameStacks s (m.emit s out) := by
  rw [emit_eq_withPorts]
  exact ⟨rfl, rfl⟩

theorem prompted_sameStacks (m : Machine) (prompt : Option String) (s : State) :
    SameStacks s (m.prompted prompt s) := by
  cases prompt with
  | none => exact ⟨rfl, rfl⟩
  | some text => exact emit_sameStacks m s ⟨text, false⟩

theorem readInteger_sameStacks (r : Request) (s : State) : SameStacks s (readInteger r s).1 := by
  rw [readInteger_eq]
  exact ⟨rfl, rfl⟩

/-- Everything that a statement without IFs to take off can do to the open loops and calls, with
where it leads. -/
inductive Leads (m : Machine) (s : State) : Statement → Outcome → Prop
  | stays {stmt : Statement} {t : State} {a : Except Fault Flow} :
      SameStacks s t → Local a → Leads m s stmt (t, a)
  | opens {name : String} {first last : Expr} {a b : Int64} :
      Leads m s (.for_ name first last)
        ({ s.assign name a with loops := ⟨name, s.current, a, b⟩ :: s.loops }, .ok .next)
  | closes {loop : Loop} {outer : List Loop} : s.loops = loop :: outer →
      Leads m s (.next loop.name) ({ s with loops := outer }, .ok .next)
  | repeats {loop : Loop} {outer : List Loop} {value : Int64} {line : Int} :
      s.loops = loop :: outer → m.program.after? loop.line = some line →
      Leads m s (.next loop.name) (s.assign loop.name value, .ok (.jump line))
  | goes {target : Int} : Leads m s (.goto target) (s, .ok (.jump target))
  | calls {target : Int} :
      Leads m s (.gosub target) ({ s with calls := s.current :: s.calls }, .ok (.jump target))
  | returns {caller line : Int} {outer : List Int} :
      s.calls = caller :: outer → m.program.after? caller = some line →
      Leads m s .return_ ({ s with calls := outer }, .ok (.jump line))
  | ends {stmt : Statement} {t : State} {number : Int} :
      m.program.after? number = none → Leads m s stmt (t, .error (.noLineAfter number))

theorem Leads.still {stmt : Statement} {a : Except Fault Flow} (ha : Local a) :
    Leads m s stmt (s, a) := .stays ⟨rfl, rfl⟩ ha

theorem readAll_stays (prompt : String) (names : List String) (s : State) :
    SameStacks s (readAll prompt names s).1 ∧ Local (readAll prompt names s).2 := by
  induction names generalizing s with
  | nil => exact ⟨⟨rfl, rfl⟩, trivial⟩
  | cons name names ih =>
      have hplain : ∀ fault, (readInteger ⟨s.current, name, prompt⟩ s).2 = .error fault →
          fault.isPlain = true := fun _ h => isPlain_of_readInteger h
      have hread := readInteger_sameStacks ⟨s.current, name, prompt⟩ s
      rw [readAll]
      generalize readInteger ⟨s.current, name, prompt⟩ s = a at hplain hread
      obtain ⟨t, a⟩ := a
      cases a with
      | ok value =>
          have hassign : SameStacks t (t.assign name value) := ⟨rfl, rfl⟩
          obtain ⟨hrest, hlocal⟩ := ih (t.assign name value)
          exact ⟨hread.trans (hassign.trans hrest), hlocal⟩
      | error fault => exact ⟨hread, hplain fault rfl⟩

/-- A jump behind a line leads to the next one, unless it is the last. -/
theorem jumpAfter_eq (m : Machine) (s : State) (number : Int) :
    (∃ line, m.program.after? number = some line ∧
        m.jumpAfter s number = (s, .ok (.jump line))) ∨
      m.program.after? number = none ∧
        m.jumpAfter s number = (s, .error (.noLineAfter number)) := by
  unfold jumpAfter
  cases m.program.after? number with
  | some line => exact .inl ⟨line, rfl, rfl⟩
  | none => exact .inr ⟨rfl, rfl⟩

theorem exec_leads (m : Machine) (s : State) (stmt : Statement) :
    Leads m s (stmt.unwrap s.vars) (m.exec s stmt) := by
  have hdoes := deed_does s.vars s.loops s.calls stmt
  rw [exec_eq_perform]
  generalize stmt.deed s.vars s.loops s.calls = d at hdoes
  generalize stmt.unwrap s.vars = stmt' at hdoes
  cases hdoes with
  | stays hlocal => exact .still hlocal
  | assigns => exact .stays ⟨rfl, rfl⟩ trivial
  | prints => exact .stays (emit_sameStacks m s _) trivial
  | @reads prompt names =>
      obtain ⟨hread, hlocal⟩ := readAll_stays (prompt.getD "") names (m.prompted prompt s)
      rw [perform_reads]
      exact .stays ((m.prompted_sameStacks prompt s).trans hread) hlocal
  | opens => exact .opens
  | closes hloops =>
      rw [perform_closes m hloops]
      exact .closes hloops
  | @repeats loop outer value hloops =>
      change Leads m s _ (m.jumpAfter (s.assign loop.name value) loop.line)
      obtain ⟨line, hafter, hjump⟩ | ⟨hafter, hjump⟩ := jumpAfter_eq m (s.assign loop.name value)
        loop.line
      · rw [hjump]
        exact .repeats hloops hafter
      · rw [hjump]
        exact .ends hafter
  | goes => exact .goes
  | calls => exact .calls
  | @returns caller outer hcalls =>
      rw [perform_returns m hcalls]
      obtain ⟨line, hafter, hjump⟩ | ⟨hafter, hjump⟩ := jumpAfter_eq m { s with calls := outer }
        caller
      · rw [hjump]
        exact .returns hcalls hafter
      · rw [hjump]
        exact .ends hafter

/-- What is wrong with a statement speaks of a line only where there is none to go on with. -/
theorem exec_error {stmt : Statement} {fault : Fault} (h : (m.exec s stmt).2 = .error fault) :
    fault.isPlain = true ∨ ∃ n, fault = .noLineAfter n := by
  have hleads := exec_leads m s stmt
  generalize m.exec s stmt = a at hleads h
  generalize stmt.unwrap s.vars = stmt' at hleads
  cases hleads with
  | stays hsame hlocal =>
      cases h
      exact .inl hlocal
  | ends hafter =>
      cases h
      exact .inr ⟨_, rfl⟩
  | opens => cases h
  | closes => cases h
  | repeats => cases h
  | goes => cases h
  | calls => cases h
  | returns => cases h

theorem step_unwrap {line : Line} (h : m.due? s = some line) :
    m.step s = m.proceed (m.exec { s with current := line.number, steps := s.steps + 1 }
      (line.statement.unwrap s.vars)) := by
  rw [step_of_due h, ← exec_unwrap]

/-- Everything that a step can do to the open loops and calls when the run goes on after it. The
statement is the one that was carried out, without its IFs. -/
inductive Moves (m : Machine) (line : Line) (s t : State) : Statement → Prop
  | passes {stmt : Statement} : SameStacks s t → m.program.after? line.number = some t.cursor →
      Moves m line s t stmt
  | opens {name : String} {first last : Expr} {a b : Int64} :
      t.loops = ⟨name, line.number, a, b⟩ :: s.loops → t.calls = s.calls →
      t.vars.get? name = some a → m.program.after? line.number = some t.cursor →
      Moves m line s t (.for_ name first last)
  | closes {loop : Loop} : s.loops = loop :: t.loops → t.calls = s.calls →
      m.program.after? line.number = some t.cursor → Moves m line s t (.next loop.name)
  | repeats {loop : Loop} {outer : List Loop} : s.loops = loop :: outer → SameStacks s t →
      m.program.after? loop.line = some t.cursor → Moves m line s t (.next loop.name)
  | goes : SameStacks s t → Moves m line s t (.goto t.cursor)
  | calls : t.loops = s.loops → t.calls = line.number :: s.calls →
      Moves m line s t (.gosub t.cursor)
  | returns {caller : Int} : t.loops = s.loops → s.calls = caller :: t.calls →
      m.program.after? caller = some t.cursor → Moves m line s t .return_

theorem step_moves (h : m.step s = .running t) :
    ∃ line, m.due? s = some line ∧ Moves m line s t (line.statement.unwrap s.vars) := by
  obtain ⟨line, hdue, hproceed⟩ := step_running h
  refine ⟨line, hdue, ?_⟩
  have hleads := exec_leads m { s with current := line.number, steps := s.steps + 1 } line.statement
  have hcurrent :=
    (exec_stays m { s with current := line.number, steps := s.steps + 1 } line.statement).current
  change Leads m _ (line.statement.unwrap s.vars) _ at hleads
  generalize m.exec _ line.statement = a at hleads hcurrent hproceed
  generalize line.statement.unwrap s.vars = stmt at hleads
  -- Either the statement jumped, or it passed on to the line after its own.
  rcases proceed_running hproceed with ⟨target, hjump, rfl⟩ | ⟨number, hnext, hafter, rfl⟩
  · cases hleads with
    | stays hsame hlocal =>
        cases hjump
        exact hlocal.elim
    | repeats hloops hafter =>
        cases hjump
        exact .repeats hloops ⟨rfl, rfl⟩ hafter
    | goes =>
        cases hjump
        exact .goes ⟨rfl, rfl⟩
    | calls =>
        cases hjump
        exact .calls rfl rfl
    | returns hcalls hafter =>
        cases hjump
        exact .returns rfl hcalls hafter
    | opens => cases hjump
    | closes => cases hjump
    | ends => cases hjump
  · rw [hcurrent] at hafter
    cases hleads with
    | stays hsame hlocal => exact .passes ⟨hsame.loops, hsame.calls⟩ hafter
    | opens => exact .opens rfl rfl (by simp [State.assign, Store.get?_set]) hafter
    | closes hloops => exact .closes hloops rfl hafter
    | repeats => cases hnext
    | goes => cases hnext
    | calls => cases hnext
    | returns => cases hnext
    | ends => cases hnext

theorem step_of_jumpsTo {line : Line} {target : Int} (hdue : m.due? s = some line)
    (h : line.statement.JumpsTo s.vars target) :
    ∃ t, m.step s = .running t ∧ t.cursor = target := by
  rw [step_unwrap hdue]
  rcases h with h | h
  · rw [h]
    exact ⟨_, rfl, rfl⟩
  · rw [h]
    exact ⟨_, rfl, rfl⟩

/-- Only a GOTO or a GOSUB can lead to a line that is not there: any other step leads to the line
after another one. -/
theorem step_cursor (h : m.step s = .running t) :
    ∃ line, m.due? s = some line ∧
      (line.statement.JumpsTo s.vars t.cursor ∨ ∃ n, m.program.after? n = some t.cursor) := by
  obtain ⟨line, hdue, hmoves⟩ := step_moves h
  refine ⟨line, hdue, ?_⟩
  unfold Statement.JumpsTo
  generalize line.statement.unwrap s.vars = stmt at hmoves
  cases hmoves with
  | passes hsame hafter => exact .inr ⟨_, hafter⟩
  | opens hloops hcalls hvalue hafter => exact .inr ⟨_, hafter⟩
  | closes hloops hcalls hafter => exact .inr ⟨_, hafter⟩
  | repeats hloops hsame hafter => exact .inr ⟨_, hafter⟩
  | goes hsame => exact .inl (.inl rfl)
  | calls hloops hcalls => exact .inl (.inr rfl)
  | returns hloops hcalls hafter => exact .inr ⟨_, hafter⟩

end Machine

end NumberedBasic
