import NumberedBasic.Proofs.Input.Chunks
import NumberedBasic.Proofs.Machine.Loops

/-! What a statement leaves behind when it fails. Only an INPUT has done anything by then: it has
put out its prompt and read some of its variables. A RETURN may have left its call, and this only
when there is no line to return to. -/
namespace NumberedBasic

namespace Input

/-- The words that wait and those that are still to come in, in order. -/
def words (input : Input) : List Word :=
  input.queue ++ wordsOf (input.provider.elim [] Provider.replies)

theorem wordsOf_askUntilWord (afterwards : ReadError) (replies : List Reply) :
    wordsOf replies = (askUntilWord afterwards replies).word.toOption.toList ++
      ((askUntilWord afterwards replies).queue ++
        wordsOf (askUntilWord afterwards replies).replies) := by
  induction replies with
  | nil => rfl
  | cons reply rest ih =>
      rw [wordsOf, List.flatMap_cons, askUntilWord]
      cases hwords : Text.fields reply.text with
      | cons word more => rfl
      | nil =>
          cases reply.error with
          | some e => rfl
          | none => exact ih

/-- The word that is taken is the first one there is. If none could be taken, all are still
there. -/
theorem words_take (input : Input) (unwritten : Bool) :
    input.words =
      (input.take unwritten).1.toOption.toList ++ (input.take unwritten).2.1.words := by
  obtain ⟨queue, provider⟩ := input
  cases queue with
  | cons word more => rfl
  | nil =>
      cases provider with
      | none => rfl
      | some p =>
          obtain ⟨replies, afterwards, blocked⟩ := p
          have hasked := wordsOf_askUntilWord afterwards replies
          cases blocked with
          | none => exact hasked
          | some reason =>
              cases unwritten with
              | true => rfl
              | false => exact hasked

end Input

/-- A variable that was read: the word for it, and the value that the word denotes. -/
structure Reading where
  name : String
  word : Word
  value : Int64
  denotes : word.toInt? = some value

/-- Assigns what was read, one variable after the other. -/
def Store.record (vars : Store) (readings : List Reading) : Store :=
  readings.foldl (fun vars r => vars.set r.name r.value) vars

namespace Machine

/-- Why a variable could not be read, and the words that were taken for it all the same. -/
inductive Unread (name : String) : Fault → List Word → Prop
  | ended : Unread name .endOfInput []
  | failed (reason : String) : Unread name (.reading name reason) []
  | notInteger {word : Word} : word.toInt? = none → Unread name (.notInteger word) [word]

/-- Some of the names were read, from the first words there were, and the next name was not. -/
structure Interrupted (names : List String) (s t : State) (fault : Fault)
    (readings : List Reading) : Prop where
  vars : t.vars = s.vars.record readings
  words : ∃ name rest taken, names = readings.map Reading.name ++ name :: rest ∧
    Unread name fault taken ∧
    s.input.words = readings.map Reading.word ++ (taken ++ t.input.words)

/-- Nothing was put out, neither collected nor sent. -/
structure SameOutput (s t : State) : Prop where
  outputs : t.outputs = s.outputs
  streamed : t.sent.filterMap Signal.output? = s.sent.filterMap Signal.output?

variable {m : Machine} {s t u : State} {fault : Fault}

theorem SameOutput.trans (h : SameOutput s t) (h' : SameOutput t u) : SameOutput s u :=
  ⟨h'.outputs.trans h.outputs, h'.streamed.trans h.streamed⟩

theorem readInteger_sameOutput (r : Request) (s : State) : SameOutput s (readInteger r s).1 := by
  rw [readInteger_eq]
  exact ⟨rfl, filterMap_output?_replicate _ r s.sent⟩

theorem readAll_sameOutput (prompt : String) (names : List String) (s : State) :
    SameOutput s (readAll prompt names s).1 := by
  induction names generalizing s with
  | nil => exact ⟨rfl, rfl⟩
  | cons name names ih =>
      have hread := readInteger_sameOutput ⟨s.current, name, prompt⟩ s
      rw [readAll]
      generalize readInteger ⟨s.current, name, prompt⟩ s = a at hread
      obtain ⟨t, a⟩ := a
      cases a with
      | ok value =>
          have hassign : SameOutput t (t.assign name value) := ⟨rfl, rfl⟩
          exact hread.trans (hassign.trans (ih (t.assign name value)))
      | error fault => exact hread

theorem accept_ok {r : Request} {word : Except ReadError Word} {value : Int64}
    (h : accept r word = .ok value) : ∃ w, word = .ok w ∧ w.toInt? = some value := by
  cases word with
  | error e => cases e <;> cases h
  | ok w =>
      rw [accept] at h
      split at h
      · rename_i hvalue
        cases h
        exact ⟨w, rfl, hvalue⟩
      · cases h

theorem accept_error {r : Request} {word : Except ReadError Word}
    (h : accept r word = .error fault) : Unread r.name fault word.toOption.toList := by
  cases word with
  | error e =>
      cases e with
      | endOfInput =>
          cases h
          exact .ended
      | failed reason =>
          cases h
          exact .failed reason
  | ok w =>
      rw [accept] at h
      split at h
      · cases h
      · rename_i hnone
        cases h
        exact .notInteger hnone

theorem readAll_interrupted {prompt : String} {names : List String}
    (h : readAll prompt names s = (t, .error fault)) :
    ∃ readings, Interrupted names s t fault readings := by
  induction names generalizing s with
  | nil => cases h
  | cons name names ih =>
      have hwords := s.input.words_take s.hasWritten
      rw [readAll, readInteger_eq] at h
      cases hread : accept ⟨s.current, name, prompt⟩ (s.input.take s.hasWritten).1 with
      | error fault' =>
          rw [hread] at h
          cases h
          exact ⟨[], rfl, name, names, _, rfl, accept_error hread, hwords⟩
      | ok value =>
          rw [hread] at h
          obtain ⟨word, hword, hvalue⟩ := accept_ok hread
          obtain ⟨readings, hvars, next, rest, taken, hnames, hunread, hrest⟩ := ih h
          rw [hword] at hwords
          refine ⟨⟨name, word, value, hvalue⟩ :: readings, hvars, next, rest, taken, ?_, hunread,
            ?_⟩
          · rw [hnames]
            rfl
          · exact hwords.trans (congrArg (word :: ·) hrest)

theorem prompted_vars (m : Machine) (prompt : Option String) (s : State) :
    (m.prompted prompt s).vars = s.vars := by
  cases prompt with
  | none => rfl
  | some text =>
      rw [prompted, Option.elim_some, emit_eq_withPorts]
      rfl

theorem prompted_input (m : Machine) (prompt : Option String) (s : State) :
    (m.prompted prompt s).input = s.input := by
  cases prompt with
  | none => rfl
  | some text =>
      rw [prompted, Option.elim_some, emit]
      split <;> rfl

theorem prompted_withInput (m : Machine) (prompt : Option String) (s : State) (input : Input) :
    m.prompted prompt { s with input } = { m.prompted prompt s with input } := by
  cases prompt with
  | none => rfl
  | some text =>
      simp only [prompted, Option.elim_some, emit]
      split <;> rfl

theorem prompted_current (m : Machine) (prompt : Option String) (s : State) :
    (m.prompted prompt s).current = s.current := by
  cases prompt with
  | none => rfl
  | some text =>
      rw [prompted, Option.elim_some, emit_eq_withPorts]
      rfl

/-- The records were put out and nothing else, in the one way that the machine puts them out. -/
structure PutOut (m : Machine) (records : List Output) (s t : State) : Prop where
  outputs : t.outputs = if m.streaming then s.outputs else records ++ s.outputs
  streamed : t.sent.filterMap Signal.output? =
    if m.streaming then records ++ s.sent.filterMap Signal.output?
    else s.sent.filterMap Signal.output?

theorem PutOut.sameOutput {records : List Output} (h : PutOut m records s t)
    (h' : SameOutput t u) : PutOut m records s u :=
  ⟨h'.outputs.trans h.outputs, h'.streamed.trans h.streamed⟩

theorem prompted_putOut (m : Machine) (prompt : Option String) (s : State) :
    PutOut m (prompt.toList.map (⟨·, false⟩)) s (m.prompted prompt s) := by
  cases prompt with
  | none => exact ⟨by simp [prompted], by simp [prompted]⟩
  | some text =>
      rw [prompted, Option.elim_some, emit]
      by_cases hstreaming : m.streaming
      · rw [if_pos hstreaming]
        exact ⟨(if_pos hstreaming).symm, (if_pos hstreaming).symm⟩
      · rw [if_neg hstreaming]
        exact ⟨(if_neg hstreaming).symm, (if_neg hstreaming).symm⟩

theorem exec_input (m : Machine) (s : State) (prompt : Option String) (names : List String) :
    m.exec s (.input prompt names) = readAll (prompt.getD "") names (m.prompted prompt s) := by
  cases prompt with
  | none => rfl
  | some text => rfl

/-- What an INPUT has done when it fails: its prompt is out, and the variables before the one that
it could not read are assigned. -/
structure BreaksOff (m : Machine) (prompt : Option String) (names : List String) (fault : Fault)
    (s t : State) : Prop where
  unmoved : SameStacks s t
  prompt : PutOut m (prompt.toList.map (⟨·, false⟩)) s t
  readings : ∃ readings, Interrupted names s t fault readings

/-- The variables, the loops, the output and the input are what they were. -/
structure Untouched (s t : State) : Prop where
  vars : t.vars = s.vars
  loops : t.loops = s.loops
  outputs : t.outputs = s.outputs
  sent : t.sent = s.sent
  input : t.input = s.input

/-- What a statement without IFs to take off leaves when it fails. -/
structure Leaves (m : Machine) (stmt : Statement) (fault : Fault) (s t : State) : Prop where
  untouched : (∀ prompt names, stmt ≠ .input prompt names) → Untouched s t
  /-- A RETURN has left its call if the GOSUB was on the last line. -/
  calls : t.calls = s.calls ∨ stmt = .return_ ∧
    ∃ caller, s.calls = caller :: t.calls ∧ IsGreatest m.program.declared caller
  breaksOff : ∀ prompt names, stmt = .input prompt names → m.BreaksOff prompt names fault s t

theorem input_breaksOff {prompt : Option String} {names : List String}
    (h : readAll (prompt.getD "") names (m.prompted prompt s) = (t, .error fault)) :
    m.BreaksOff prompt names fault s t := by
  have hstays := (readAll_stays (prompt.getD "") names (m.prompted prompt s)).1
  have hquiet := readAll_sameOutput (prompt.getD "") names (m.prompted prompt s)
  rw [h] at hstays hquiet
  obtain ⟨readings, hvars, hwords⟩ := readAll_interrupted h
  rw [prompted_vars] at hvars
  rw [prompted_input] at hwords
  exact ⟨(m.prompted_sameStacks prompt s).trans hstays,
    (m.prompted_putOut prompt s).sameOutput hquiet, readings, hvars, hwords⟩

/-- Everything that can have changed when a statement without IFs to take off has failed. -/
inductive Fails (m : Machine) (s : State) : Statement → State → Fault → Prop
  | still {stmt : Statement} {fault : Fault} : (∀ prompt names, stmt ≠ .input prompt names) →
      Fails m s stmt s fault
  | lost {caller : Int} {outer : List Int} : s.calls = caller :: outer →
      m.program.after? caller = none →
      Fails m s .return_ { s with calls := outer } (.noLineAfter caller)
  | reads {prompt : Option String} {names : List String} {t : State} {fault : Fault} :
      readAll (prompt.getD "") names (m.prompted prompt s) = (t, .error fault) →
      Fails m s (.input prompt names) t fault

theorem exec_fails (hs : ∀ loop ∈ s.loops, loop.Repeatable m.program s.vars) {stmt : Statement}
    (h : m.exec s stmt = (t, .error fault)) : Fails m s (stmt.unwrap s.vars) t fault := by
  have hdoes := deed_does s.vars s.loops s.calls stmt
  rw [exec_eq_perform] at h
  generalize stmt.deed s.vars s.loops s.calls = d at hdoes h
  generalize stmt.unwrap s.vars = stmt' at hdoes
  cases hdoes with
  | stays hlocal hother =>
      cases h
      exact .still hother
  | reads =>
      rw [perform_reads] at h
      exact .reads h
  | @repeats loop outer value hloops =>
      -- The counter is raised before the line after the FOR is looked for, but that line is there.
      obtain ⟨line, hafter⟩ := (hs loop (hloops ▸ List.mem_cons_self)).exists_after
      change m.jumpAfter (s.assign loop.name value) loop.line = _ at h
      rw [jumpAfter, hafter] at h
      cases h
  | @returns caller outer hcalls =>
      rw [perform_returns m hcalls] at h
      obtain ⟨line, -, hjump⟩ | ⟨hafter, hjump⟩ := jumpAfter_eq m { s with calls := outer } caller
      · cases hjump.symm.trans h
      · cases hjump.symm.trans h
        exact .lost hcalls hafter
  | assigns | prints | opens | closes | goes | calls => cases h

/-- Calls are made from lines of the program. -/
theorem step_callers (hs : ∀ caller ∈ s.calls, caller ∈ m.program.declared)
    (h : m.step s = .running t) : ∀ caller ∈ t.calls, caller ∈ m.program.declared := by
  obtain ⟨line, hdue, hmoves⟩ := step_moves h
  generalize line.statement.unwrap s.vars = stmt at hmoves
  cases hmoves with
  | passes hsame hafter => exact hsame.calls ▸ hs
  | opens hloops hcalls hvalue hafter => exact hcalls ▸ hs
  | closes hloops hcalls hafter => exact hcalls ▸ hs
  | repeats hloops hsame hafter => exact hsame.calls ▸ hs
  | goes hsame => exact hsame.calls ▸ hs
  | calls hloops hcalls =>
      rw [hcalls]
      exact List.forall_mem_cons.mpr ⟨⟨line, mem_of_due hdue, rfl⟩, hs⟩
  | returns hloops hcalls hafter =>
      rw [hcalls] at hs
      exact (List.forall_mem_cons.mp hs).2

end Machine

namespace Session

/-- A statement that fails, whichever it is and wherever a run has got to, leaves everything as it
was, with two exceptions. A RETURN has left its call if the GOSUB was on the last line, and an INPUT
has put out its prompt and assigned the variables before the one that it could not read. -/
theorem fault_leaves_state (s : Session) {k : Nat} {u t : State} {number : Int} {stmt : Statement}
    {fault : Fault} (hrun : s.machine.run k s.initial = .running u)
    (h : s.machine.exec { u with current := number, steps := u.steps + 1 } stmt =
      (t, .error fault)) : s.machine.Leaves (stmt.unwrap u.vars) fault u t := by
  have hloops : ∀ loop ∈ u.loops, loop.Repeatable s.machine.program u.vars := by
    refine Machine.run_invariant Machine.step_repeatable ?_ hrun
    intro loop hloop
    cases hloop
  have hcalls : ∀ caller ∈ u.calls, caller ∈ s.machine.program.declared := by
    refine Machine.run_invariant Machine.step_callers ?_ hrun
    intro caller hcaller
    cases hcaller
  have hfails := Machine.exec_fails (s := { u with current := number, steps := u.steps + 1 })
    hloops h
  change Machine.Fails _ _ (stmt.unwrap u.vars) t fault at hfails
  generalize stmt.unwrap u.vars = inner at hfails
  cases hfails with
  | still hother =>
      exact ⟨fun _ => ⟨rfl, rfl, rfl, rfl, rfl⟩, .inl rfl,
        fun prompt names hinput => absurd hinput (hother prompt names)⟩
  | @lost caller outer hcaller hafter =>
      have hdeclared := hcalls caller (List.mem_of_mem_head? (congrArg List.head? hcaller))
      have hlast : IsGreatest s.program.declared caller :=
        ⟨hdeclared, Program.after?_eq_none_iff.mp hafter⟩
      refine ⟨fun _ => ⟨rfl, rfl, rfl, rfl, rfl⟩, .inr ⟨rfl, caller, hcaller, hlast⟩, ?_⟩
      rintro prompt names ⟨⟩
  | @reads prompt names t fault hread =>
      obtain ⟨⟨hsame, hkept⟩, ⟨houtputs, hstreamed⟩, readings, hvars, hwords⟩ :=
        Machine.input_breaksOff hread
      refine ⟨fun hother => absurd rfl (hother prompt names), .inl hkept, ?_⟩
      rintro _ _ ⟨⟩
      exact ⟨⟨hsame, hkept⟩, ⟨houtputs, hstreamed⟩, readings, hvars, hwords⟩

/-- The second variable that is read is the one the loop counts with. -/
def falteringBody : Statement :=
  .if_ ⟨.lt, .var "i", .lit 2⟩ (.if_ ⟨.lt, .lit 0, .var "i"⟩
    (.input (some "x? ") ["a", "i", "c"]))

def faltering : Session :=
  .new ⟨.ofLines [⟨10, .for_ "i" (.lit 1) (.lit 2)⟩, ⟨20, falteringBody⟩, ⟨30, .next "i"⟩], 0, true⟩
    ⟨[Text.Glyph.ofString "7"], some ⟨[⟨Text.Glyph.ofString " ", none⟩,
      ⟨Text.Glyph.ofString "8 x 9", none⟩], .endOfInput, none⟩⟩

def falteringState : State :=
  { vars := ⟨[("i", 1)]⟩, loops := [⟨"i", 10, 1, 2⟩], calls := [], cursor := 20, current := 10,
    steps := 1, input := faltering.input, outputs := [], sent := [] }

/-- The third word is no integer. It has been taken, the fourth one has not. -/
def falteredState : State :=
  { falteringState with
    vars := ⟨[("i", 8), ("a", 7)]⟩, current := 20, steps := 2,
    input := ⟨[Text.Glyph.ofString "9"], some ⟨[], .endOfInput, none⟩⟩,
    sent := [.request ⟨20, "i", "x? "⟩, .request ⟨20, "i", "x? "⟩, .output ⟨"x? ", false⟩] }

theorem fault_leaves_state_faltering :
    faltering.machine.run 1 faltering.initial = .running falteringState ∧
      faltering.machine.exec { falteringState with current := 20, steps := 2 } falteringBody =
        (falteredState, .error (.notInteger (Text.Glyph.ofString "x"))) ∧
      faltering.machine.BreaksOff (some "x? ") ["a", "i", "c"]
        (.notInteger (Text.Glyph.ofString "x")) falteringState falteredState := by
  have hrun : faltering.machine.run 1 faltering.initial = .running falteringState := by
    decide +kernel
  have hexec : faltering.machine.exec { falteringState with current := 20, steps := 2 }
      falteringBody = (falteredState, .error (.notInteger (Text.Glyph.ofString "x"))) := by
    decide +kernel
  have hinput : falteringBody.unwrap falteringState.vars = .input (some "x? ") ["a", "i", "c"] := by
    decide +kernel
  have hleaves := fault_leaves_state faltering hrun hexec
  exact ⟨hrun, hexec, hleaves.breaksOff (some "x? ") ["a", "i", "c"] hinput⟩

end Session

end NumberedBasic
