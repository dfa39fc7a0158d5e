import NumberedBasic.Proofs.Dialogue.Trace

/-! Answers that have not been given yet do not matter. Until a run asks for more answers than there
are, it does what it would do if more of them followed. -/
namespace NumberedBasic
open Dialogue

/-- The provider has further replies. -/
def Input.extend (i : Input) (more : List Reply) : Input :=
  { i with provider := i.provider.map fun p => { p with replies := p.replies ++ more } }

@[simps] def State.extend (s : State) (more : List Reply) : State :=
  { s with input := s.input.extend more }

theorem Input.askUntilWord_requests_pos (e : ReadError) (replies : List Reply) :
    1 ≤ (askUntilWord e replies).requests := by
  unfold askUntilWord
  split
  · exact Nat.le_refl 1
  · split
    · exact Nat.le_refl 1
    · exact Nat.le_refl 1
    · exact Nat.le_add_left 1 _

/-- Further replies make no difference, unless none of those at hand holds a word. -/
theorem Input.askUntilWord_append (e : ReadError) (replies more : List Reply) :
    (askUntilWord e (replies ++ more) =
        { askUntilWord e replies with replies := (askUntilWord e replies).replies ++ more } ∧
      (askUntilWord e replies).requests + (askUntilWord e replies).replies.length =
        replies.length) ∨
    askUntilWord e replies = ⟨.error e, [], [], replies.length + 1⟩ ∧
      replies.length + 1 ≤ (askUntilWord e (replies ++ more)).requests := by
  induction replies with
  | nil => exact .inr ⟨rfl, askUntilWord_requests_pos e more⟩
  | cons reply replies ih =>
      rw [List.cons_append, askUntilWord, askUntilWord]
      cases Text.fields reply.text with
      | cons word words => exact .inl ⟨rfl, by simp [Nat.add_comm]⟩
      | nil =>
          cases reply.error with
          | some error => exact .inl ⟨rfl, by simp [Nat.add_comm]⟩
          | none =>
              dsimp only
              rcases ih with ⟨hsame, hlength⟩ | ⟨hdry, hasks⟩
              · refine .inl ⟨by rw [hsame], ?_⟩
                rw [List.length_cons, ← hlength]
                omega
              · refine .inr ⟨by rw [hdry]; rfl, ?_⟩
                rw [List.length_cons]
                omega

namespace Machine

/-- As many answers have been asked for or are at hand as there are in all. -/
def Supplied (total : Nat) (s : State) : Prop :=
  ∃ replies, s.input.provider = some ⟨replies, aborted, none⟩ ∧
    prompts s.events + replies.length = total

/-- The last event asks for one answer more than there are. -/
def Dry (total : Nat) (s : State) : Prop :=
  ∃ front r, s.events = front ++ [.prompt r] ∧ prompts front = total

/-- What a run came to, beside the same run with further replies: the same, or a fault where the
first one ran dry. -/
inductive Heeds {α : Type} (total : Nat) (more : List Reply) :
    State × Except Fault α → State × Except Fault α → Prop
  | same {s : State} {a : Except Fault α} : Supplied total s →
      Heeds total more (s, a) (s.extend more, a)
  | dry {s t : State} {fault : Fault} {b : Except Fault α} : Dry total s → s.events <+: t.events →
      Heeds total more (s, .error fault) (t, b)

variable {total : Nat} {more : List Reply} {s t : State} {m : Machine}

theorem take_of_unasked {replies : List Reply} {i : Input} (unwritten : Bool)
    (hqueue : i.queue = []) (hprovider : i.provider = some ⟨replies, aborted, none⟩) :
    i.take unwritten =
      ((Input.askUntilWord aborted replies).word,
        ⟨(Input.askUntilWord aborted replies).queue,
          some ⟨(Input.askUntilWord aborted replies).replies, aborted, none⟩⟩,
        (Input.askUntilWord aborted replies).requests) := by
  simp only [Input.take, hqueue, hprovider]

theorem readInteger_extend {r : Request}
    (h : (s.extend more).input.take (s.extend more).hasWritten =
      ((s.input.take s.hasWritten).1, (s.input.take s.hasWritten).2.1.extend more,
        (s.input.take s.hasWritten).2.2)) :
    readInteger r (s.extend more) = ((readInteger r s).1.extend more, (readInteger r s).2) := by
  rw [readInteger_eq, readInteger_eq]
  simp only [State.portsTaken, h]
  rfl

theorem prompts_replicate (n : Nat) (r : Request) :
    prompts (List.replicate n (.prompt r)) = n := by
  simp [prompts, List.countP_replicate, Event.isPrompt]

theorem supplied_readInteger {replies : List Reply} {r : Request}
    (hprovider : (s.input.take s.hasWritten).2.1.provider = some ⟨replies, aborted, none⟩)
    (htotal : prompts s.events + (s.input.take s.hasWritten).2.2 + replies.length = total) :
    Supplied total (readInteger r s).1 := by
  refine ⟨replies, ?_, ?_⟩
  · rw [readInteger_eq]
    exact hprovider
  · rw [events_readInteger, prompts_append, prompts_replicate]
    exact htotal

theorem readInteger_heeds (h : Supplied total s) (more : List Reply) (r : Request) :
    Heeds total more (readInteger r s) (readInteger r (s.extend more)) := by
  obtain ⟨replies, hprovider, htotal⟩ := h
  have hprovider' : (s.extend more).input.provider = some ⟨replies ++ more, aborted, none⟩ := by
    simp [Input.extend, hprovider]
  cases hqueue : s.input.queue with
  | cons word words =>
      have htake : s.input.take s.hasWritten = (.ok word, { s.input with queue := words }, 0) := by
        simp only [Input.take, hqueue]
      have htake' : (s.extend more).input.take (s.extend more).hasWritten =
          (.ok word, { s.input.extend more with queue := words }, 0) := by
        simp only [Input.take, State.extend_input, Input.extend, hqueue]
      rw [readInteger_extend (by rw [htake, htake']; rfl)]
      have hleft : (s.input.take s.hasWritten).2.1.provider =
          some ⟨replies, aborted, none⟩ := by
        rw [htake]
        exact hprovider
      refine .same (supplied_readInteger hleft ?_)
      rw [htake]
      exact htotal
  | nil =>
      have hqueue' : (s.extend more).input.queue = [] := hqueue
      have htake := take_of_unasked s.hasWritten hqueue hprovider
      have htake' := take_of_unasked (s.extend more).hasWritten hqueue' hprovider'
      rcases Input.askUntilWord_append aborted replies more with ⟨hsame, hlength⟩ | ⟨hdry, hasks⟩
      · rw [hsame] at htake'
        rw [readInteger_extend (by rw [htake, htake']; rfl)]
        refine .same (supplied_readInteger (by rw [htake]) ?_)
        rw [htake]
        dsimp only
        omega
      · -- Every reply was spent on blank lines: the shorter run stops at the unanswered request,
        -- and the longer one repeats that request at least as often.
        have hevents := events_readInteger r s
        have hevents' := events_readInteger r (s.extend more)
        have hfault : (readInteger r s).2 = .error (.reading r.name "input aborted") := by
          rw [readInteger_eq, htake, hdry]
          rfl
        rw [htake, hdry] at hevents
        rw [htake'] at hevents'
        generalize readInteger r s = a at hevents hfault
        generalize readInteger r (s.extend more) = b at hevents'
        obtain ⟨t, a⟩ := a
        obtain ⟨t', b⟩ := b
        cases hfault
        refine .dry ⟨s.events ++ List.replicate replies.length (.prompt r), r, ?_, ?_⟩ ?_
        · rw [hevents, List.replicate_succ', List.append_assoc]
        · rw [prompts_append, prompts_replicate, htotal]
        · obtain ⟨n, hn⟩ := Nat.exists_eq_add_of_le hasks
          have hlonger : t'.events = t.events ++ List.replicate n (.prompt r) := by
            rw [hevents, List.append_assoc, List.replicate_append_replicate, ← hn]
            exact hevents'
          exact ⟨_, hlonger.symm⟩

theorem readAll_heeds (h : Supplied total s) (more : List Reply) (prompt : String)
    (names : List String) :
    Heeds total more (readAll prompt names s) (readAll prompt names (s.extend more)) := by
  induction names generalizing s with
  | nil => exact .same h
  | cons name names ih =>
      have hread : Heeds total more (readInteger ⟨s.current, name, prompt⟩ s)
          (readInteger ⟨s.current, name, prompt⟩ (s.extend more)) := readInteger_heeds h more _
      rw [readAll, readAll, State.extend_current]
      generalize readInteger ⟨s.current, name, prompt⟩ s = a at hread
      generalize readInteger ⟨s.current, name, prompt⟩ (s.extend more) = b at hread
      cases hread with
      | @same s a h =>
          cases a with
          | ok value => exact ih (s := s.assign name value) h
          | error fault => exact .same h
      | @dry s t fault b hdry hsent =>
          cases b with
          | ok value =>
              have hupdates := updates_events
                (readAll_updates ⟨.ofLines [], 0, true⟩ prompt names (t.assign name value))
              exact .dry hdry (hsent.trans hupdates)
          | error fault' => exact .dry hdry hsent

theorem Supplied.emit (h : Supplied total s) (m : Machine) (out : Output) :
    Supplied total (m.emit s out) := by
  obtain ⟨replies, hprovider, htotal⟩ := h
  refine ⟨replies, ?_, ?_⟩
  · unfold Machine.emit
    split <;> exact hprovider
  · rw [← htotal]
    unfold Machine.emit
    split
    · simp [State.events, prompts, Event.ofSignal, Event.isPrompt]
    · rfl

theorem emit_extend (m : Machine) (s : State) (more : List Reply) (out : Output) :
    m.emit (s.extend more) out = (m.emit s out).extend more := by
  unfold emit
  split <;> rfl

theorem jumpAfter_heeds (h : Supplied total s) (more : List Reply) (m : Machine) (number : Int) :
    Heeds total more (m.jumpAfter s number) (m.jumpAfter (s.extend more) number) := by
  unfold jumpAfter
  cases m.program.after? number with
  | some line => exact .same h
  | none => exact .same h

theorem change_extend (m : Machine) (s : State) (more : List Reply) (c : Change) :
    m.change (s.extend more) c = (m.change s c).extend more := by
  cases c with
  | emit out => exact emit_extend m s more out
  | _ => rfl

theorem Supplied.change (h : Supplied total s) (m : Machine) (c : Change) :
    Supplied total (m.change s c) := by
  cases c with
  | emit out => exact h.emit m out
  | _ => exact h

theorem Supplied.changes (h : Supplied total s) (more : List Reply) (m : Machine)
    (changes : List Change) :
    Supplied total (changes.foldl m.change s) ∧
      changes.foldl m.change (s.extend more) = (changes.foldl m.change s).extend more := by
  induction changes generalizing s with
  | nil => exact ⟨h, rfl⟩
  | cons c changes ih =>
      rw [List.foldl_cons, List.foldl_cons, change_extend]
      exact ih (h.change m c)

theorem turn_heeds (h : Supplied total s) (more : List Reply) (m : Machine) (turn : Turn) :
    Heeds total more (m.turn s turn) (m.turn (s.extend more) turn) := by
  cases turn with
  | give result => exact .same h
  | after number => exact jumpAfter_heeds h more m number
  | read prompt names => exact readAll_heeds h more prompt names

/-- Only an INPUT can run dry. -/
theorem exec_heeds (h : Supplied total s) (more : List Reply) (m : Machine) (stmt : Statement) :
    Heeds total more (m.exec s stmt) (m.exec (s.extend more) stmt) := by
  obtain ⟨hsupplied, hextend⟩ := h.changes more m (stmt.deed s.vars s.loops s.calls).changes
  rw [exec_eq_perform, exec_eq_perform, State.extend_vars, State.extend_loops, State.extend_calls,
    perform, perform, hextend]
  exact turn_heeds hsupplied more m _

/-- The same for a run, which may still be going on. -/
inductive Keeps (total : Nat) (more : List Reply) : Progress → Progress → Prop
  | running {s : State} : Supplied total s →
      Keeps total more (.running s) (.running (s.extend more))
  | stopped {s : State} {error : Option LineFault} :
      Keeps total more (.stopped s error) (.stopped (s.extend more) error)
  | dry {s : State} {error : Option LineFault} {p : Progress} : Dry total s →
      s.events <+: p.state.events → Keeps total more (.stopped s error) p

theorem proceed_keeps {a b : Outcome} (h : Heeds total more a b) (m : Machine) :
    Keeps total more (m.proceed a) (m.proceed b) := by
  cases h with
  | @same s a h =>
      cases a with
      | error f => exact .stopped
      | ok flow =>
          cases flow with
          | halt => exact .stopped
          | jump line => exact .running (s := { s with cursor := line }) h
          | next =>
              simp only [proceed, State.extend_current]
              cases m.program.after? s.current with
              | some line => exact .running (s := { s with cursor := line }) h
              | none => exact .stopped
  | dry hdry hsent =>
      refine .dry hdry ?_
      rw [proceed_events]
      exact hsent

theorem step_keeps (h : Supplied total s) (more : List Reply) (m : Machine) :
    Keeps total more (m.step s) (m.step (s.extend more)) := by
  simp only [step, State.extend_cursor, State.extend_steps]
  cases m.program.get? s.cursor with
  | none => exact .stopped
  | some line =>
      dsimp only
      split
      · exact .stopped
      · split
        · exact .stopped (s := { s with current := line.number })
        · exact proceed_keeps
            (exec_heeds (s := { s with current := line.number, steps := s.steps + 1 }) h more m _) m

theorem run_keeps (h : Supplied total s) (more : List Reply) (m : Machine) (fuel : Nat) :
    Keeps total more (m.run fuel s) (m.run fuel (s.extend more)) := by
  induction fuel generalizing s with
  | zero => exact .running h
  | succ fuel ih =>
      have hstep := step_keeps h more m
      rw [run, run]
      generalize m.step s = p at hstep
      generalize m.step (s.extend more) = q at hstep
      cases hstep with
      | running h => exact ih h
      | stopped => exact .stopped
      | @dry s error q hdry hsent =>
          cases q with
          | running t => exact .dry hdry (hsent.trans (run_events m fuel t))
          | stopped t error' => exact .dry hdry hsent

end Machine

namespace Dialogue

/-- The events that a run can have sent after so many steps when only the given answers have
arrived. -/
def heardSoFar (fuel : Nat) (source : String) (steps : Int) (answers : List Answer) : List Event :=
  uptoPrompt answers.length (eventsWithin fuel source steps answers)

/-- For a run that comes to an end when its last prompt is aborted, these are the events that it has
sent when the answers have arrived. -/
theorem heardSoFar_of_eventsSoFar {fuel : Nat} {source : String} {steps : Int}
    {answers : List Answer} {u : List Event} (h : eventsSoFar fuel source steps answers = some u) :
    heardSoFar fuel source steps answers = u := by
  obtain ⟨all, hall, rfl⟩ := Option.map_eq_some_iff.mp h
  rw [heardSoFar, eventsWithin_of_events hall]

/-- Until it waits for an answer that has not arrived, a run does not depend on it. -/
theorem heardSoFar_le_eventsWithin (fuel : Nat) (source : String) (steps : Int)
    (answers more : List Answer) :
    heardSoFar fuel source steps answers <+: eventsWithin fuel source steps (answers ++ more) := by
  unfold heardSoFar eventsWithin
  cases Session.ofSource source with
  | error e => exact uptoPrompt_le _ _
  | ok session =>
      dsimp only
      have hsupplied : Machine.Supplied answers.length (answering session steps answers).initial :=
        ⟨answers.map Answer.reply, rfl,
          by simp [prompts, State.events, Session.initial_eq, State.start]⟩
      have hextend : (answering session steps answers).initial.extend (more.map Answer.reply) =
          (answering session steps (answers ++ more)).initial := by
        simp [answering, Session.initial_eq, Session.setProvider, State.start, State.extend,
          Input.extend, Session.setLimit, Session.setStreaming]
      have hkeeps := Machine.run_keeps hsupplied (more.map Answer.reply)
        (answering session steps answers).machine fuel
      rw [hextend] at hkeeps
      change uptoPrompt _ _ <+: ((answering session steps answers).machine.run fuel
        (answering session steps (answers ++ more)).initial).events
      generalize (answering session steps answers).machine.run fuel
        (answering session steps answers).initial = p at hkeeps
      generalize (answering session steps answers).machine.run fuel
        (answering session steps (answers ++ more)).initial = q at hkeeps
      cases hkeeps with
      | running h => exact uptoPrompt_le _ _
      | stopped => exact uptoPrompt_le _ _
      | @dry t error q hdry hsent =>
          obtain ⟨front, r, hevents, htotal⟩ := hdry
          have hcut : uptoPrompt answers.length (Machine.Progress.stopped t error).events =
              t.events := by
            rw [Machine.Progress.events, hevents, List.append_assoc, ← htotal]
            exact uptoPrompt_append front r _
          rw [hcut]
          exact hsent.trans (Machine.Progress.state_events_le q)

/-- More steps and more answers only add to what has been sent. -/
theorem heardSoFar_grows (fuel extra : Nat) (source : String) (steps : Int)
    (answers more : List Answer) :
    heardSoFar fuel source steps answers <+:
      heardSoFar (fuel + extra) source steps (answers ++ more) := by
  have hmore := heardSoFar_le_eventsWithin fuel source steps answers more
  have hextra := eventsWithin_grows fuel extra source steps (answers ++ more)
  have hlength : answers.length ≤ (answers ++ more).length := by simp
  have hcut := uptoPrompt_mono (answers ++ more).length (hmore.trans hextra)
  unfold heardSoFar at hcut ⊢
  rw [uptoPrompt_uptoPrompt hlength] at hcut
  exact hcut

end Dialogue

end NumberedBasic
