import NumberedBasic.Dialogue
import NumberedBasic.Proofs.Machine.Step

/-! The events of a run as it goes on. A run that is given more time only adds to what it has sent,
and nothing follows the event that reports its end. -/
namespace NumberedBasic
open Dialogue
open Relation (ReflTransGen)

/-- The events that have been sent, the oldest first. -/
def State.events (s : State) : List Event := s.sent.reverse.map Event.ofSignal

namespace Machine

/-- The end of a run is reported behind everything else. -/
def Progress.events : Progress → List Event
  | .running s => s.events
  | .stopped s error => s.events ++ [.done (error.map .faulted)]

variable {m : Machine} {s t : State}

theorem Progress.state_events_le (p : Progress) : p.state.events <+: p.events := by
  cases p with
  | running s => exact List.prefix_rfl
  | stopped s error => exact List.prefix_append _ _

theorem events_emit (m : Machine) (s : State) (out : Output) :
    s.events <+: (m.emit s out).events := by
  unfold emit
  split
  · exact ⟨[.output out], by simp [State.events, Event.ofSignal]⟩
  · exact List.prefix_rfl

theorem events_readInteger (r : Request) (s : State) :
    (readInteger r s).1.events =
      s.events ++ List.replicate (s.input.take s.hasWritten).2.2 (.prompt r) := by
  rw [readInteger_eq]
  simp [State.events, State.portsTaken, Event.ofSignal]

theorem Update.events (h : Update m s t) : s.events <+: t.events := by
  cases h with
  | change c =>
      cases c with
      | emit out => exact events_emit m s out
      | assign name value => exact List.prefix_rfl
      | openLoop name first last => exact List.prefix_rfl
      | closeLoop => exact List.prefix_rfl
      | call => exact List.prefix_rfl
      | leave => exact List.prefix_rfl
  | read r =>
      rw [events_readInteger]
      exact List.prefix_append _ _

theorem updates_events (h : ReflTransGen m.Update s t) : s.events <+: t.events := by
  induction h with
  | refl => exact List.prefix_rfl
  | tail _ hupdate ih => exact ih.trans hupdate.events

theorem proceed_events (m : Machine) (a : Outcome) : (m.proceed a).state.events = a.1.events := by
  obtain ⟨s, a⟩ := a
  cases a with
  | error f => rfl
  | ok flow =>
      cases flow with
      | halt => rfl
      | jump line => rfl
      | next =>
          rw [proceed]
          cases m.program.after? s.current with
          | some line => rfl
          | none => rfl

theorem step_events (m : Machine) (s : State) : s.events <+: (m.step s).state.events := by
  have hfetch := fetches m s
  generalize m.due? s = line at hfetch
  generalize m.step s = p at hfetch
  cases hfetch with
  | astray hfound => exact List.prefix_rfl
  | ended hfound hend => exact List.prefix_rfl
  | cut hfound hend hlimit => exact List.prefix_rfl
  | @due line hfound hend hlimit =>
      have hexec := updates_events
        (exec_updates m { s with current := line.number, steps := s.steps + 1 } line.statement)
      rw [proceed_events]
      exact hexec

theorem run_events (m : Machine) (fuel : Nat) (s : State) :
    s.events <+: (m.run fuel s).state.events := by
  induction fuel generalizing s with
  | zero => exact List.prefix_rfl
  | succ fuel ih =>
      have hstep := step_events m s
      rw [run]
      generalize m.step s = p at hstep
      cases p with
      | running t => exact hstep.trans (ih t)
      | stopped t error => exact hstep

theorem resume_events (m : Machine) (fuel : Nat) (p : Progress) :
    p.events <+: (m.resume fuel p).events := by
  cases p with
  | running s => exact (run_events m fuel s).trans (Progress.state_events_le _)
  | stopped s error => exact List.prefix_rfl

end Machine

namespace Dialogue

/-- How often the events ask for an answer. -/
def prompts (events : List Event) : Nat := events.countP Event.isPrompt

def Event.isDone : Event → Bool
  | .done _ => true
  | _ => false

/-- The session whose prompts get the answers, with an abort behind them. -/
def answering (session : Session) (steps : Int) (answers : List Answer) : Session :=
  ((session.setLimit steps).setStreaming true).setProvider
    (some ⟨answers.map Answer.reply, aborted, none⟩)

/-- The events that a run has sent after at most so many steps. -/
def eventsWithin (fuel : Nat) (source : String) (steps : Int) (answers : List Answer) :
    List Event :=
  match Session.ofSource source with
  | .error e => [.done (some e)]
  | .ok session =>
      let session := answering session steps answers
      (session.machine.run fuel session.initial).events

variable {fuel : Nat} {source : String} {steps : Int} {answers : List Answer} {u v : List Event}
  {k n : Nat}

theorem prompts_append (u v : List Event) : prompts (u ++ v) = prompts u + prompts v :=
  List.countP_append

@[simp] theorem prompts_prompt (r : Request) (u : List Event) :
    prompts (.prompt r :: u) = prompts u + 1 := List.countP_cons_of_pos rfl

@[simp] theorem prompts_output (out : Output) (u : List Event) :
    prompts (.output out :: u) = prompts u := List.countP_cons_of_neg Bool.false_ne_true

@[simp] theorem prompts_done (failure : Option Failure) (u : List Event) :
    prompts (.done failure :: u) = prompts u := List.countP_cons_of_neg Bool.false_ne_true

/-- What a run has sent it has sent for good. -/
theorem eventsWithin_grows (fuel extra : Nat) (source : String) (steps : Int)
    (answers : List Answer) :
    eventsWithin fuel source steps answers <+:
      eventsWithin (fuel + extra) source steps answers := by
  unfold eventsWithin
  cases Session.ofSource source with
  | error e => exact List.prefix_rfl
  | ok session =>
      dsimp only
      rw [Machine.run_add]
      exact Machine.resume_events _ _ _

/-- Where a run comes to its end within so many steps, nothing is missing. -/
theorem eventsWithin_of_events (h : events fuel source steps answers = some u) :
    eventsWithin fuel source steps answers = u := by
  unfold events at h
  unfold eventsWithin
  cases hloaded : Session.ofSource source with
  | error e =>
      rw [hloaded] at h
      cases h
      rfl
  | ok session =>
      rw [hloaded] at h
      obtain ⟨⟨after, report⟩, hrun, rfl⟩ := Option.map_eq_some_iff.mp h
      obtain ⟨t, error, hstopped, -, rfl⟩ := Session.run_eq_some hrun
      have hend : (answering session steps answers).machine.run fuel
          (answering session steps answers).initial = .stopped t error := hstopped
      dsimp only
      rw [hend]
      rfl

theorem isDone_of_mem_events {s : State} {e : Event} (h : e ∈ s.events) : e.isDone = false := by
  obtain ⟨signal, -, rfl⟩ := List.mem_map.mp h
  cases signal <;> rfl

/-- A run that has reported its end is over, and has sent all its events. -/
theorem events_of_isDone {e : Event} (he : e ∈ eventsWithin fuel source steps answers)
    (hdone : e.isDone = true) :
    events fuel source steps answers = some (eventsWithin fuel source steps answers) ∧
      ∃ front failure, eventsWithin fuel source steps answers = front ++ [.done failure] ∧
        ∀ x ∈ front, x.isDone = false := by
  unfold eventsWithin at he ⊢
  unfold events
  generalize Session.ofSource source = loaded at he
  cases loaded with
  | error e => exact ⟨rfl, [], some e, rfl, by simp⟩
  | ok session =>
      dsimp only at he
      change ((answering session steps answers).run fuel).map _ = _ ∧ _
      dsimp only
      cases hrun : (answering session steps answers).machine.run fuel
          (answering session steps answers).initial with
      | running t =>
          rw [hrun] at he
          rw [isDone_of_mem_events he] at hdone
          cases hdone
      | stopped t error =>
          rw [Session.run_of_stopped hrun]
          exact ⟨rfl, t.events, _, rfl, fun x hx => isDone_of_mem_events hx⟩

theorem uptoPrompt_le (k : Nat) (u : List Event) : uptoPrompt k u <+: u := by
  fun_induction uptoPrompt k u with
  | case1 k => exact List.prefix_rfl
  | case2 e u he => exact ⟨u, rfl⟩
  | case3 e u he k ih => exact List.cons_prefix_cons.mpr ⟨rfl, ih⟩
  | case4 k e u he ih => exact List.cons_prefix_cons.mpr ⟨rfl, ih⟩

theorem uptoPrompt_mono (k : Nat) (h : u <+: v) : uptoPrompt k u <+: uptoPrompt k v := by
  obtain ⟨w, rfl⟩ := h
  fun_induction uptoPrompt k u with
  | case1 k => exact List.nil_prefix
  | case2 e u he => simp [uptoPrompt, he]
  | case3 e u he k ih => simpa [uptoPrompt, he] using ih
  | case4 k e u he ih => simpa [uptoPrompt, he] using ih

/-- A cut further on leaves what was cut before. -/
theorem uptoPrompt_uptoPrompt (hkn : k ≤ n) (u : List Event) :
    uptoPrompt n (uptoPrompt k u) = uptoPrompt k u := by
  fun_induction uptoPrompt k u generalizing n with
  | case1 k => simp [uptoPrompt]
  | case2 e u he => cases n <;> simp [uptoPrompt, he]
  | case3 e u he k ih =>
      cases n with
      | zero => cases hkn
      | succ n => simp [uptoPrompt, he, ih (Nat.le_of_succ_le_succ hkn)]
  | case4 k e u he ih => simp [uptoPrompt, he, ih hkn]

/-- The cut comes behind the first prompt that there is no answer to. -/
theorem uptoPrompt_append (u : List Event) (r : Request) (v : List Event) :
    uptoPrompt (prompts u) (u ++ .prompt r :: v) = u ++ [.prompt r] := by
  induction u with
  | nil => rfl
  | cons e u ih =>
      cases he : e.isPrompt with
      | true => simpa [uptoPrompt, prompts, he] using ih
      | false => simpa [uptoPrompt, prompts, he] using ih

/-- Events among which the end of the run is reported are all of its events. -/
theorem eq_of_prefix_of_isDone {e : Event} {failure : Option Failure}
    (h : u <+: v ++ [.done failure]) (he : e ∈ u) (hdone : e.isDone = true)
    (hv : ∀ x ∈ v, x.isDone = false) : u = v ++ [.done failure] := by
  obtain ⟨w, hw⟩ := h
  rcases List.eq_nil_or_concat w with rfl | ⟨w, last, rfl⟩
  · rwa [List.append_nil] at hw
  · rw [List.concat_eq_append, ← List.append_assoc] at hw
    obtain ⟨hfront, -⟩ := List.append_inj' hw rfl
    have hmem : e ∈ v := by
      rw [← hfront]
      exact List.mem_append_left _ he
    rw [hv e hmem] at hdone
    cases hdone

end Dialogue

end NumberedBasic
