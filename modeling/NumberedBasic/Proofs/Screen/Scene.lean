import NumberedBasic.Proofs.Dialogue.Causality
import NumberedBasic.Proofs.Screen.Gist

/-! The screen and the runs that it shows, at work side by side. What the screen asks for is done
later, each thing in its own time, and what comes of it reaches the screen as a message. -/
namespace NumberedBasic
open Dialogue

/-- A run at work. Its events are received in the order in which it has sent them. -/
structure Thread where
  /-- The answers that it has been given, the oldest first. -/
  answers : List Answer
  /-- The events that it has sent, the oldest first. -/
  sent : List Event
  /-- How many of them have been received. -/
  received : Nat
  deriving DecidableEq, Repr

namespace Thread

def new : Thread := ⟨[], [], 0⟩

/-- How many events can wait to be received. -/
def capacity : Nat := 256

/-- The run sends the event that it comes to within so many steps, if there is room. -/
def send? (t : Thread) (fuel : Nat) (source : String) (steps : Int) : Option Thread :=
  if t.sent.length < t.received + capacity then
    (heardSoFar fuel source steps t.answers)[t.sent.length]?.map fun e =>
      { t with sent := t.sent ++ [e] }
  else none

/-- The message that an event makes. A prompt says which prompt of the run it is. -/
def message (run : Nat) (received : List Event) : Event → Screen.Message
  | .output out => .output out
  | .prompt r => .prompt r (.run run (prompts received))
  | .done failure => .done failure

/-- The next event is received. -/
def receive? (t : Thread) (run : Nat) : Option (Thread × Screen.Message) :=
  t.sent[t.received]?.map fun e =>
    ({ t with received := t.received + 1 }, message run (t.sent.take t.received) e)

/-- Nothing is left to receive, and nothing more will be sent. -/
def isSpent (t : Thread) : Bool := t.received == t.sent.length && t.sent.any Event.isDone

/-- Only the first answer to a prompt is taken. -/
def answer (t : Thread) (ordinal : Nat) (answer : Answer) : Thread :=
  if ordinal = t.answers.length then { t with answers := t.answers ++ [answer] } else t

end Thread

/-- Something that the screen has asked for. -/
inductive Errand where
  | start
  /-- Wait for the next event of the run. -/
  | await (run : Nat)
  /-- Nothing is left to do but to tell the screen. -/
  | bring (message : Screen.Message)
  deriving DecidableEq, Repr

structure Scene where
  source : String
  steps : Int
  screen : Screen
  threads : List Thread
  errands : List Errand
  /-- How many runs the screen has asked for. -/
  asked : Nat
  /-- How many ends of runs the screen has been told of. -/
  ended : Nat

/-- How many runs the message says to have ended. -/
def Screen.Message.ends : Screen.Message → Nat
  | .done _ => 1
  | _ => 0

/-- What can happen next. -/
inductive Act where
  | key (key : Key)
  | size (width height : Int64)
  /-- A run sends an event. -/
  | send (run fuel : Nat)
  /-- A run that was asked for is started. -/
  | launch (errand : Nat)
  /-- An event that is waited for is received. -/
  | take (errand : Nat)
  /-- Nothing came for a while. -/
  | lapse (errand : Nat)
  /-- Nothing will come any more. -/
  | close (errand : Nat)
  /-- The screen is told. -/
  | deliver (errand : Nat)
  deriving DecidableEq, Repr

namespace Scene

def perform (s : Scene) : Screen.Effect → Scene
  | .await run => { s with errands := s.errands ++ [.await run] }
  | .start => { s with errands := s.errands ++ [.start], asked := s.asked + 1 }
  | .answer (.run id ordinal) answer =>
      { s with threads := s.threads.modify id (·.answer ordinal answer) }
  | .answer (.direct _) _ => s
  | .quit => s

/-- The screen learns of a message. -/
def tell (s : Scene) (message : Screen.Message) : Scene :=
  { s with screen := (s.screen.update message).1, ended := s.ended + message.ends }

/-- The screen handles a message. What it asks for then is done later. -/
def handle (s : Scene) (message : Screen.Message) : Scene :=
  (s.screen.update message).2.foldl perform (s.tell message)

/-- A screen that knows its size has been told that its first run has started. -/
def opening (source : String) (steps : Int) (path : String) (width height : Int64)
    (style : String → String := Text.block) : Scene :=
  handle ⟨source, steps, ((Screen.new path style).onSize width height).1, [.new], [], 1, 0⟩
    (.started 0)

/-- What an act leads to, if it is possible. -/
def act (s : Scene) : Act → Option Scene
  | .key key => some (s.handle (.key key))
  | .size width height => some (s.handle (.size width height))
  | .send run fuel => do
      let t ← s.threads[run]?
      let t ← t.send? fuel s.source s.steps
      some { s with threads := s.threads.set run t }
  | .launch i =>
      match s.errands[i]? with
      | some .start =>
          some { s with
            threads := s.threads ++ [.new]
            errands := s.errands.set i (.bring (.started s.threads.length)) }
      | _ => none
  | .take i =>
      match s.errands[i]? with
      | some (.await run) => do
          let t ← s.threads[run]?
          let (t, message) ← t.receive? run
          some { s with
            threads := s.threads.set run t
            errands := s.errands.set i (.bring message) }
      | _ => none
  | .lapse i =>
      match s.errands[i]? with
      | some (.await _) => some { s with errands := s.errands.set i (.bring .poll) }
      | _ => none
  | .close i =>
      match s.errands[i]? with
      | some (.await run) => do
          let t ← s.threads[run]?
          if t.isSpent then some { s with errands := s.errands.eraseIdx i } else none
      | _ => none
  | .deliver i =>
      match s.errands[i]? with
      | some (.bring message) => some ({ s with errands := s.errands.eraseIdx i }.handle message)
      | _ => none

theorem handle_eq {s : Scene} {message : Screen.Message} {effects : List Screen.Effect}
    (h : (s.screen.update message).2 = effects) :
    s.handle message = effects.foldl perform (s.tell message) := by
  rw [handle, h]

/-- Everything that can happen to a scene, with what it leads to. -/
inductive Leads (s : Scene) : Act → Scene → Prop
  | key (key : Key) : Leads s (.key key) (s.handle (.key key))
  | size (width height : Int64) : Leads s (.size width height) (s.handle (.size width height))
  | send {run fuel : Nat} {t t' : Thread} : s.threads[run]? = some t →
      t.send? fuel s.source s.steps = some t' →
      Leads s (.send run fuel) { s with threads := s.threads.set run t' }
  | launch {i : Nat} : s.errands[i]? = some .start →
      Leads s (.launch i) { s with
        threads := s.threads ++ [.new]
        errands := s.errands.set i (.bring (.started s.threads.length)) }
  | take {i run : Nat} {t t' : Thread} {message : Screen.Message} :
      s.errands[i]? = some (.await run) → s.threads[run]? = some t →
      t.receive? run = some (t', message) →
      Leads s (.take i) { s with
        threads := s.threads.set run t'
        errands := s.errands.set i (.bring message) }
  | lapse {i run : Nat} : s.errands[i]? = some (.await run) →
      Leads s (.lapse i) { s with errands := s.errands.set i (.bring .poll) }
  | close {i run : Nat} {t : Thread} : s.errands[i]? = some (.await run) →
      s.threads[run]? = some t → t.isSpent = true →
      Leads s (.close i) { s with errands := s.errands.eraseIdx i }
  | deliver {i : Nat} {message : Screen.Message} : s.errands[i]? = some (.bring message) →
      Leads s (.deliver i) ({ s with errands := s.errands.eraseIdx i }.handle message)

theorem leads_of_act {s s' : Scene} {a : Act} (h : s.act a = some s') : Leads s a s' := by
  cases a with
  | key key =>
      cases h
      exact .key key
  | size width height =>
      cases h
      exact .size width height
  | send run fuel =>
      obtain ⟨t, ht, h⟩ := Option.bind_eq_some_iff.mp h
      obtain ⟨t', ht', h⟩ := Option.bind_eq_some_iff.mp h
      cases h
      exact .send ht ht'
  | launch i =>
      rw [act] at h
      split at h
      · rename_i hi
        cases h
        exact .launch hi
      · cases h
  | take i =>
      rw [act] at h
      split at h
      · rename_i run hi
        obtain ⟨t, ht, h⟩ := Option.bind_eq_some_iff.mp h
        obtain ⟨⟨t', message⟩, ht', h⟩ := Option.bind_eq_some_iff.mp h
        cases h
        exact .take hi ht ht'
      · cases h
  | lapse i =>
      rw [act] at h
      split at h
      · rename_i run hi
        cases h
        exact .lapse hi
      · cases h
  | close i =>
      rw [act] at h
      split at h
      · rename_i run hi
        obtain ⟨t, ht, h⟩ := Option.bind_eq_some_iff.mp h
        split at h
        · rename_i hspent
          cases h
          exact .close hi ht hspent
        · cases h
      · cases h
  | deliver i =>
      rw [act] at h
      split at h
      · rename_i message hi
        cases h
        exact .deliver hi
      · cases h

end Scene

end NumberedBasic
