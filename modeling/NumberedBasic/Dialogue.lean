import NumberedBasic.Session

/-! A run seen from outside as a sequence of events. -/
namespace NumberedBasic.Dialogue

inductive Event where
  | output (out : Output)
  /-- The run waits for an answer. -/
  | prompt (request : Request)
  /-- The last event of every run. -/
  | done (failure : Option Failure)
  deriving DecidableEq, Repr

def Event.ofSignal : Signal → Event
  | .output out => .output out
  | .request r => .prompt r

def Event.isPrompt : Event → Bool
  | .prompt _ => true
  | _ => false

/-- The answer to a prompt. -/
inductive Answer where
  | text (value : String)
  | abort
  deriving DecidableEq, Repr

def aborted : ReadError := .failed "input aborted"

def Answer.reply : Answer → Reply
  | .text value => ⟨Text.Glyph.ofString value, none⟩
  | .abort => ⟨[], some aborted⟩

/-- All events of a run in which the prompts get the given answers, and an abort when there are none
left. A run that takes more steps than given has none. -/
def events (fuel : Nat) (source : String) (steps : Int) (answers : List Answer) :
    Option (List Event) :=
  match Session.ofSource source with
  | .error e => some [.done (some e)]
  | .ok session =>
      let session := ((session.setLimit steps).setStreaming true).setProvider
        (some ⟨answers.map Answer.reply, aborted, none⟩)
      (session.run fuel).map fun (_, report) =>
        report.signals.map Event.ofSignal ++ [.done (report.error.map .faulted)]

/-- The events up to the first prompt behind the given number of them. -/
def uptoPrompt : Nat → List Event → List Event
  | _, [] => []
  | n, e :: rest =>
      if e.isPrompt then
        match n with
        | 0 => [e]
        | n + 1 => e :: uptoPrompt n rest
      else e :: uptoPrompt n rest

/-- The events that a run has sent when only the given answers have arrived. -/
def eventsSoFar (fuel : Nat) (source : String) (steps : Int) (answers : List Answer) :
    Option (List Event) :=
  (events fuel source steps answers).map (uptoPrompt answers.length)

end NumberedBasic.Dialogue
