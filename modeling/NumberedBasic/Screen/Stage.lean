import NumberedBasic.Screen.Update

/-! A screen together with the run that it shows. The run is known by its answers so far: they
determine the events it has sent. -/
namespace NumberedBasic

structure Stage where
  source : String
  steps : Int
  screen : Screen
  /-- How many runs have been started; the last one is shown. -/
  runs : Nat
  /-- The answers that the shown run has taken, the oldest first. -/
  answers : List Dialogue.Answer
  /-- How many events of the shown run have been delivered. -/
  delivered : Nat
  /-- How many prompts of the shown run have been delivered. -/
  prompted : Nat
  /-- How many prompts were sent by hand. -/
  direct : Nat
  /-- The answer to the last of them. There is room for one. -/
  slot : Option Dialogue.Answer

namespace Stage

def new (source : String) (steps : Int) (path : String) : Stage :=
  { source, steps, screen := Screen.new path, runs := 0, answers := [], delivered := 0,
    prompted := 0, direct := 0, slot := none }

/-- Only the first answer to a prompt is taken, and an answer that nobody waits for is dropped. -/
def takeAnswer (t : Stage) (channel : Channel) (answer : Dialogue.Answer) : Stage :=
  match channel with
  | .run id ordinal =>
      if id + 1 = t.runs ∧ ordinal = t.answers.length then
        { t with answers := t.answers ++ [answer] }
      else t
  | .direct id =>
      if id + 1 = t.direct ∧ t.slot.isNone then { t with slot := some answer } else t

def perform (t : Stage) : Screen.Effect → Stage
  | .answer channel answer => t.takeAnswer channel answer
  | _ => t

/-- Lets the screen handle a message. The flag says whether it asks to quit. -/
def send (t : Stage) (message : Screen.Message) : Stage × Bool :=
  let (screen, effects) := t.screen.update message
  (effects.foldl perform { t with screen }, effects.contains .quit)

/-- Starts a run and tells the screen. -/
def start (t : Stage) : Stage × Bool :=
  { t with runs := t.runs + 1, answers := [], delivered := 0, prompted := 0 }.send (.started t.runs)

/-- Sends a prompt by hand. -/
def prompt (t : Stage) (request : Request) : Stage × Bool :=
  { t with direct := t.direct + 1, slot := none }.send (.prompt request (.direct t.direct))

/-- Takes the answer to the last prompt sent by hand. -/
def takeReply (t : Stage) : Stage × Option Dialogue.Answer := ({ t with slot := none }, t.slot)

def deliver (t : Stage) : Dialogue.Event → Stage
  | .output out => ({ t with delivered := t.delivered + 1 }.send (.output out)).1
  | .prompt request =>
      ({ t with delivered := t.delivered + 1, prompted := t.prompted + 1 }.send
        (.prompt request (.run (t.runs - 1) t.prompted))).1
  | .done failure => ({ t with delivered := t.delivered + 1 }.send (.done failure)).1

/-- Delivers an output that another output follows: the screen need not show it yet. -/
def deliverUnseen (t : Stage) (out : Output) : Stage :=
  { t with delivered := t.delivered + 1, screen := t.screen.write out }

/-- Delivers events until a prompt is pending. -/
def deliverAll : Stage → List Dialogue.Event → Stage
  | t, [] => t
  | t, event :: rest =>
      if t.screen.pending.isSome then t
      else match event, rest with
        | .output out, .output next :: more =>
            deliverAll (t.deliverUnseen out) (.output next :: more)
        | event, rest => deliverAll (t.deliver event) rest

/-- Delivers the events that the shown run has sent. -/
def pump (t : Stage) (fuel : Nat) : Stage :=
  if t.runs = 0 then t
  else match Dialogue.eventsSoFar fuel t.source t.steps t.answers with
    | some events => t.deliverAll (events.drop t.delivered)
    | none => t

end Stage

end NumberedBasic
