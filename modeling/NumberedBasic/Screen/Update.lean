import NumberedBasic.Screen.Model

/-! How the screen answers messages. -/
namespace NumberedBasic.Screen

inductive Message where
  | size (width height : Int64)
  | started (run : Nat)
  | output (out : Output)
  | prompt (request : Request) (channel : Channel)
  | poll
  | done (failure : Option Failure)
  | key (key : Key)
  deriving DecidableEq, Repr

/-- What the screen asks the outside world to do. -/
inductive Effect where
  /-- Wait for the next event of a run. -/
  | await (run : Nat)
  /-- Start a run. -/
  | start
  | answer (channel : Channel) (answer : Dialogue.Answer)
  | quit
  deriving DecidableEq, Repr

abbrev Result := Screen × List Effect

/-- Nothing is awaited before the first run has started. -/
def awaiting (s : Screen) : List Effect := s.source.toList.map .await

def runningStatus (s : Screen) : String := "running " ++ s.path

def onSize (s : Screen) (width height : Int64) : Result :=
  let s := { s with width, height, field := { s.field with width := width - 4 } }
  ({ s.resize with ready := true }, [])

def onStarted (s : Screen) (run : Nat) : Result :=
  let s := { s with source := some run, running := true, status := s.runningStatus }
  (s, s.awaiting)

def onOutput (s : Screen) (out : Output) : Result :=
  (s.append out, s.awaiting)

def onPrompt (s : Screen) (request : Request) (channel : Channel) : Result :=
  let field := { s.field.clear with placeholder := request.name, focused := true }
  let status := "line " ++ Decimal.write request.line ++ ": input " ++ request.name
  ({ s with pending := some ⟨request, channel⟩, field, status }.resize, [])

def onPoll (s : Screen) : Result :=
  (s, if s.running && s.pending.isNone then s.awaiting else [])

def onDone (s : Screen) (failure : Option Failure) : Result :=
  let s := { s with running := false, done := true, failure, pending := none }.blur.resize
  match failure with
  | some e =>
      let row := ⟨s.errorStyle e.message, true⟩
      ({ s with status := "failed (r: restart, q: quit)" }.append row, [])
  | none => ({ s with status := "done (r: restart, q: quit)" }, [])

/-- Sends the answer that was typed and echoes it behind the prompt. -/
def onEnter (s : Screen) (pending : Pending) : Result :=
  let value := String.ofList (Text.trim Text.isSpace s.field.value)
  let s := { s.append ⟨value, true⟩ with pending := none }
  let s := { s.blur.clearField.resize with status := s.runningStatus }
  (s, .answer pending.channel (.text value) :: s.awaiting)

/-- While a run is going on it can be neither left nor restarted. -/
def onCommand (s : Screen) (key : Key) : Result :=
  match key.name with
  | "q" => (s, if s.running then [] else [.quit])
  | "r" => if s.running then (s, []) else ({ s.restart with status := "restarting" }, [.start])
  | "g" | "home" => ({ s with viewport := s.viewport.toTop }, [])
  | "G" | "end" => ({ s with viewport := s.viewport.toBottom }, [])
  | name => ({ s with viewport := s.viewport.press name }, [])

/-- Keys go to the field while a prompt is pending. Here `ctrl+c` and `enter` are the keys that were
pressed, with Alt or without, and never characters that spell them; every other name is taken as it
is written. -/
def onKey (s : Screen) (key : Key) : Result :=
  match key.name, s.pending with
  | "ctrl+c", pending =>
      (s, (pending.toList.map fun p => .answer p.channel .abort) ++ [.quit])
  | "enter", some pending => s.onEnter pending
  | _, some _ => ({ s with field := s.field.press key }, [])
  | _, none => s.onCommand key

def update (s : Screen) : Message → Result
  | .size width height => s.onSize width height
  | .started run => s.onStarted run
  | .output out => s.onOutput out
  | .prompt request channel => s.onPrompt request channel
  | .poll => s.onPoll
  | .done failure => s.onDone failure
  | .key key => s.onKey key

end NumberedBasic.Screen
