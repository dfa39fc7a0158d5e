import NumberedBasic.Grammar.Statement
import NumberedBasic.Machine.Run

/-! A program that may be run several times. Everything that a run leaves behind stays until the
next one, which keeps the input and clears all else. -/
namespace NumberedBasic

/-- A machine with the state in which the last run left it. -/
structure Session extends machine : Machine, state : State
  deriving Repr

/-- What one run did. -/
structure Report where
  /-- The collected output. -/
  outputs : List Output
  /-- The signals that went out while the program ran. -/
  signals : List Signal
  error : Option LineFault
  deriving DecidableEq, Repr

namespace Report

def streamed (r : Report) : List Output :=
  r.signals.filterMap fun
    | .output out => some out
    | .request _ => none

def requests (r : Report) : List Request :=
  r.signals.filterMap fun
    | .output _ => none
    | .request request => some request

end Report

/-- Clears what a run leaves behind, but for the input and the place where it stopped. -/
def State.reset (s : State) : State :=
  { s with vars := .empty, loops := [], calls := [], outputs := [], sent := [], steps := 0 }

namespace Session

/-- A session that has not been run. -/
def new (machine : Machine) (input : Input) : Session := ⟨machine, .start input 0⟩

def ofProgram (program : Program) : Except Failure Session :=
  if program.size = 0 then .error .noLines
  else .ok (.new ⟨program, 0, false⟩ .empty)

def ofSource (source : String) : Except Failure Session :=
  match parseProgram source with
  | .ok program => ofProgram program
  | .error e => .error (.malformed e)

/-- A negative limit is none. -/
def setLimit (s : Session) (limit : Int) : Session := { s with limit := limit.toNat }

def setStreaming (s : Session) (streaming : Bool) : Session := { s with streaming }

def setProvider (s : Session) (provider : Option Provider) : Session :=
  { s with input := { s.input with provider } }

def enqueue (s : Session) (text : List Text.Glyph) : Session :=
  { s with input := s.input.enqueue text }

def enqueueAll (s : Session) (texts : List (List Text.Glyph)) : Session := texts.foldl enqueue s

/-- The state in which a run begins. -/
def initial (s : Session) : State :=
  let first := s.program.first?.getD 0
  { s.state.reset with cursor := first, current := first }

/-- Runs the program from its first line, for at most so many steps. A run that takes more has no
report. -/
def run (s : Session) (fuel : Nat) : Option (Session × Report) :=
  match s.machine.run fuel s.initial with
  | .running _ => none
  | .stopped t error =>
      some (⟨s.machine, t⟩, ⟨t.outputs.reverse, t.sent.reverse, error⟩)

/-- Of all that an earlier run has left, a run begins with the input only. -/
theorem initial_eq (s : Session) :
    s.initial = State.start s.input (s.program.first?.getD 0) := rfl

end Session

end NumberedBasic
