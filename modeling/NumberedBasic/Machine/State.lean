import NumberedBasic.Input
import NumberedBasic.Program
import NumberedBasic.Store

/-! What a running program consists of. -/
namespace NumberedBasic

structure Output where
  text : String
  newline : Bool
  deriving DecidableEq, Repr

/-- The characters that an output record puts on a page. -/
def Output.render (out : Output) : String := if out.newline then out.text ++ "\n" else out.text

/-- The variable that an INPUT waits for. -/
structure Request where
  line : Int
  name : String
  prompt : String
  deriving DecidableEq, Repr

/-- What the outside world sees while a program runs. -/
inductive Signal where
  | output (out : Output)
  | request (r : Request)
  deriving DecidableEq, Repr

/-- A FOR that has not been closed. Its bounds were fixed when it ran. -/
structure Loop where
  name : String
  line : Int
  first : Int64
  last : Int64
  deriving DecidableEq, Repr

/-- What stays the same throughout a run. -/
structure Machine where
  program : Program
  /-- How many statements may be carried out; zero stands for any number. -/
  limit : Nat
  /-- Whether output goes out at once rather than being collected. -/
  streaming : Bool
  deriving Repr

structure State where
  vars : Store
  /-- Open loops, the innermost first. -/
  loops : List Loop
  /-- The lines of open GOSUBs, the innermost first. -/
  calls : List Int
  /-- The line to be carried out next. -/
  cursor : Int
  /-- The line carried out last. -/
  current : Int
  /-- How many statements have been carried out. -/
  steps : Nat
  input : Input
  /-- Collected output, the newest first. -/
  outputs : List Output
  /-- Signals to the outside world, the newest first. -/
  sent : List Signal
  deriving DecidableEq, Repr

namespace State

/-- The state in which a program begins at the given line. -/
def start (input : Input) (first : Int) : State :=
  { vars := .empty, loops := [], calls := [], cursor := first, current := first, steps := 0,
    input, outputs := [], sent := [] }

def assign (s : State) (name : String) (value : Int64) : State :=
  { s with vars := s.vars.set name value }

/-- Whether output went out that leaves a mark on the page. -/
def hasWritten (s : State) : Bool :=
  s.sent.any fun
    | .output out => !out.render.isEmpty
    | .request _ => false

end State

end NumberedBasic
