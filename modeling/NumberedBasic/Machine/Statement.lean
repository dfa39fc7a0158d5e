import NumberedBasic.Expr.Eval
import NumberedBasic.Machine.State

/-! Carrying out one statement. -/
namespace NumberedBasic.Machine

/-- Where a program goes on after a statement. -/
inductive Flow where
  | next
  | jump (line : Int)
  | halt
  deriving DecidableEq, Repr

/-- The state after a statement, also after one that failed. -/
abbrev Outcome := State × Except Fault Flow

def emit (m : Machine) (s : State) (out : Output) : State :=
  if m.streaming then { s with sent := .output out :: s.sent }
  else { s with outputs := out :: s.outputs }

/-- The text of a PRINT. A comma is a tab. -/
def printText (vars : Store) : List PrintItem → Except Fault String
  | [] => .ok ""
  | item :: rest => do
      let text ← match item with
        | .string text => .ok text
        | .comma => .ok "\t"
        | .semicolon => .ok ""
        | .expr e => (e.eval vars).map fun value => Decimal.write value.toInt
        | .other code _ => .error (.unknownItem code)
      let more ← printText vars rest
      .ok (text ++ more)

/-- Reads the integer that an INPUT waits for. -/
def readInteger (r : Request) (s : State) : State × Except Fault Int64 :=
  let (word, input, requests) := s.input.take s.hasWritten
  let s := { s with input, sent := List.replicate requests (.request r) ++ s.sent }
  match word with
  | .error .endOfInput => (s, .error .endOfInput)
  | .error (.failed reason) => (s, .error (.reading r.name reason))
  | .ok word =>
      match Word.toInt? word with
      | some value => (s, .ok value)
      | none => (s, .error (.notInteger word))

/-- Reads the variables of an INPUT one after the other. Those read before a fault keep their
values. -/
def readAll (prompt : String) : List String → State → Outcome
  | [], s => (s, .ok .next)
  | name :: rest, s =>
      match readInteger ⟨s.current, name, prompt⟩ s with
      | (s, .ok value) => readAll prompt rest (s.assign name value)
      | (s, .error f) => (s, .error f)

def jumpAfter (m : Machine) (s : State) (number : Int) : Outcome :=
  match m.program.after? number with
  | some line => (s, .ok (.jump line))
  | none => (s, .error (.noLineAfter number))

/-- Closes or repeats the innermost loop. The counter is compared before it is raised. -/
def closeLoop (m : Machine) (s : State) (name : String) : Outcome :=
  match s.loops with
  | [] => (s, .error .forNesting)
  | loop :: outer =>
      if loop.name = name then
        match s.vars.get? loop.name with
        | none => (s, .error (.undefined loop.name))
        | some counter =>
            if loop.last ≤ counter then ({ s with loops := outer }, .ok .next)
            else jumpAfter m (s.assign loop.name (counter + 1)) loop.line
      else (s, .error .forNesting)

def exec (m : Machine) (s : State) : Statement → Outcome
  | .let_ name value =>
      match value.eval s.vars with
      | .ok v => (s.assign name v, .ok .next)
      | .error f => (s, .error f)
  | .print items =>
      match printText s.vars items with
      | .ok text => (m.emit s ⟨text, true⟩, .ok .next)
      | .error f => (s, .error f)
  | .input none names => readAll "" names s
  | .input (some prompt) names => readAll prompt names (m.emit s ⟨prompt, false⟩)
  | .for_ name first last =>
      match first.eval s.vars with
      | .error f => (s, .error f)
      | .ok a =>
          match last.eval s.vars with
          | .error f => (s, .error f)
          | .ok b =>
              ({ s.assign name a with loops := ⟨name, s.current, a, b⟩ :: s.loops }, .ok .next)
  | .next name => m.closeLoop s name
  | .if_ c body =>
      match c.eval s.vars with
      | .ok true => m.exec s body
      | .ok false => (s, .ok .next)
      | .error f => (s, .error f)
  | .goto target => (s, .ok (.jump target))
  | .gosub target => ({ s with calls := s.current :: s.calls }, .ok (.jump target))
  | .return_ =>
      match s.calls with
      | [] => (s, .error .noGosub)
      | caller :: outer => m.jumpAfter { s with calls := outer } caller
  | .end_ => (s, .ok .halt)
  | .empty => (s, .ok .next)
  | .missing => (s, .error .missingStatement)

end NumberedBasic.Machine
