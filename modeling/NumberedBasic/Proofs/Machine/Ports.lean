import Mathlib.Tactic.Simps.Basic
import NumberedBasic.Session

/-! What a state holds of the outside world. A statement reaches it by emitting a record or by
reading an integer and in no other way, and neither of them touches the rest of the state. -/
namespace NumberedBasic

/-- What a state holds of the outside world. -/
structure Ports where
  input : Input
  outputs : List Output
  sent : List Signal

namespace State

def ports (s : State) : Ports := ⟨s.input, s.outputs, s.sent⟩

@[simps] def withPorts (s : State) (p : Ports) : State :=
  { s with input := p.input, outputs := p.outputs, sent := p.sent }

def portsTaken (s : State) (r : Request) : Ports :=
  ⟨(s.input.take s.hasWritten).2.1, s.outputs,
    List.replicate (s.input.take s.hasWritten).2.2 (.request r) ++ s.sent⟩

end State

namespace Machine

theorem emit_eq_withPorts (m : Machine) (s : State) (out : Output) :
    m.emit s out = s.withPorts (m.emit s out).ports := by
  unfold emit
  split <;> rfl

/-- What an INPUT makes of the word that it was given. -/
def accept (r : Request) : Except ReadError Word → Except Fault Int64
  | .error .endOfInput => .error .endOfInput
  | .error (.failed reason) => .error (.reading r.name reason)
  | .ok word =>
      match Word.toInt? word with
      | some value => .ok value
      | none => .error (.notInteger word)

theorem readInteger_eq (r : Request) (s : State) :
    readInteger r s =
      (s.withPorts (s.portsTaken r), accept r (s.input.take s.hasWritten).1) := by
  unfold readInteger
  dsimp only
  cases (s.input.take s.hasWritten).1 with
  | error e => cases e <;> rfl
  | ok word =>
      dsimp only [accept]
      cases Word.toInt? word <;> rfl

end Machine

end NumberedBasic
