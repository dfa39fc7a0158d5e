import NumberedBasic.Fault
import NumberedBasic.Store

/-! The values of expressions. Arithmetic wraps around at 64 bits and division goes toward zero. -/
namespace NumberedBasic

def Operator.apply : Operator → Int64 → Int64 → Except Fault Int64
  | .add, a, b => .ok (a + b)
  | .sub, a, b => .ok (a - b)
  | .mul, a, b => .ok (a * b)
  | .div, a, b => if b = 0 then .error .divisionByZero else .ok (a / b)
  | op, _, _ => .error (.notArithmetic op)

def Operator.compare : Operator → Int64 → Int64 → Except Fault Bool
  | .lt, a, b => .ok (a < b)
  | .eq, a, b => .ok (a == b)
  | .gt, a, b => .ok (b < a)
  | op, _, _ => .error (.notRelational op)

/-- The left operand is evaluated before the right one. -/
def Expr.eval (vars : Store) : Expr → Except Fault Int64
  | .lit value => .ok value
  | .var name =>
      match vars.get? name with
      | some value => .ok value
      | none => .error (.undefined name)
  | .binary op left right =>
      match left.eval vars with
      | .error f => .error f
      | .ok a =>
          match right.eval vars with
          | .error f => .error f
          | .ok b => op.apply a b
  | .missing => .error .missingExpression

/-- An operator that does not compare is refused before the operands are looked at. -/
def Condition.eval (vars : Store) (c : Condition) : Except Fault Bool :=
  if c.op.isRelational then do
    let a ← c.left.eval vars
    let b ← c.right.eval vars
    c.op.compare a b
  else .error (.notRelational c.op)

end NumberedBasic
