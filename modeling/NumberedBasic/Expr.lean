import NumberedBasic.Token

/-! Expressions: integers, variables and the four operations. -/
namespace NumberedBasic

inductive Operator where
  | add | sub | mul | div | lt | eq | gt
  /-- An operator that no text gives. -/
  | other (code : Int)
  deriving DecidableEq, Repr

namespace Operator

/-- The operators that texts give; an operator's place is its code. -/
def listed : List Operator := [.add, .sub, .mul, .div, .lt, .eq, .gt]

def spelling : Operator → String
  | .add => "+"
  | .sub => "-"
  | .mul => "*"
  | .div => "/"
  | .lt => "<"
  | .eq => "="
  | .gt => ">"
  | .other _ => "?"

def code : Operator → Int
  | .add => 0
  | .sub => 1
  | .mul => 2
  | .div => 3
  | .lt => 4
  | .eq => 5
  | .gt => 6
  | .other code => code

def ofCode : Int → Operator
  | .ofNat n => (listed[n]?).getD (.other n)
  | .negSucc n => .other (.negSucc n)

def ofSpelling? (text : String) : Option Operator := listed.find? fun op => op.spelling == text

/-- Whether the operator compares rather than computes. -/
def isRelational : Operator → Bool
  | .lt | .eq | .gt => true
  | _ => false

/-- Operators of higher precedence bind tighter. -/
def precedence : Operator → Nat
  | .mul | .div => 2
  | .add | .sub => 1
  | _ => 0

end Operator

inductive Expr where
  | lit (value : Int64)
  | var (name : String)
  | binary (op : Operator) (left right : Expr)
  /-- The place of an expression that is not there. -/
  | missing
  deriving DecidableEq, Inhabited, Repr

/-- The test of an IF. -/
structure Condition where
  op : Operator
  left : Expr
  right : Expr
  deriving DecidableEq, Repr

end NumberedBasic
