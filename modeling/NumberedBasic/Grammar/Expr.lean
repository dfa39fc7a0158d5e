import NumberedBasic.Expr
import NumberedBasic.Grammar.Error

/-! Reading expressions from tokens. -/
namespace NumberedBasic.Grammar

/-- Takes tokens from the front and leaves the rest. -/
abbrev Parser (α : Type) := List Token → Except SyntaxError (α × List Token)

/-- The next token. Behind the last one lies the end of the line. -/
def peek : List Token → Token
  | [] => Token.eol 0 0
  | t :: _ => t

/-- Refuses the next token. One that is itself an error speaks for itself. -/
def refuse {α : Type} (tokens : List Token) (cause : SyntaxCause) : Except SyntaxError α :=
  let t := peek tokens
  .error (SyntaxError.ofToken t (if t.kind = .error then .lexical t.text else cause))

def expect (kind : Kind) : Parser Token := fun tokens =>
  let t := peek tokens
  if t.kind = kind then .ok (t, tokens.tail) else refuse tokens (.expected kind t.kind)

def additive? : Kind → Option Operator
  | .symbol .plus => some .add
  | .symbol .minus => some .sub
  | _ => none

def multiplicative? : Kind → Option Operator
  | .symbol .times => some .mul
  | .symbol .div => some .div
  | _ => none

/-- Extends an expression by operators and operands to its right, grouping to the left. Each
operator takes a token, so a list of all tokens bounds their number. -/
def chainFrom (operator? : Kind → Option Operator) (operand : Parser Expr) :
    List Token → Expr → Parser Expr
  | [], left, tokens => .ok (left, tokens)
  | _ :: bound, left, tokens =>
      match operator? (peek tokens).kind with
      | none => .ok (left, tokens)
      | some op =>
          match operand tokens.tail with
          | .ok (right, rest) =>
              chainFrom operator? operand bound (.binary op left right) rest
          | .error e => .error e

def chain (operator? : Kind → Option Operator) (operand : Parser Expr) : Parser Expr :=
  fun tokens =>
    match operand tokens with
    | .ok (left, rest) => chainFrom operator? operand rest left rest
    | .error e => .error e

/-- Sums of products of operands. -/
def sum (operand : Parser Expr) : Parser Expr :=
  chain additive? (chain multiplicative? operand)

/-- A variable, a number, a sum in parentheses or a negated operand. What stands inside
parentheses or behind a minus sign is read by the given parser. -/
def operand (nested : Parser Expr) : Parser Expr := fun tokens =>
  let t := peek tokens
  match t.kind with
  | .identifier => .ok (.var t.text, tokens.tail)
  | .integer =>
      match Decimal.read? t.text.toList with
      | some n => .ok (.lit (Int64.ofInt n), tokens.tail)
      | none => .error (SyntaxError.ofToken t (.integerRange t.text))
  | .symbol .open_ =>
      match sum nested tokens.tail with
      | .ok (e, rest) => (expect (.symbol .close) rest).map fun (_, rest) => (e, rest)
      | .error e => .error e
  | .symbol .minus =>
      (nested tokens.tail).map fun (e, rest) => (.binary .sub (.lit 0) e, rest)
  | _ => refuse tokens (.noOperand t.text)

/-- Operands nested at most so deep in parentheses and behind minus signs. -/
def nestedOperand : Nat → Parser Expr
  | 0 => operand fun tokens => refuse tokens .tooDeep
  | depth + 1 => operand (nestedOperand depth)

/-- How deep an expression can be nested, the expression itself included. -/
def nestingLimit : Nat := 10000

def expr : Parser Expr := sum (nestedOperand (nestingLimit - 1))

end NumberedBasic.Grammar
