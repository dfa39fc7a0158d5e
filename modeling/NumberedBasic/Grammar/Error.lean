import NumberedBasic.Token

/-! What can be wrong with a line, and where. -/
namespace NumberedBasic

inductive SyntaxCause where
  /-- The text cannot be cut into tokens here; the words are the token's own. -/
  | lexical (text : String)
  | noLineNumber
  | lineNumberRange (numeral : String)
  | expected (wanted seen : Kind)
  | noKeyword (seen : String)
  | noRelation (seen : String)
  | noOperand (seen : String)
  | integerRange (numeral : String)
  | tooDeep
  deriving DecidableEq, Repr

def SyntaxCause.message : SyntaxCause → String
  | .lexical text => text
  | .noLineNumber => "line must start with a line number"
  | .lineNumberRange numeral => "line number " ++ numeral ++ " is out of range"
  | .expected wanted seen => "expected " ++ wanted.name ++ " but saw " ++ seen.name
  | .noKeyword seen => "expected a keyword (let, print, ...) but saw " ++ seen
  | .noRelation seen => "expected '<', '=' or '>', but saw " ++ seen
  | .noOperand seen => "expected variable, integer, '(' or '-', but saw " ++ seen
  | .integerRange numeral => "integer literal " ++ numeral ++ " is out of range"
  | .tooDeep => "expression nesting too deep"

structure SyntaxError where
  line : Int
  column : Int
  cause : SyntaxCause
  deriving DecidableEq, Repr

namespace SyntaxError

def message (e : SyntaxError) : String :=
  "[" ++ Decimal.write e.line ++ ":" ++ Decimal.write e.column ++ "] syntax error: "
    ++ e.cause.message

/-- The error of a token, reported where the token begins. -/
def ofToken (t : Token) (cause : SyntaxCause) : SyntaxError := ⟨t.line, t.column, cause⟩

end SyntaxError

end NumberedBasic
