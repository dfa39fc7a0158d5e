import NumberedBasic.Grammar.Error
import NumberedBasic.Statement

/-! What can go wrong with a program. -/
namespace NumberedBasic

/-- Why a statement could not be carried out. -/
inductive Fault where
  | noSuchLine (number : Int)
  | stepLimit (limit : Nat)
  | noLineAfter (number : Int)
  | undefined (name : String)
  | divisionByZero
  | notArithmetic (op : Operator)
  | notRelational (op : Operator)
  | forNesting
  | noGosub
  | endOfInput
  | reading (name reason : String)
  | notInteger (word : List Text.Glyph)
  | missingExpression
  | missingStatement
  | unknownItem (code : Int)
  deriving DecidableEq, Repr

def Fault.message : Fault → String
  | .noSuchLine number => "line " ++ Decimal.write number ++ " does not exist"
  | .stepLimit limit => "step limit of " ++ Decimal.write limit ++ " exceeded"
  | .noLineAfter number => "no line after " ++ Decimal.write number
  | .undefined name => "name '" ++ name ++ "' is not defined"
  | .divisionByZero => "division by zero"
  | .notArithmetic op => "unsupported arithmetic operator " ++ op.spelling
  | .notRelational op => "unsupported relational operator " ++ op.spelling
  | .forNesting => "incorrect nesting of FORs"
  | .noGosub => "return has no matching gosub"
  | .endOfInput => "unexpected end of input"
  | .reading name reason => "reading " ++ name ++ ": " ++ reason
  | .notInteger word => "expected integer input but got " ++ Text.Quoted.glyphs word
  | .missingExpression => "unsupported expression <nil>"
  | .missingStatement => "unsupported statement <nil>"
  | .unknownItem code => "unsupported print item " ++ Decimal.write code

/-- A fault and the number of the line that was running. -/
structure LineFault where
  line : Int
  fault : Fault
  deriving DecidableEq, Repr

def LineFault.message (e : LineFault) : String :=
  "error on line " ++ Decimal.write e.line ++ ": " ++ e.fault.message

/-- Why a program did not run to its end. -/
inductive Failure where
  | malformed (e : SyntaxError)
  | noLines
  | faulted (e : LineFault)
  /-- A failure that the outside world reports in its own words. -/
  | reported (text : String)
  deriving DecidableEq, Repr

def Failure.message : Failure → String
  | .malformed e => e.message
  | .noLines => "program has no lines"
  | .faulted e => e.message
  | .reported text => text

end NumberedBasic
