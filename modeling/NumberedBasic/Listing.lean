import NumberedBasic.Program
import NumberedBasic.Text.Utf8

/-! Programs as normalised text. Where all that stands between quotes are characters, reading the
text gives back the same tree. -/
namespace NumberedBasic

def parenthesize (text : String) : String := "(" ++ text ++ ")"

/-- The precedence of the outermost operator, if there is one. -/
def Expr.precedence? : Expr → Option Nat
  | .binary op _ _ => some op.precedence
  | _ => none

/-- Only the parentheses that the shape requires are written. -/
def Expr.format : Expr → String
  | .lit value => Decimal.write value.toInt
  | .var name => name
  | .binary op left right =>
      let l := if left.precedence?.any (· < op.precedence) then parenthesize left.format
        else left.format
      let r := if right.precedence?.any (· ≤ op.precedence) then parenthesize right.format
        else right.format
      l ++ " " ++ op.spelling ++ " " ++ r
  | .missing => "?"

def Condition.format (c : Condition) : String :=
  c.left.format ++ " " ++ c.op.spelling ++ " " ++ c.right.format

/-- What programs are written in: characters, or bytes that need not all belong to characters. -/
class Script (τ : Type) extends Append τ where
  ofString : String → τ
  /-- Puts the first text between the others. -/
  intercalate : τ → List τ → τ
  isEmpty : τ → Bool

instance : Script String := ⟨id, String.intercalate, String.isEmpty⟩

@[simp] theorem Script.ofString_eq (text : String) : (ofString text : String) = text := rfl

@[simp] theorem Script.intercalate_eq (separator : String) (texts : List String) :
    intercalate separator texts = separator.intercalate texts := rfl

@[simp] theorem Script.isEmpty_eq (text : String) : isEmpty text = text.isEmpty := rfl

instance : Script (List UInt8) := ⟨Text.Utf8.encode, List.intercalate, List.isEmpty⟩

section

variable {τ : Type} [Script τ]

open Script (ofString intercalate isEmpty)

def PrintItem.format : PrintItem τ → τ
  | .string text => ofString "\"" ++ text ++ ofString "\""
  | .comma => ofString ","
  | .semicolon => ofString ";"
  | .expr e => ofString e.format
  | .other _ e => ofString e.format

def Statement.format : Statement τ → τ
  | .let_ name value => ofString ("let " ++ name ++ " = " ++ value.format)
  | .print [] => ofString "print"
  | .print items => ofString "print " ++ intercalate (ofString " ") (items.map PrintItem.format)
  | .input none names => ofString ("input " ++ ", ".intercalate names)
  | .input (some prompt) names =>
      ofString "input \"" ++ prompt ++ ofString ("\" " ++ ", ".intercalate names)
  | .for_ name first last =>
      ofString ("for " ++ name ++ " = " ++ first.format ++ " to " ++ last.format)
  | .next name => ofString ("next " ++ name)
  | .if_ c body =>
      let inner := body.format
      if isEmpty inner then ofString ("if " ++ c.format ++ " then")
      else ofString ("if " ++ c.format ++ " then ") ++ inner
  | .goto target => ofString ("goto " ++ Decimal.write target)
  | .gosub target => ofString ("gosub " ++ Decimal.write target)
  | .return_ => ofString "return"
  | .end_ => ofString "end"
  | .empty => ofString ""
  | .missing => ofString "?"

def Line.format (line : Line τ) : τ :=
  let body := line.statement.format
  if isEmpty body then ofString (Decimal.write line.number)
  else ofString (Decimal.write line.number ++ " ") ++ body

end

/-- The whole program in line order, a line to each row. -/
def Program.listing (p : Program) : String :=
  String.join (p.lines.map fun line => line.format ++ "\n")

end NumberedBasic
