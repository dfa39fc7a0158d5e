import NumberedBasic.Text.Letter

/-! Signed decimal numerals of 64-bit integers. -/
namespace NumberedBasic.Decimal
open NumberedBasic.Text (isAsciiDigit)

/-- The value of digits that follow a number already read. -/
def digitsValue (acc : Nat) (digits : List Char) : Nat :=
  digits.foldl (fun n c => n * 10 + (c.toNat - '0'.toNat)) acc

def readDigits? (cs : List Char) : Option Nat :=
  if !cs.isEmpty && cs.all isAsciiDigit then some (digitsValue 0 cs) else none

/-- The signed 64-bit integers. -/
def InRange (n : Int) : Prop := -9223372036854775808 ≤ n ∧ n ≤ 9223372036854775807

instance (n : Int) : Decidable (InRange n) := inferInstanceAs (Decidable (_ ∧ _))

/-- Digits behind an optional sign. -/
def readSigned? : List Char → Option Int
  | '+' :: rest => (readDigits? rest).map Int.ofNat
  | '-' :: rest => (readDigits? rest).map fun n => -Int.ofNat n
  | cs => (readDigits? cs).map Int.ofNat

/-- A numeral that denotes a signed 64-bit integer. -/
def read? (cs : List Char) : Option Int :=
  (readSigned? cs).filter fun n => decide (InRange n)

/-- The shortest numeral: no plus sign and no zero in front. -/
def write : Int → String
  | .ofNat n => n.repr
  | .negSucc n => "-" ++ (n + 1).repr

end NumberedBasic.Decimal
