import NumberedBasic.Decimal

/-! Numerals that name their base: 0b, 0o or 0x in front, or a plain zero for base eight. Single
underscores may stand between digits. -/
namespace NumberedBasic.Numeral

inductive Error where
  | malformed
  | outOfRange
  deriving DecidableEq, Repr

def digitValue? (c : Char) : Option Nat :=
  if '0' ≤ c && c ≤ '9' then some (c.toNat - '0'.toNat)
  else if 'a' ≤ c && c ≤ 'z' then some (c.toNat - 'a'.toNat + 10)
  else if 'A' ≤ c && c ≤ 'Z' then some (c.toNat - 'A'.toNat + 10)
  else none

/-- Digits behind a number already read, underscores passed over. A value above 64 bits is refused
where it arises, so before any bad digit further on. -/
def digitsFrom (base : Nat) : Nat → List Char → Except Error Nat
  | n, [] => .ok n
  | n, c :: rest =>
      if c == '_' then digitsFrom base n rest
      else match digitValue? c with
        | none => .error .malformed
        | some d =>
            if base ≤ d then .error .malformed
            else if 18446744073709551615 < n * base + d then .error .outOfRange
            else digitsFrom base (n * base + d) rest

def inBase (base : Nat) (cs : List Char) : Except Error Nat :=
  if cs.isEmpty then .error .malformed else digitsFrom base 0 cs

def baseOfLetter? : Char → Option Nat
  | 'b' | 'B' => some 2
  | 'o' | 'O' => some 8
  | 'x' | 'X' => some 16
  | _ => none

/-- The base of a numeral and the digits that count. -/
def splitBase : List Char → Nat × List Char
  | '0' :: letter :: d :: rest =>
      match baseOfLetter? letter with
      | some base => (base, d :: rest)
      | none => (8, letter :: d :: rest)
  | '0' :: rest => (8, rest)
  | cs => (10, cs)

/-- Whether a digit stands on both sides of each underscore. The flag says whether one stands in
front. -/
def separated (isDigit : Char → Bool) : Bool → List Char → Bool
  | _, [] => true
  | afterDigit, c :: rest =>
      if c == '_' then afterDigit && rest.head?.any isDigit && separated isDigit false rest
      else separated isDigit (isDigit c) rest

/-- The letter of a base counts as a digit that an underscore may follow. -/
def wellSeparated (cs : List Char) : Bool :=
  let isDigit := fun c => (digitValue? c).isSome
  match cs with
  | '0' :: letter :: rest =>
      if (baseOfLetter? letter).isSome then separated isDigit true rest
      else separated isDigit false cs
  | _ => separated isDigit false cs

def unsigned (cs : List Char) : Except Error Nat :=
  if cs.isEmpty then .error .malformed
  else
    let (base, digits) := splitBase cs
    match digitsFrom base 0 digits with
    | .error e => .error e
    | .ok n => if wellSeparated cs then .ok n else .error .malformed

def checked (n : Int) : Except Error Int :=
  if Decimal.InRange n then .ok n else .error .outOfRange

/-- A numeral with an optional sign that denotes a signed 64-bit integer. -/
def signed : List Char → Except Error Int
  | '+' :: rest => (unsigned rest).bind fun n => checked n
  | '-' :: rest => (unsigned rest).bind fun n => checked (-n)
  | cs => (unsigned cs).bind fun n => checked n

end NumberedBasic.Numeral
