import NumberedBasic.Text.Letter

/-! Texts that read as a date or as a date with a time of day. -/
namespace NumberedBasic.Dump
open Text (isAsciiDigit)

def digit (c : Char) : Nat := c.toNat - '0'.toNat

/-- A number of one or two digits, two where there are two. -/
def shortNumber? : List Char → Option (Nat × List Char)
  | a :: b :: rest =>
      if isAsciiDigit a && isAsciiDigit b then some (digit a * 10 + digit b, rest)
      else if isAsciiDigit a then some (digit a, b :: rest)
      else none
  | [a] => if isAsciiDigit a then some (digit a, []) else none
  | [] => none

def twoDigits? (a b : Char) : Option Nat :=
  if isAsciiDigit a && isAsciiDigit b then some (digit a * 10 + digit b) else none

/-- Passes over one given character. -/
def after? (c : Char) : List Char → Option (List Char)
  | d :: rest => if c == d then some rest else none
  | [] => none

def isLeapYear (year : Nat) : Bool := year % 4 == 0 && (year % 100 != 0 || year % 400 == 0)

def daysIn (year month : Nat) : Nat :=
  if month == 2 then (if isLeapYear year then 29 else 28)
  else if month == 4 || month == 6 || month == 9 || month == 11 then 30
  else 31

/-- A year of four digits, a month and a day that it has. -/
def date? : List Char → Option (List Char)
  | a :: b :: c :: d :: rest => do
      let high ← twoDigits? a b
      let low ← twoDigits? c d
      let year := high * 100 + low
      let (month, rest) ← shortNumber? (← after? '-' rest)
      let (day, rest) ← shortNumber? (← after? '-' rest)
      if 1 ≤ month && month ≤ 12 && 1 ≤ day && day ≤ daysIn year month then some rest else none
  | _ => none

/-- Digits behind a point or a comma, where there are any. -/
def skipFraction : List Char → List Char
  | p :: d :: rest =>
      if (p == '.' || p == ',') && isAsciiDigit d then rest.dropWhile isAsciiDigit
      else p :: d :: rest
  | cs => cs

def clock? (cs : List Char) : Option (List Char) := do
  let (hour, rest) ← shortNumber? cs
  let (minute, rest) ← shortNumber? (← after? ':' rest)
  let (second, rest) ← shortNumber? (← after? ':' rest)
  if hour < 24 && minute < 60 && second < 60 then some (skipFraction rest) else none

def isZone : List Char → Bool
  | ['Z'] => true
  | [sign, a, b, ':', c, d] =>
      (sign == '+' || sign == '-') && (twoDigits? a b).any (· ≤ 24) && (twoDigits? c d).any (· ≤ 60)
  | _ => false

/-- A date alone, with a time and a zone behind a T, or with a time behind blanks. -/
def isTimestamp (cs : List Char) : Bool :=
  match date? cs with
  | none => false
  | some [] => true
  | some (c :: rest) =>
      if c == 'T' || c == 't' then (clock? rest).any isZone
      else if c == ' ' then (clock? (rest.dropWhile (· == ' '))).any List.isEmpty
      else false

end NumberedBasic.Dump
