import NumberedBasic.Dump.Timestamp
import NumberedBasic.Numeral
import NumberedBasic.Text.Quoted

/-! How a text is written as a YAML scalar, so that it reads back as that text. -/
namespace NumberedBasic.Dump
open Text (isAsciiDigit)

/-- Words that stand for something other than a text. -/
def reservedWords : List String :=
  ["", "~", "null", "Null", "NULL", "true", "True", "TRUE", "false", "False", "FALSE",
   ".nan", ".NaN", ".NAN", ".inf", ".Inf", ".INF", "+.inf", "+.Inf", "+.INF",
   "-.inf", "-.Inf", "-.INF"]

/-- Words that older readers take for truth values. -/
def oldBooleans : List String :=
  ["y", "Y", "yes", "Yes", "YES", "on", "On", "ON",
   "n", "N", "no", "No", "NO", "off", "Off", "OFF"]

def dropSign : List Char → List Char
  | '+' :: rest => rest
  | '-' :: rest => rest
  | cs => cs

/-- What is left of a number behind its digits: nothing, or an exponent. -/
def exponent? : List Char → Option Int
  | [] => some 0
  | e :: rest =>
      let digits := dropSign rest
      if (e == 'e' || e == 'E') && !digits.isEmpty && digits.all isAsciiDigit then
        let n : Int := Decimal.digitsValue 0 digits
        some (if rest.head? == some '-' then -n else n)
      else none

/-- The digits of an unsigned number with an optional point and exponent, and the power of ten that
they are multiplied by. -/
def decimalParts? (cs : List Char) : Option (List Char × Int) :=
  let whole := cs.takeWhile isAsciiDigit
  let (fraction, rest) := match cs.dropWhile isAsciiDigit with
    | '.' :: rest => (rest.takeWhile isAsciiDigit, rest.dropWhile isAsciiDigit)
    | rest => ([], rest)
  if whole.isEmpty && fraction.isEmpty then none
  else (exponent? rest).map fun e => (whole ++ fraction, e - fraction.length)

/-- Whether a number is too large for a 64-bit float, halfway past the largest one. -/
def isTooLarge (digits : List Char) (exponent : Int) : Bool :=
  let n := Decimal.digitsValue 0 digits
  let size : Int := (digits.dropWhile (· == '0')).length + exponent
  if n == 0 || size < 300 then false
  else if 400 < size then true
  else
    let bound := Nat.pow 2 1024 - Nat.pow 2 970
    if 0 ≤ exponent then bound ≤ n * Nat.pow 10 exponent.toNat
    else bound * Nat.pow 10 (-exponent).toNat ≤ n

def isFloat (cs : List Char) : Bool :=
  (decimalParts? (dropSign cs)).any fun (digits, exponent) => !isTooLarge digits exponent

/-- A number that begins with its point, underscores allowed between its digits. -/
def isPointFloat (cs : List Char) : Bool :=
  Numeral.separated isAsciiDigit false cs && isFloat (cs.filter (· != '_'))

def isOk {ε α : Type} : Except ε α → Bool
  | .ok _ => true
  | .error _ => false

/-- Digits behind an optional sign that denote a signed integer in the base. -/
def isSignedIn (base : Nat) : List Char → Bool
  | '-' :: rest => isOk ((Numeral.inBase base rest).bind fun n => Numeral.checked (-n))
  | '+' :: rest => isOk ((Numeral.inBase base rest).bind fun n => Numeral.checked n)
  | cs => isOk (Numeral.inBase base cs)

/-- A numeral whose sign stands behind the letter of its base. -/
def isInnerSigned : List Char → Bool
  | '0' :: 'b' :: rest => isSignedIn 2 rest
  | '-' :: '0' :: 'b' :: rest => isSignedIn 2 ('-' :: rest)
  | '0' :: 'o' :: rest => isSignedIn 8 rest
  | '-' :: '0' :: 'o' :: rest => isSignedIn 8 ('-' :: rest)
  | _ => false

def isInteger (cs : List Char) : Bool :=
  isOk (Numeral.signed cs) || isOk (Numeral.unsigned cs) || isInnerSigned cs

def isNumber (cs : List Char) : Bool :=
  isTimestamp cs || (let plain := cs.filter (· != '_'); isInteger plain || isFloat plain)

/-- Whether a text would read as something other than a text. -/
def readsAsOther (text : String) : Bool :=
  reservedWords.contains text ||
    match text.toList with
    | [] => true
    | c :: rest =>
        if c == '.' then isPointFloat (c :: rest)
        else if c == '+' || c == '-' || isAsciiDigit c then isNumber (c :: rest)
        else false

/-- One or two digits below sixty behind each colon, and perhaps a point with digits at the end. -/
def isSexagesimalTail (colons : Nat) : List Char → Bool
  | [] => colons != 0
  | ':' :: a :: b :: rest =>
      if isAsciiDigit a && a < '6' && isAsciiDigit b then isSexagesimalTail (colons + 1) rest
      else isAsciiDigit a && isSexagesimalTail (colons + 1) (b :: rest)
  | [':', a] => isAsciiDigit a
  | '.' :: rest => colons != 0 && rest.all fun c => isAsciiDigit c || c == '_'
  | _ => false

/-- A number in base sixty, which older readers know. -/
def isSexagesimal (cs : List Char) : Bool :=
  match dropSign cs with
  | c :: rest =>
      isAsciiDigit c && isSexagesimalTail 0 (rest.dropWhile fun d => isAsciiDigit d || d == '_')
  | [] => false

/-- Whether a text is followed by a blank or by nothing. -/
def blankFollows : List Char → Bool
  | [] => true
  | c :: _ => c == ' '

/-- A colon before a blank or the end, or a number sign behind a blank. -/
def hasInnerIndicator : List Char → Bool
  | [] => false
  | ':' :: rest => blankFollows rest || hasInnerIndicator rest
  | ' ' :: '#' :: _ => true
  | _ :: rest => hasInnerIndicator rest

def startsWithIndicator : List Char → Bool
  | '-' :: '-' :: '-' :: _ => true
  | '.' :: '.' :: '.' :: _ => true
  | [] => false
  | c :: rest =>
      "#,[]\x7b\x7d&*!|>'\"%@\x60".toList.contains c
        || ((c == '-' || c == '?' || c == ':') && blankFollows rest)

/-- Whether quotes are needed to keep the text apart from the marks of the format. -/
def needsQuotes (cs : List Char) : Bool :=
  cs.head? == some ' ' || cs.getLast? == some ' ' || startsWithIndicator cs || hasInnerIndicator cs

/-- A character that can be written as it is. -/
def isPlainChar (c : Char) : Bool :=
  let n := c.toNat
  0x20 ≤ n && n ≤ 0x7e || 0xa0 ≤ n && n ≤ 0xfffd && n != 0xfeff && n != 0x2028 && n != 0x2029

def escape (c : Char) : String :=
  match c with
  | '"' => "\\\""
  | '\\' => "\\\\"
  | '\x00' => "\\0"
  | '\x07' => "\\a"
  | '\x08' => "\\b"
  | '\t' => "\\t"
  | '\n' => "\\n"
  | '\x0b' => "\\v"
  | '\x0c' => "\\f"
  | '\r' => "\\r"
  | '\x1b' => "\\e"
  | '\x85' => "\\N"
  | '\u2028' => "\\L"
  | '\u2029' => "\\P"
  | _ =>
      let hex := fun width => (Text.hex width c.toNat).map Char.toUpper
      if isPlainChar c then c.toString
      else if c.toNat < 0x100 then "\\x" ++ hex 2
      else if c.toNat < 0x10000 then "\\u" ++ hex 4
      else "\\U" ++ hex 8

def doubleQuoted (cs : List Char) : String := "\"" ++ String.join (cs.map escape) ++ "\""

/-- Between single quotes a single quote is written twice. -/
def singleQuoted (cs : List Char) : String :=
  "'" ++ String.join (cs.map fun c => if c == '\'' then "''" else c.toString) ++ "'"

def scalar (text : String) : String :=
  let cs := text.toList
  if readsAsOther text || oldBooleans.contains text || isSexagesimal cs || !cs.all isPlainChar then
    doubleQuoted cs
  else if needsQuotes cs then singleQuoted cs
  else text

end NumberedBasic.Dump
