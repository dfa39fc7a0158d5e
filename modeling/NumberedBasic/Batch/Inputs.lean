import NumberedBasic.Text.Quoted
import NumberedBasic.Text.Space

/-! Input texts handed over as a JSON array of strings. -/
namespace NumberedBasic.Batch
open Text (hexDigit?)

/-- A part of a string: a character as it stands, or a 16-bit unit written as an escape. -/
inductive StringPart where
  | char (c : Char)
  | unit (n : Nat)
  deriving DecidableEq, Repr

def isHighSurrogate (n : Nat) : Bool := 0xd800 ≤ n && n < 0xdc00

def isLowSurrogate (n : Nat) : Bool := 0xdc00 ≤ n && n < 0xe000

/-- The character of a unit that has no partner. -/
def loneUnit (n : Nat) : Char :=
  if isHighSurrogate n || isLowSurrogate n then '\ufffd' else Char.ofNat n

/-- Two surrogates in the right order make one character; any other surrogate is replaced. -/
def joinParts : List StringPart → List Char
  | [] => []
  | .char c :: rest => c :: joinParts rest
  | .unit high :: .unit low :: rest =>
      if isHighSurrogate high && isLowSurrogate low then
        Char.ofNat (0x10000 + (high - 0xd800) * 0x400 + (low - 0xdc00)) :: joinParts rest
      else loneUnit high :: joinParts (.unit low :: rest)
  | .unit n :: rest => loneUnit n :: joinParts rest

def shortEscape? : Char → Option Char
  | '"' => some '"'
  | '\\' => some '\\'
  | '/' => some '/'
  | 'b' => some '\x08'
  | 'f' => some '\x0c'
  | 'n' => some '\n'
  | 'r' => some '\r'
  | 't' => some '\t'
  | _ => none

def unit? (a b c d : Char) : Option Nat := do
  let a ← hexDigit? a
  let b ← hexDigit? b
  let c ← hexDigit? c
  let d ← hexDigit? d
  some (a * 0x1000 + b * 0x100 + c * 0x10 + d)

/-- What follows an opening quote, up to the closing one. Control characters have to be written as
escapes. -/
def stringParts? : List Char → Option (List StringPart × List Char)
  | [] => none
  | '"' :: rest => some ([], rest)
  | '\\' :: 'u' :: a :: b :: c :: d :: rest => do
      let n ← unit? a b c d
      let (parts, rest) ← stringParts? rest
      some (.unit n :: parts, rest)
  | '\\' :: e :: rest => do
      let c ← shortEscape? e
      let (parts, rest) ← stringParts? rest
      some (.char c :: parts, rest)
  | c :: rest =>
      if c < ' ' || c == '\\' then none
      else do
        let (parts, rest) ← stringParts? rest
        some (.char c :: parts, rest)

def isBlank (c : Char) : Bool := c == ' ' || c == '\t' || c == '\n' || c == '\r'

def skipBlanks (cs : List Char) : List Char := cs.dropWhile isBlank

/-- A string, or null in the place of an empty one. -/
def element? : List Char → Option (String × List Char)
  | '"' :: rest =>
      (stringParts? rest).map fun (parts, rest) => (String.ofList (joinParts parts), rest)
  | 'n' :: 'u' :: 'l' :: 'l' :: rest => some ("", rest)
  | _ => none

/-- Elements up to the closing bracket. Each takes characters, so a list of all characters bounds
their number. -/
def elements? : List Char → List Char → Option (List String × List Char)
  | [], _ => none
  | _ :: bound, cs => do
      let (s, rest) ← element? (skipBlanks cs)
      match skipBlanks rest with
      | ']' :: rest => some ([s], rest)
      | ',' :: rest =>
          let (more, rest) ← elements? bound rest
          some (s :: more, rest)
      | _ => none

def array? (cs : List Char) : Option (List String × List Char) :=
  match skipBlanks cs with
  | ']' :: rest => some ([], rest)
  | rest => elements? rest rest

/-- An array of strings or null, with nothing behind it. -/
def document? (cs : List Char) : Option (List String) :=
  let value := match skipBlanks cs with
    | '[' :: rest => array? rest
    | 'n' :: 'u' :: 'l' :: 'l' :: rest => some ([], rest)
    | _ => none
  match value with
  | some (texts, rest) => if (skipBlanks rest).isEmpty then some texts else none
  | none => none

/-- The input texts of a document. A blank document holds none. -/
def inputs? (document : String) : Option (List String) :=
  if document.toList.all Text.isSpace then some [] else document? document.toList

end NumberedBasic.Batch
