import NumberedBasic.Text.Glyph
import NumberedBasic.Text.Printable

/-! Numbers in base sixteen, and texts shown between double quotes, with escapes for whatever would
not show. -/
namespace NumberedBasic.Text

/-- Lower-case digits, with zeros in front up to the width. -/
def hex (width n : Nat) : String :=
  let digits := Nat.toDigits 16 n
  String.ofList (List.replicate (width - digits.length) '0' ++ digits)

/-- The value of a digit in base sixteen. -/
def hexDigit? (c : Char) : Option Nat :=
  if '0' ≤ c && c ≤ '9' then some (c.toNat - '0'.toNat)
  else if 'a' ≤ c && c ≤ 'f' then some (c.toNat - 'a'.toNat + 10)
  else if 'A' ≤ c && c ≤ 'F' then some (c.toNat - 'A'.toNat + 10)
  else none

namespace Quoted

/-- The one-letter escapes. -/
def shortEscape? : Char → Option Char
  | '"' => some '"'
  | '\\' => some '\\'
  | '\x07' => some 'a'
  | '\x08' => some 'b'
  | '\x0c' => some 'f'
  | '\n' => some 'n'
  | '\r' => some 'r'
  | '\t' => some 't'
  | '\x0b' => some 'v'
  | _ => none

def escapeChar (c : Char) : String :=
  match shortEscape? c with
  | some letter => String.ofList ['\\', letter]
  | none =>
      if isPrintable c then c.toString
      else if c.toNat < 0x80 then "\\x" ++ hex 2 c.toNat
      else if c.toNat < 0x10000 then "\\u" ++ hex 4 c.toNat
      else "\\U" ++ hex 8 c.toNat

def escape : Glyph → String
  | .char c => escapeChar c
  | .stray byte => "\\x" ++ hex 2 byte.toNat

def glyphs (text : List Glyph) : String := "\"" ++ String.join (text.map escape) ++ "\""

def string (text : String) : String := glyphs (Glyph.ofString text)

end Quoted

end NumberedBasic.Text
