import NumberedBasic.Text.Space

/-! Text as it arrives from outside: characters, and the bytes that belong to none. -/
namespace NumberedBasic.Text

inductive Glyph where
  | char (c : Char)
  /-- A byte that is no part of a well-formed sequence. -/
  | stray (byte : UInt8)
  deriving DecidableEq, Repr

namespace Glyph

/-- A stray byte is shown as the replacement character. -/
def toChar : Glyph → Char
  | .char c => c
  | .stray _ => '\ufffd'

def char? : Glyph → Option Char
  | .char c => some c
  | .stray _ => none

/-- A stray byte is no white space. -/
def isSpace : Glyph → Bool
  | .char c => Text.isSpace c
  | .stray _ => false

def ofString (s : String) : List Glyph := s.toList.map .char

def toText (glyphs : List Glyph) : String := String.ofList (glyphs.map toChar)

theorem toText_ofString (s : String) : toText (ofString s) = s := by
  have h : s.toList.map (toChar ∘ Glyph.char) = s.toList := by
    rw [show toChar ∘ Glyph.char = id from rfl, List.map_id]
  simp [toText, ofString, h]

end Glyph

/-- The words of a text, split at white space. -/
def fields (text : List Glyph) : List (List Glyph) := words Glyph.isSpace text

end NumberedBasic.Text
