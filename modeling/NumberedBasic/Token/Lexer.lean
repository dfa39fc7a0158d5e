import NumberedBasic.Text.Letter
import NumberedBasic.Text.Space
import NumberedBasic.Token

/-! Cutting a physical line into tokens. Every token but the last takes at least one character, and
what lies between tokens is white space. -/
namespace NumberedBasic
open Text

/-- A token without its place: what it is and how many characters it takes. -/
structure Lexeme where
  kind : Kind
  text : String
  width : Nat
  width_pos : 0 < width := by simp
  deriving Repr

namespace Lexeme

def isIdentifierStart (c : Char) : Bool := isLetter c || c == '_' || c == '$'

def isIdentifierPart (c : Char) : Bool := isIdentifierStart c || isDecimalDigit c

def invalid (c : Char) : Lexeme :=
  { kind := .error, text := "invalid character: '" ++ c.toString ++ "'", width := 1 }

/-- The longest word that begins with the character. -/
def word (c : Char) (rest : List Char) : Lexeme :=
  let tail := rest.takeWhile isIdentifierPart
  let text := String.ofList (c :: tail)
  { kind := match Keyword.ofWord? text with
      | some k => .keyword k
      | none => .identifier
    text
    width := tail.length + 1 }

/-- The longest run of digits that begins with the character. -/
def numeral (c : Char) (rest : List Char) : Lexeme :=
  let tail := rest.takeWhile isAsciiDigit
  { kind := .integer, text := String.ofList (c :: tail), width := tail.length + 1 }

/-- What follows an opening quote. A string ends at the next quote and stays on one line; one that
does not is an error that takes the rest of the text. -/
def quoted (rest : List Char) : Lexeme :=
  let body := rest.takeWhile fun c => c != '"' && c != '\n'
  match rest.drop body.length with
  | '"' :: _ => { kind := .string, text := String.ofList body, width := body.length + 2 }
  | [] => { kind := .error, text := "unclosed string literal", width := rest.length + 1 }
  | _ => { kind := .error, text := "line end in string literal", width := rest.length + 1 }

/-- The lexeme that begins with a character that is no white space. -/
def read (c : Char) (rest : List Char) : Lexeme :=
  if isIdentifierStart c then word c rest
  else if isAsciiDigit c then numeral c rest
  else if c == '"' then quoted rest
  else match Symbol.ofChar? c with
    | some s => { kind := .symbol s, text := c.toString, width := 1 }
    | none => invalid c

end Lexeme

/-- The tokens of the characters from a column on, the end of the line last. -/
def scan (line : Int) (column : Nat) : List Char → List Token
  | [] => [Token.eol line column]
  | c :: rest =>
      if isSpace c then scan line (column + 1) rest
      else
        let lexeme := Lexeme.read c rest
        ⟨lexeme.kind, lexeme.text, line, column⟩
          :: scan line (column + lexeme.width) (rest.drop (lexeme.width - 1))
termination_by cs => cs.length

def tokenize (text : String) (line : Int) : List Token := scan line 0 text.toList

/-- The first so many tokens, where the end of the line repeats without end. -/
def firstTokens (count : Nat) (text : String) (line : Int) : List Token :=
  let tokens := (tokenize text line).take count
  tokens ++ List.replicate (count - tokens.length) (Token.eol line text.length)

end NumberedBasic
