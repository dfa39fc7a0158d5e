import NumberedBasic.Decimal
import NumberedBasic.Text.Quoted

/-! The words of the language. -/
namespace NumberedBasic

inductive Keyword where
  | let_ | print | input | for_ | to | next | if_ | then_ | goto | gosub | return_ | end_
  deriving DecidableEq, Repr

namespace Keyword

def all : List Keyword :=
  [.let_, .print, .input, .for_, .to, .next, .if_, .then_, .goto, .gosub, .return_, .end_]

def spelling : Keyword → String
  | .let_ => "let"
  | .print => "print"
  | .input => "input"
  | .for_ => "for"
  | .to => "to"
  | .next => "next"
  | .if_ => "if"
  | .then_ => "then"
  | .goto => "goto"
  | .gosub => "gosub"
  | .return_ => "return"
  | .end_ => "end"

def name : Keyword → String
  | .let_ => "LET"
  | .print => "PRINT"
  | .input => "INPUT"
  | .for_ => "FOR"
  | .to => "TO"
  | .next => "NEXT"
  | .if_ => "IF"
  | .then_ => "THEN"
  | .goto => "GOTO"
  | .gosub => "GOSUB"
  | .return_ => "RETURN"
  | .end_ => "END"

/-- Keywords are recognised in lower case only. -/
def ofWord? (word : String) : Option Keyword := all.find? fun k => k.spelling == word

theorem ofWord?_spelling (k : Keyword) : ofWord? k.spelling = some k := by
  cases k <;> decide +kernel

theorem spelling_of_ofWord? {word : String} {k : Keyword} (h : ofWord? word = some k) :
    k.spelling = word := by
  simpa using List.find?_some h

end Keyword

inductive Symbol where
  | eq | comma | semicolon | colon | plus | minus | times | div | lt | gt | open_ | close
  deriving DecidableEq, Repr

namespace Symbol

def all : List Symbol :=
  [.eq, .comma, .semicolon, .colon, .plus, .minus, .times, .div, .lt, .gt, .open_, .close]

def char : Symbol → Char
  | .eq => '='
  | .comma => ','
  | .semicolon => ';'
  | .colon => ':'
  | .plus => '+'
  | .minus => '-'
  | .times => '*'
  | .div => '/'
  | .lt => '<'
  | .gt => '>'
  | .open_ => '('
  | .close => ')'

def name : Symbol → String
  | .eq => "EQ"
  | .comma => "COMMA"
  | .semicolon => "SEMICOLON"
  | .colon => "COLON"
  | .plus => "PLUS"
  | .minus => "MINUS"
  | .times => "TIMES"
  | .div => "DIV"
  | .lt => "LT"
  | .gt => "GT"
  | .open_ => "L_PAREN"
  | .close => "R_PAREN"

def ofChar? (c : Char) : Option Symbol := all.find? fun s => s.char == c

theorem ofChar?_char (s : Symbol) : ofChar? s.char = some s := by
  cases s <;> decide +kernel

theorem char_of_ofChar? {c : Char} {s : Symbol} (h : ofChar? c = some s) : s.char = c := by
  simpa using List.find?_some h

end Symbol

inductive Kind where
  | eol
  /-- The token's text says what is wrong. -/
  | error
  | identifier
  | integer
  | string
  | keyword (k : Keyword)
  | symbol (s : Symbol)
  /-- A kind that no text gives. -/
  | other (code : Int)
  deriving DecidableEq, Repr

namespace Kind

/-- The kinds that texts give; a kind's place is its code. -/
def listed : List Kind :=
  [.eol, .error, .identifier, .integer, .string] ++ Keyword.all.map .keyword
    ++ Symbol.all.map .symbol

def name : Kind → String
  | .eol => "EOL"
  | .error => "ERROR"
  | .identifier => "IDENTIFIER"
  | .integer => "INTEGER_LITERAL"
  | .string => "STRING_LITERAL"
  | .keyword k => k.name
  | .symbol s => s.name
  | .other code => "Kind(" ++ Decimal.write code ++ ")"

def ofCode : Int → Kind
  | .ofNat n => (listed[n]?).getD (.other n)
  | .negSucc n => .other (.negSucc n)

def ofName? (name : String) : Option Kind := listed.find? fun k => k.name == name

end Kind

/-- A word and the place where it begins. Columns count characters from zero. -/
structure Token where
  kind : Kind
  text : String
  line : Int
  column : Int
  deriving DecidableEq, Repr

namespace Token

/-- The end of a physical line. -/
def eol (line column : Int) : Token := ⟨.eol, "<eol>", line, column⟩

def describe (t : Token) : String :=
  t.kind.name ++ " " ++ Text.Quoted.string t.text ++ " at " ++ Decimal.write t.line ++ ":"
    ++ Decimal.write t.column

end Token

end NumberedBasic
