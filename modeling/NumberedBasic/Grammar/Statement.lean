import NumberedBasic.Grammar.Expr
import NumberedBasic.Program
import NumberedBasic.Token.Lexer

/-! Reading statements and numbered lines from tokens, and whole programs from texts. -/
namespace NumberedBasic.Grammar

def identifier : Parser String := fun tokens =>
  (expect .identifier tokens).map fun (t, rest) => (t.text, rest)

def lineNumber (t : Token) : Except SyntaxError Int :=
  match Decimal.read? t.text.toList with
  | some n => .ok n
  | none => .error (SyntaxError.ofToken t (.lineNumberRange t.text))

/-- The line that a jump goes to. -/
def target : Parser Int := fun tokens => do
  let (t, rest) ← expect .integer tokens
  let n ← lineNumber t
  .ok (n, rest)

def letStatement : Parser Statement := fun tokens => do
  let (name, rest) ← identifier tokens
  let (_, rest) ← expect (.symbol .eq) rest
  let (value, rest) ← expr rest
  .ok (.let_ name value, rest)

def printItem : Parser PrintItem := fun tokens =>
  let t := peek tokens
  match t.kind with
  | .string => .ok (.string t.text, tokens.tail)
  | .symbol .comma => .ok (.comma, tokens.tail)
  | .symbol .semicolon => .ok (.semicolon, tokens.tail)
  | _ => (expr tokens).map fun (e, rest) => (.expr e, rest)

/-- Items up to the end of the line. Each takes a token, so a list of all tokens bounds their
number. -/
def printItems : List Token → Parser (List PrintItem)
  | [], tokens => .ok ([], tokens)
  | _ :: bound, tokens =>
      if (peek tokens).kind = .eol then .ok ([], tokens)
      else do
        let (item, rest) ← printItem tokens
        let (items, rest) ← printItems bound rest
        .ok (item :: items, rest)

/-- Names behind commas. Each takes a token, so a list of all tokens bounds their number. -/
def moreNames : List Token → Parser (List String)
  | [], tokens => .ok ([], tokens)
  | _ :: bound, tokens =>
      if (peek tokens).kind = .symbol .comma then do
        let (name, rest) ← identifier tokens.tail
        let (names, rest) ← moreNames bound rest
        .ok (name :: names, rest)
      else .ok ([], tokens)

def inputPrompt (tokens : List Token) : Option String × List Token :=
  let t := peek tokens
  if t.kind = .string then (some t.text, tokens.tail) else (none, tokens)

def inputStatement : Parser Statement := fun tokens => do
  let (prompt, rest) := inputPrompt tokens
  let (name, rest) ← identifier rest
  let (names, rest) ← moreNames rest rest
  .ok (.input prompt (name :: names), rest)

def forStatement : Parser Statement := fun tokens => do
  let (name, rest) ← identifier tokens
  let (_, rest) ← expect (.symbol .eq) rest
  let (first, rest) ← expr rest
  let (_, rest) ← expect (.keyword .to) rest
  let (last, rest) ← expr rest
  .ok (.for_ name first last, rest)

def relation? : Kind → Option Operator
  | .symbol .lt => some .lt
  | .symbol .eq => some .eq
  | .symbol .gt => some .gt
  | _ => none

def condition : Parser Condition := fun tokens => do
  let (left, rest) ← expr tokens
  match relation? (peek rest).kind with
  | some op =>
      let (right, rest) ← expr rest.tail
      .ok (⟨op, left, right⟩, rest)
  | none => refuse rest (.noRelation (peek rest).text)

/-- A statement, an IF's body read by the given parser. -/
def statementWith (body : Parser Statement) : Parser Statement := fun tokens =>
  let t := peek tokens
  match t.kind with
  | .eol => .ok (.empty, tokens)
  | .keyword .let_ => letStatement tokens.tail
  | .keyword .print =>
      (printItems tokens.tail tokens.tail).map fun (items, rest) => (.print items, rest)
  | .keyword .input => inputStatement tokens.tail
  | .keyword .for_ => forStatement tokens.tail
  | .keyword .next => (identifier tokens.tail).map fun (name, rest) => (.next name, rest)
  | .keyword .if_ => do
      let (c, rest) ← condition tokens.tail
      let (_, rest) ← expect (.keyword .then_) rest
      let (inner, rest) ← body rest
      .ok (.if_ c inner, rest)
  | .keyword .goto => (target tokens.tail).map fun (n, rest) => (.goto n, rest)
  | .keyword .gosub => (target tokens.tail).map fun (n, rest) => (.gosub n, rest)
  | .keyword .return_ => .ok (.return_, tokens.tail)
  | .keyword .end_ => .ok (.end_, tokens.tail)
  | _ => refuse tokens (.noKeyword t.text)

/-- Statements with fewer IFs inside each other than the list has tokens; each IF takes some. -/
def statementWithin : List Token → Parser Statement
  | [] => statementWith fun tokens => .ok (.empty, tokens)
  | _ :: bound => statementWith (statementWithin bound)

def statement : Parser Statement := fun tokens => statementWithin tokens tokens

/-- Columns are signed 64-bit words. -/
def wrapColumn (column : Int) : Int := Int.bmod column 18446744073709551616

/-- The tokens with the end of the line supplied where it lacks. -/
def withEnd (tokens : List Token) : List Token :=
  match tokens.getLast? with
  | none => [Token.eol 0 0]
  | some last =>
      if last.kind = .eol then tokens
      else tokens ++ [Token.eol last.line (wrapColumn (last.column + last.text.length))]

/-- A line number and a statement, up to the end of the line. -/
def line : Parser Line := fun tokens =>
  let t := peek tokens
  if t.kind = .integer then do
    let number ← lineNumber t
    let (stmt, rest) ← statement tokens.tail
    let (_, rest) ← expect .eol rest
    .ok (⟨number, stmt⟩, rest)
  else refuse tokens .noLineNumber

end NumberedBasic.Grammar

namespace NumberedBasic

/-- Reads the tokens of one physical line. -/
def parseLine (tokens : List Token) : Except SyntaxError Line :=
  (Grammar.line (Grammar.withEnd tokens)).map (·.1)

/-- The lines in physical order, up to the first that cannot be read. -/
def parseLines : Int → List String → Except SyntaxError (List Line)
  | _, [] => .ok []
  | ordinal, text :: rest => do
      let line ← parseLine (tokenize text ordinal)
      let lines ← parseLines (ordinal + 1) rest
      .ok (line :: lines)

/-- Physical lines count from one. Of lines with the same number the last one stays. -/
def parseProgram (source : String) : Except SyntaxError Program :=
  (parseLines 1 (Text.physicalLines source)).map Program.ofLines

end NumberedBasic
