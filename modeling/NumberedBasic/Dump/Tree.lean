import NumberedBasic.Program

/-! Statements as indented trees, with every part under its name. -/
namespace NumberedBasic.Dump

/-- How a value is shown: its lines, and whether it is the zero of its type. -/
structure Shown where
  lines : List String
  isZero : Bool
  deriving DecidableEq, Repr

/-- A part of a value with its label. -/
abbrev Part := String × Shown

def braces (text : String) : String := "\x7b" ++ text ++ "\x7d"

namespace Shown

def nil : Shown := ⟨["nil"], true⟩

def number (n : Int) : Shown := ⟨[Decimal.write n], n == 0⟩

def string (text : String) : Shown := ⟨[Text.Quoted.string text], text.isEmpty⟩

def boolean (b : Bool) : Shown := ⟨[if b then "true" else "false"], !b⟩

end Shown

/-- A comma behind the last line. -/
def withComma : List String → List String
  | [] => []
  | [last] => [last ++ ","]
  | line :: rest => line :: withComma rest

/-- Parts whose values are aligned. A part that takes several lines is the last of its group. -/
def alignedGroups : List Part → List (List Part)
  | [] => []
  | part :: rest =>
      if 1 < part.2.lines.length then [part] :: alignedGroups rest
      else match alignedGroups rest with
        | [] => [[part]]
        | group :: more => (part :: group) :: more

def padTo (width : Nat) (text : String) : String :=
  text ++ String.ofList (List.replicate (width - text.length) ' ')

def partLines (width : Nat) (part : Part) : List String :=
  match part.2.lines with
  | [] => []
  | first :: rest => withComma ((padTo width (part.1 ++ ":") ++ first) :: rest)

def groupLines (group : List Part) : List String :=
  let longest := group.foldl (fun n part => max n part.1.length) 0
  group.flatMap (partLines (longest + 2))

def indent (lines : List String) : List String := lines.map ("    " ++ ·)

namespace Shown

/-- A value of several parts is zero if all its parts are, and then it shows none of them. -/
def record (head : String) (parts : List Part) : Shown :=
  if parts.all (·.2.isZero) then ⟨[head ++ braces ""], true⟩
  else
    ⟨[head ++ "\x7b"] ++ indent ((alignedGroups parts).flatMap groupLines) ++ ["\x7d"], false⟩

/-- A value of one simple part takes one line. -/
def single (head label : String) (part : Shown) : Shown :=
  let text := if part.isZero then "" else label ++ ":" ++ "\n".intercalate part.lines
  ⟨[head ++ braces text], part.isZero⟩

/-- A list is never zero, not even without items. -/
def sequence (items : List Shown) : Shown :=
  ⟨["\x7b"] ++ indent (items.flatMap fun item => withComma item.lines) ++ ["\x7d"], false⟩

/-- A list of simple values takes one line. -/
def inlineSequence (items : List Shown) : Shown :=
  ⟨[braces (", ".intercalate (items.flatMap (·.lines)))], false⟩

def ofExpr : Expr → Shown
  | .lit value => single "ast.IntLit" "Value" (number value.toInt)
  | .var name => single "ast.VarRef" "Name" (string name)
  | .binary op left right =>
      record "ast.BinaryExpr"
        [("Op", number op.code), ("Left", ofExpr left), ("Right", ofExpr right)]
  | .missing => nil

def ofCondition (c : Condition) : Shown :=
  record "ast.Condition"
    [("Op", number c.op.code), ("Left", ofExpr c.left), ("Right", ofExpr c.right)]

def itemParts (code : Int) (text : String) (e : Expr) : Shown :=
  record "" [("Kind", number code), ("Text", string text), ("Expr", ofExpr e)]

def ofItem : PrintItem → Shown
  | .string text => itemParts 0 text .missing
  | .comma => itemParts 1 "" .missing
  | .semicolon => itemParts 2 "" .missing
  | .expr e => itemParts 3 "" e
  | .other code e => itemParts code "" e

def ofStatement : Statement → Shown
  | .let_ name value => record "ast.LetStmt" [("Name", string name), ("Expr", ofExpr value)]
  | .print items => record "ast.PrintStmt" [("Items", sequence (items.map ofItem))]
  | .input prompt names =>
      record "ast.InputStmt"
        [("Prompt", string (prompt.getD "")), ("HasPrompt", boolean prompt.isSome),
         ("Names", inlineSequence (names.map string))]
  | .for_ name first last =>
      record "ast.ForStmt" [("Var", string name), ("From", ofExpr first), ("To", ofExpr last)]
  | .next name => single "ast.NextStmt" "Var" (string name)
  | .if_ c body => record "ast.IfStmt" [("Cond", ofCondition c), ("Then", ofStatement body)]
  | .goto target => single "ast.GotoStmt" "Target" (number target)
  | .gosub target => single "ast.GosubStmt" "Target" (number target)
  | .return_ => record "ast.ReturnStmt" []
  | .end_ => record "ast.EndStmt" []
  | .empty => record "ast.EmptyStmt" []
  | .missing => nil

end Shown

def treeText (lines : List Line) : String :=
  String.join (lines.map fun line =>
    Decimal.write line.number ++ ": "
      ++ "\n".intercalate (Shown.ofStatement line.statement).lines ++ "\n")

end NumberedBasic.Dump
