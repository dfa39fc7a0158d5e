import NumberedBasic.Program

/-! Programs as plain trees, for writers that know nothing of statements. Fields are kept in the
order of their keys. -/
namespace NumberedBasic

inductive Node where
  | null
  | int (value : Int)
  | text (value : String)
  | list (items : List Node)
  | record (fields : List (String × Node))
  deriving Repr

namespace Node

/-- Puts a field in its place among fields in the order of their keys. -/
def insertField (key : String) (value : Node) : List (String × Node) → List (String × Node)
  | [] => [(key, value)]
  | head :: rest =>
      if key < head.1 then (key, value) :: head :: rest
      else head :: insertField key value rest

end Node

namespace Expr

def toNode : Expr → Node
  | .lit value => .int value.toInt
  | .var name => .record [("var", .text name)]
  | .binary op left right =>
      .record [("left", left.toNode), ("op", .text op.spelling), ("right", right.toNode)]
  | .missing => .null

end Expr

namespace Condition

def toNode (c : Condition) : Node :=
  .record [("left", c.left.toNode), ("op", .text c.op.spelling), ("right", c.right.toNode)]

end Condition

namespace PrintItem

def toNode : PrintItem → Node
  | .string text => .record [("string", .text text)]
  | .comma => .text "comma"
  | .semicolon => .text "semicolon"
  | .expr e => e.toNode
  | .other _ e => e.toNode

end PrintItem

/-- A list of no names has no node of its own. -/
def namesNode : List String → Node
  | [] => .null
  | names => .list (names.map .text)

namespace Statement

def fields : Statement → List (String × Node)
  | .let_ name value => [("expr", value.toNode), ("kind", .text "let"), ("name", .text name)]
  | .print items => [("items", .list (items.map PrintItem.toNode)), ("kind", .text "print")]
  | .input none names => [("kind", .text "input"), ("names", namesNode names)]
  | .input (some prompt) names =>
      [("kind", .text "input"), ("names", namesNode names), ("prompt", .text prompt)]
  | .for_ name first last =>
      [("from", first.toNode), ("kind", .text "for"), ("to", last.toNode), ("var", .text name)]
  | .next name => [("kind", .text "next"), ("var", .text name)]
  | .if_ c body => [("cond", c.toNode), ("kind", .text "if"), ("then", .record body.fields)]
  | .goto target => [("kind", .text "goto"), ("target", .int target)]
  | .gosub target => [("kind", .text "gosub"), ("target", .int target)]
  | .return_ => [("kind", .text "return")]
  | .end_ => [("kind", .text "end")]
  | .empty => [("kind", .text "empty")]
  | .missing => [("kind", .text "empty")]

def toNode (s : Statement) : Node := .record s.fields

end Statement

/-- A line is its statement with the number as one more field. -/
def Line.toNode (line : Line) : Node :=
  .record (Node.insertField "line" (.int line.number) line.statement.fields)

def Program.toNodes (p : Program) : List Node := p.lines.map Line.toNode

end NumberedBasic
