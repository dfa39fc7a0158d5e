import NumberedBasic.Dump.Scalar
import NumberedBasic.Node

/-! Trees as YAML in block style. -/
namespace NumberedBasic.Dump

def indentBy (margin : String) (lines : List String) : List String := lines.map (margin ++ ·)

/-- Lines behind a mark on the first of them. -/
def hang (mark margin : String) : List String → List String
  | [] => []
  | first :: rest => (mark ++ first) :: indentBy margin rest

/-- Lines under a key. -/
def underKey (key : String) (lines : List String) : List String :=
  (key ++ ":") :: indentBy "  " lines

mutual

def blockLines : Node → List String
  | .null => ["null"]
  | .int value => [Decimal.write value]
  | .text value => [scalar value]
  | .list [] => ["[]"]
  | .list (first :: rest) => itemLines (first :: rest)
  | .record [] => ["\x7b\x7d"]
  | .record (first :: rest) => fieldLines (first :: rest)

def itemLines : List Node → List String
  | [] => []
  | item :: rest => hang "- " "  " (blockLines item) ++ itemLines rest

def fieldLines : List (String × Node) → List String
  | [] => []
  | (key, value) :: rest => keyLines key value ++ fieldLines rest

def keyLines (key : String) : Node → List String
  | .list (first :: rest) => underKey key (itemLines (first :: rest))
  | .record (first :: rest) => underKey key (fieldLines (first :: rest))
  | .list [] => [key ++ ": []"]
  | .record [] => [key ++ ": \x7b\x7d"]
  | .null => [key ++ ": null"]
  | .int value => [key ++ ": " ++ Decimal.write value]
  | .text value => [key ++ ": " ++ scalar value]

end

def blockText (nodes : List Node) : String :=
  String.join ((blockLines (.list nodes)).map (· ++ "\n"))

end NumberedBasic.Dump
