import NumberedBasic.Dump.Block
import NumberedBasic.Dump.Tree
import NumberedBasic.Flags
import NumberedBasic.Folder
import NumberedBasic.Grammar.Statement
import NumberedBasic.Listing

/-! The command that shows how a program file was understood. -/
namespace NumberedBasic.Dump

inductive Style where
  | list
  | tree
  | block
  deriving DecidableEq, Repr

def styleOf? : String → Option Style
  | "list" => some .list
  | "pretty" => some .tree
  | "yaml" => some .block
  | _ => none

def render (p : Program) : Style → String
  | .list => p.listing
  | .tree => treeText p.lines
  | .block => blockText p.toNodes

def flags : List (Flag String) := [.setting "format" fun text _ => .ok text]

def flagUsage : String :=
  "Usage of debug_ast:\n"
    ++ "  -format string\n"
    ++ "    \toutput format: list|pretty|yaml (default \"list\")\n"

def operandUsage : String := "usage: debug_ast [-format list|pretty|yaml] FILE"

/-- The name of the style is looked at last. -/
def runFile (folder : Folder) (format path : String) : Exit :=
  match folder.readSource path with
  | .error e => Exit.failure 1 (e.message path)
  | .ok source =>
      match parseProgram source with
      | .error e => Exit.failure 1 e.message
      | .ok program =>
          match styleOf? format with
          | some style => Exit.success (render program style)
          | none => Exit.failure 2 ("unknown format " ++ Text.Quoted.string format)

def run (folder : Folder) (args : List String) : Exit :=
  match Flag.parse flags "list" args with
  | .ok (format, [path]) => runFile folder format path
  | .ok _ => Exit.failure 2 operandUsage
  | .error e =>
      match e.message? with
      | some message => ⟨2, "", message ++ "\n" ++ flagUsage⟩
      | none => ⟨0, "", flagUsage⟩

end NumberedBasic.Dump
