import NumberedBasic.Flags
import NumberedBasic.Folder
import NumberedBasic.Numeral
import NumberedBasic.Session

/-! The command that runs a program file with plain input and output. -/
namespace NumberedBasic.Runner
open Text (Glyph)

structure Options where
  steps : Int
  /-- Whether the program is to run inside the terminal screen. -/
  screen : Bool
  deriving DecidableEq, Repr

def setSteps (text : String) (o : Options) : Except String Options :=
  match Numeral.signed text.toList with
  | .ok steps => .ok { o with steps }
  | .error .malformed => .error "parse error"
  | .error .outOfRange => .error "value out of range"

def flags : List (Flag Options) :=
  [.setting "steps" setSteps, .switch "tui" fun on o => { o with screen := on }]

def usage : String :=
  "usage: linebasic [-tui] [-steps N] FILE\n"
    ++ "  -steps int\n"
    ++ "    \tabort after this many executed statements (0 = unlimited)\n"
    ++ "  -tui\n"
    ++ "    \trun the program inside the terminal UI\n"

/-- The options and the one file named on the command line. -/
def command (args : List String) : Except Exit (Options × String) :=
  match Flag.parse flags ⟨0, false⟩ args with
  | .ok (options, [path]) => .ok (options, path)
  | .ok _ => .error ⟨2, "", usage⟩
  | .error e =>
      match e.message? with
      | some message => .error ⟨2, "", message ++ "\n" ++ usage⟩
      | none => .error ⟨2, "", usage⟩

/-- Standard input: a text, and what reading fails with behind it instead of ending. -/
structure Stdin where
  text : List Glyph
  failure : Option String
  deriving DecidableEq, Repr

def isLineEnd (g : Glyph) : Bool := g == .char '\n' || g == .char '\r'

/-- A line of input, without its end. -/
def lineReply (text : List Glyph) : Reply := ⟨Text.trimEnd isLineEnd text, none⟩

/-- Answers requests line by line. A last line without a newline counts if there is something on
it and reading does not fail there. -/
def Stdin.provider (stdin : Stdin) (blocked : Option String) : Provider :=
  let lines := Text.pieces (· == .char '\n') stdin.text
  let finished := lines.dropLast.map lineReply
  match stdin.failure with
  | some reason => ⟨finished, .failed reason, blocked⟩
  | none =>
      let last := lines.getLast?.toList.map lineReply
      ⟨finished ++ last.filter (fun reply => !reply.text.isEmpty), .endOfInput, blocked⟩

/-- What a program writes, and how it fails. A sink that fails takes nothing. -/
def runSource (fuel : Nat) (source : String) (steps : Int) (stdin : Stdin)
    (sinkFailure : Option String) : Option (String × Option Failure) :=
  match Session.ofSource source with
  | .error e => some ("", some e)
  | .ok session =>
      let session := ((session.setLimit steps).setStreaming true).setProvider
        (some (stdin.provider sinkFailure))
      (session.run fuel).map fun (_, report) =>
        let written := if sinkFailure.isSome then ""
          else String.join (report.streamed.map Output.render)
        (written, report.error.map .faulted)

/-- Status 0 when END is reached, 1 on a failure. The diagnostic is plain, as standard error is not
a terminal here: on one it would be coloured. -/
def exitOf (stdout : String) : Option Failure → Exit
  | none => Exit.success stdout
  | some e => ⟨1, stdout, e.message ++ "\n"⟩

/-- Runs the command. A run that takes more steps than given has no exit. -/
def run (fuel : Nat) (folder : Folder) (args : List String) (stdin : Stdin)
    (sinkFailure : Option String) : Option Exit :=
  match command args with
  | .error exit => some exit
  | .ok (options, path) =>
      match folder.readSource path with
      | .error e => some (Exit.failure 1 (e.message path))
      | .ok source =>
          (runSource fuel source options.steps stdin sinkFailure).map fun (stdout, failure) =>
            exitOf stdout failure

end NumberedBasic.Runner
