import NumberedBasic.Runner
import NumberedBasic.Text.Utf8

/-! The command line: reads the program file, prints what the program writes as it goes, and reads a
line whenever an INPUT finds nothing to take. -/
namespace NumberedBasic.Main

def readSource (path : String) : IO (Except String String) := do
  try
    let bytes ← IO.FS.readBinFile path
    let text := Text.Glyph.toText (Text.Utf8.decode bytes.toList)
    return .ok (Text.withPlainNewlines text)
  catch
    | .noFileOrDirectory .. => return .error (Folder.Error.missing.message path)
    | .inappropriateType .. => return .error (Folder.Error.isDirectory.message path)
    | e => return .error (toString e)

/-- Prints the output signals behind those already printed, and returns how many there are now. -/
def printSince (printed : Nat) (sent : List Signal) : IO Nat := do
  let texts := sent.reverse.filterMap fun
    | .output out => some out.render
    | .request _ => none
  for text in texts.drop printed do
    IO.print text
  return texts.length

def addReply (s : State) (reply : Reply) : State :=
  { s with input := { s.input with
    provider := s.input.provider.map fun p => { p with replies := p.replies ++ [reply] } } }

/-- Carries out the program. An INPUT that runs out of input is tried again from its beginning with
one more line; what it has printed by then is not printed twice. -/
partial def loop (m : Machine) (s : State) (printed : Nat) : IO (Option LineFault) := do
  match m.step s with
  | .running next =>
      let _ ← printSince printed next.sent
      loop m { next with sent := [] } 0
  | .stopped last error =>
      let printed ← printSince printed last.sent
      match error with
      | some ⟨_, .endOfInput⟩ =>
          (← IO.getStdout).flush
          let line ← (← IO.getStdin).getLine
          if line.isEmpty then return error
          loop m (addReply s (Runner.lineReply (Text.Glyph.ofString line))) printed
      | _ => return error

def runFile (options : Runner.Options) (path : String) : IO (Option String) := do
  match ← readSource path with
  | .error message => return some message
  | .ok source =>
      match Session.ofSource source with
      | .error e => return some e.message
      | .ok session =>
          let session := ((session.setLimit options.steps).setStreaming true).setProvider
            (some ⟨[], .endOfInput, none⟩)
          let error ← loop session.machine session.initial 0
          return error.map LineFault.message

end NumberedBasic.Main

open NumberedBasic in
/-- Status 0 when END is reached, 1 on a failure, 2 on a usage error. -/
def main (args : List String) : IO UInt32 := do
  match Runner.command args with
  | .error exit =>
      IO.eprint exit.stderr
      return exit.code.toUInt32
  | .ok (options, path) =>
      if options.screen then
        IO.eprintln "tui: no terminal"
        return 1
      match ← Main.runFile options path with
      | some message =>
          IO.eprintln message
          return 1
      | none => return 0
