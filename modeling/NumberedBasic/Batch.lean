import NumberedBasic.Batch.Inputs
import NumberedBasic.Session

/-! Running a program for a host that hands over all input beforehand. The result is JSON text,
without blanks and safe to stand inside HTML. -/
namespace NumberedBasic.Batch

def escapeChar (c : Char) : String :=
  match c with
  | '"' => "\\\""
  | '\\' => "\\\\"
  | '\x08' => "\\b"
  | '\x0c' => "\\f"
  | '\n' => "\\n"
  | '\r' => "\\r"
  | '\t' => "\\t"
  | _ =>
      if c < ' ' || c == '<' || c == '>' || c == '&' || c == '\u2028' || c == '\u2029' then
        "\\u" ++ Text.hex 4 c.toNat
      else c.toString

def encodeString (text : String) : String :=
  "\"" ++ String.join (text.toList.map escapeChar) ++ "\""

def encodeOutput (out : Output) : String :=
  "\x7b\"text\":" ++ encodeString out.text ++ ",\"newline\":"
    ++ (if out.newline then "true" else "false") ++ "\x7d"

structure Result where
  outputs : List Output
  error : Option String
  deriving DecidableEq, Repr

/-- The error is left out where there is none. -/
def Result.encode (r : Result) : String :=
  "\x7b\"outputs\":[" ++ ",".intercalate (r.outputs.map encodeOutput) ++ "]"
    ++ (match r.error with
      | some text => ",\"error\":" ++ encodeString text
      | none => "")
    ++ "\x7d"

/-- The result of a program with the given texts queued. A run that takes more steps than given has
none. -/
def runQueued (fuel : Nat) (source : String) (inputs : List String) : Option Result :=
  match Session.ofSource (Text.withPlainNewlines source) with
  | .error e => some ⟨[], some e.message⟩
  | .ok session =>
      ((session.enqueueAll (inputs.map Text.Glyph.ofString)).run fuel).map fun (_, report) =>
        ⟨report.outputs, report.error.map LineFault.message⟩

/-- The inputs are read before the program is. The message that refuses them goes on in the words of
the JSON decoder; these are left out. -/
def run (fuel : Nat) (source inputs : String) : Option Result :=
  match inputs? inputs with
  | none => some ⟨[], some "invalid inputs json"⟩
  | some texts => runQueued fuel source texts

end NumberedBasic.Batch
