import NumberedBasic.Screen.Field
import NumberedBasic.Screen.Viewport
import NumberedBasic.Dialogue

/-! What the terminal screen shows of a run: a transcript, a status line and, while a prompt is
pending, a field for the answer. -/
namespace NumberedBasic

/-- Where the answer to a prompt goes. Each prompt has a place of its own. -/
inductive Channel where
  /-- The given prompt of the given run. -/
  | run (id ordinal : Nat)
  /-- A prompt that no run has sent. -/
  | direct (id : Nat)
  deriving DecidableEq, Repr

structure Pending where
  request : Request
  channel : Channel
  deriving DecidableEq, Repr

structure Screen where
  path : String
  /-- How the message of a failure is rendered. -/
  errorStyle : String → String
  viewport : Viewport
  field : Field
  /-- Whether the size is known. -/
  ready : Bool
  width : Int64
  height : Int64
  status : String
  running : Bool
  done : Bool
  failure : Option Failure
  /-- The run whose events are awaited. -/
  source : Option Nat
  pending : Option Pending
  /-- Finished rows. -/
  history : List String
  /-- The row that is still open. -/
  tail : String

namespace Screen

/-- Failures are rendered without colours where nothing else is said. -/
def new (path : String) (errorStyle : String → String := Text.block) : Screen :=
  { path, errorStyle, viewport := ⟨80, 20, 0, []⟩, field := Field.empty, ready := false,
    width := 0, height := 0, status := "starting", running := false, done := false,
    failure := none, source := none, pending := none, history := [], tail := "" }

/-- Whether the last run reached its end. -/
def succeeded (s : Screen) : Bool := s.done && s.failure.isNone

/-- The transcript gets every row that the rows below it do not use. -/
def resize (s : Screen) : Screen :=
  let footer : Int64 := if s.pending.isSome then 2 else 1
  let height := max 1 (s.height - footer).toInt
  { s with viewport := { s.viewport with width := s.width.toInt, height } }

/-- The transcript as one text. -/
def content (s : Screen) : String :=
  let rows := "\n".intercalate s.history
  let text :=
    if s.tail.isEmpty then rows
    else if rows.isEmpty then s.tail
    else rows ++ "\n" ++ s.tail
  if text.isEmpty then "(no output yet)" else text

/-- Adds to the open row. -/
def write (s : Screen) (out : Output) : Screen :=
  if out.newline then { s with history := s.history ++ [s.tail ++ out.text], tail := "" }
  else { s with tail := s.tail ++ out.text }

/-- Shows the end of the transcript. -/
def refresh (s : Screen) : Screen :=
  { s with viewport := (s.viewport.setContent s.content).toBottom }

def append (s : Screen) (out : Output) : Screen := (s.write out).refresh

/-- What was shown before does not matter. -/
theorem refresh_write_refresh (s : Screen) (out : Output) :
    (s.refresh.write out).refresh = (s.write out).refresh := by
  unfold write
  split <;> simp only [refresh, content, Viewport.toBottom_setContent] <;> rfl

def blur (s : Screen) : Screen := { s with field := { s.field with focused := false } }

def clearField (s : Screen) : Screen := { s with field := s.field.clear }

/-- Forgets the last run. -/
def restart (s : Screen) : Screen :=
  let s :=
    { s with
      history := [], tail := "", viewport := s.viewport.setContent "",
      pending := none, done := false, failure := none }
  s.blur.clearField.resize

end Screen

end NumberedBasic
