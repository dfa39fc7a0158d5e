import NumberedBasic.Screen.Update

/-! What matters about a screen for the runs that it shows, and what each message does to it. How
the screen looks and where it has been scrolled to plays no part. -/
namespace NumberedBasic

/-- The rows that are finished, and the one that is still open. -/
structure Page where
  history : List String
  tail : String
  deriving DecidableEq, Repr

namespace Page

def empty : Page := ⟨[], ""⟩

/-- Adds to the open row. -/
def write (p : Page) (out : Output) : Page :=
  if out.newline then ⟨p.history ++ [p.tail ++ out.text], ""⟩ else ⟨p.history, p.tail ++ out.text⟩

def writeAll (p : Page) (outs : List Output) : Page := outs.foldl write p

theorem writeAll_append (p : Page) (outs more : List Output) :
    p.writeAll (outs ++ more) = (p.writeAll outs).writeAll more := List.foldl_append

end Page

/-- The part of a screen that belongs to the runs. -/
structure Gist where
  errorStyle : String → String
  source : Option Nat
  running : Bool
  done : Bool
  failure : Option Failure
  pending : Option Pending
  page : Page

namespace Screen

def page (s : Screen) : Page := ⟨s.history, s.tail⟩

def gist (s : Screen) : Gist :=
  ⟨s.errorStyle, s.source, s.running, s.done, s.failure, s.pending, s.page⟩

/-- The answer that has been typed, without the white space around it. -/
def typed (s : Screen) : String := String.ofList (Text.trim Text.isSpace s.field.value)

/-- The row that a failure leaves. -/
def failureRow (style : String → String) (e : Failure) : Output := ⟨style e.message, true⟩

variable {s : Screen} {key : Key}

theorem page_append (s : Screen) (out : Output) : (s.append out).page = s.page.write out := by
  unfold append write Page.write page
  split <;> rfl

theorem gist_append (s : Screen) (out : Output) :
    (s.append out).gist = { s.gist with page := s.page.write out } := by
  rw [← page_append]
  unfold append write
  split <;> rfl

theorem gist_onSize (s : Screen) (width height : Int64) : (s.onSize width height).1.gist = s.gist :=
  rfl

theorem gist_onPrompt (s : Screen) (r : Request) (channel : Channel) :
    (s.onPrompt r channel).1.gist = { s.gist with pending := some ⟨r, channel⟩ } := rfl

theorem awaiting_append (s : Screen) (out : Output) : (s.append out).awaiting = s.awaiting := by
  unfold append write
  split <;> rfl

theorem awaiting_of_source {run : Nat} (h : s.source = some run) : s.awaiting = [.await run] := by
  rw [awaiting, h]
  rfl

/-- A run that has come to its end leaves a row if it has failed. -/
theorem gist_onDone (s : Screen) (failure : Option Failure) :
    (s.onDone failure).1.gist = ⟨s.errorStyle, s.source, false, true, failure, none,
        s.page.writeAll (failure.toList.map (failureRow s.errorStyle))⟩ ∧
      (s.onDone failure).2 = [] := by
  cases failure with
  | none => exact ⟨rfl, rfl⟩
  | some e => exact ⟨gist_append _ _, rfl⟩

/-- The answer is sent, and echoed in a row of its own. -/
theorem gist_onEnter (s : Screen) (p : Pending) :
    (s.onEnter p).1.gist = { s.gist with pending := none, page := s.page.write ⟨s.typed, true⟩ } ∧
      (s.onEnter p).2 = .answer p.channel (.text s.typed) :: s.awaiting := by
  have hgist := gist_append s ⟨s.typed, true⟩
  constructor
  · change { (s.append ⟨s.typed, true⟩).gist with pending := none } = _
    rw [hgist]
  · change _ :: (s.append ⟨s.typed, true⟩).awaiting = _
    rw [awaiting_append]
    rfl

theorem gist_onKey_pending {p : Pending} (hpending : s.pending = some p)
    (hkey : key.name ≠ "ctrl+c") (henter : key.name ≠ "enter") :
    (s.onKey key).1.gist = s.gist ∧ (s.onKey key).2 = [] := by
  unfold onKey
  split
  · contradiction
  · contradiction
  · exact ⟨rfl, rfl⟩
  · simp_all

theorem onKey_interrupt (s : Screen) (hname : key.name = "ctrl+c") :
    s.onKey key =
      (s, (s.pending.toList.map fun p => .answer p.channel .abort) ++ [.quit]) := by
  simp [onKey, hname]

theorem onKey_enter {p : Pending} (hpending : s.pending = some p) (henter : key.name = "enter") :
    s.onKey key = s.onEnter p := by
  simp [onKey, hpending, henter]

theorem onKey_command (hpending : s.pending = none) (hkey : key.name ≠ "ctrl+c") :
    s.onKey key = s.onCommand key := by
  unfold onKey
  split
  · contradiction
  · simp_all
  · simp_all
  · rfl

/-- Without a prompt, a key that restarts nothing scrolls at most, and leaves if nothing runs. -/
theorem gist_onKey_command (hpending : s.pending = none) (hkey : key.name ≠ "ctrl+c")
    (hrestart : s.running = true ∨ key.name ≠ "r") :
    (s.onKey key).1.gist = s.gist ∧
      ((s.onKey key).2 = [] ∨ s.running = false ∧ (s.onKey key).2 = [.quit]) := by
  rw [onKey_command hpending hkey]
  unfold onCommand
  split
  · cases s.running with
    | true => exact ⟨rfl, .inl rfl⟩
    | false => exact ⟨rfl, .inr ⟨rfl, rfl⟩⟩
  · rename_i hname
    have hrunning := hrestart.resolve_right fun hne => hne hname
    rw [if_pos hrunning]
    exact ⟨rfl, .inl rfl⟩
  · exact ⟨rfl, .inl rfl⟩
  · exact ⟨rfl, .inl rfl⟩
  · exact ⟨rfl, .inl rfl⟩
  · exact ⟨rfl, .inl rfl⟩
  · exact ⟨rfl, .inl rfl⟩

/-- A run that is restarted begins with an empty page. -/
theorem gist_onKey_restart (hpending : s.pending = none) (hname : key.name = "r")
    (hrunning : s.running = false) :
    (s.onKey key).1.gist = ⟨s.errorStyle, s.source, false, false, none, none, .empty⟩ ∧
      (s.onKey key).2 = [.start] := by
  rw [onKey_command hpending (by simp [hname])]
  have hcommand : s.onCommand key = ({ s.restart with status := "restarting" }, [.start]) := by
    simp [onCommand, hname, hrunning]
  have hsame : s.restart.running = s.running := rfl
  rw [hcommand]
  refine ⟨?_, rfl⟩
  change (⟨s.errorStyle, s.source, s.restart.running, false, none, none, .empty⟩ : Gist) = _
  rw [hsame, hrunning]

end Screen

end NumberedBasic
