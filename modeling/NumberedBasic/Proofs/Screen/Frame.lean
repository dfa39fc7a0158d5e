import Mathlib.Data.List.Induction
import NumberedBasic.Screen.Update

/-! The layout of the screen. The window onto the transcript has the width of the screen and the
rows that the status line and the field leave, in whatever order sizes, prompts, answers, ends and
restarts come. -/
namespace NumberedBasic

namespace Viewport

def size (v : Viewport) : Int × Int := (v.width, v.height)

theorem size_setContent (v : Viewport) (content : String) :
    (v.setContent content).size = v.size := by
  unfold setContent
  dsimp only
  split <;> rfl

theorem size_toTop (v : Viewport) : v.toTop.size = v.size := by
  unfold toTop
  split <;> rfl

theorem size_press (v : Viewport) (key : String) : (v.press key).size = v.size :=
  Prod.ext (v.press_width key) (v.press_height key)

end Viewport

/-- The measures of a screen: its size as it was reported last, whether a prompt is pending, and the
size of the window onto the transcript. -/
structure Frame where
  size : Int64 × Int64
  asking : Bool
  window : Int × Int
  deriving DecidableEq, Repr

namespace Frame

/-- The rows that the transcript gets on a screen of the given height. The field takes one only
while it is there, and one row is left in any case. -/
def room (height : Int64) (asking : Bool) : Int := max 1 (height - if asking then 2 else 1).toInt

/-- The window is as wide as the screen, and as high as there is room. -/
def fit (f : Frame) : Frame :=
  { f with window := (f.size.1.toInt, room f.size.2 f.asking) }

/-- Two rows can be taken from every height but the two lowest without wrapping around. -/
theorem room_eq {height : Int64} (h : Int64.minValue.toInt + 2 ≤ height.toInt) (asking : Bool) :
    room height asking = max 1 (height.toInt - if asking then 2 else 1) := by
  have hhigh := height.toInt_lt
  have hmin : Int64.minValue.toInt = -9223372036854775808 := rfl
  have hone : (1 : Int64).toInt = 1 := rfl
  have htwo : (2 : Int64).toInt = 2 := rfl
  cases asking with
  | false =>
      change max 1 (height - 1).toInt = max 1 (height.toInt - 1)
      rw [Int64.toInt_sub, hone, Int.bmod_eq_of_le (by omega) (by omega)]
  | true =>
      change max 1 (height - 2).toInt = max 1 (height.toInt - 2)
      rw [Int64.toInt_sub, htwo, Int.bmod_eq_of_le (by omega) (by omega)]

end Frame

namespace Screen

/-- The size that a message reports. -/
def Message.size? : Message → Option (Int64 × Int64)
  | .size width height => some (width, height)
  | _ => none

/-- The last size that is reported. -/
def lastSize? (messages : List Message) : Option (Int64 × Int64) :=
  (messages.filterMap Message.size?).getLast?

/-- Lets the screen handle the messages one after the other. -/
def receive (s : Screen) (messages : List Message) : Screen :=
  messages.foldl (fun s message => (s.update message).1) s

def frame (s : Screen) : Frame :=
  ⟨(s.width, s.height), s.pending.isSome, s.viewport.size⟩

/-- Laying the screen out anew would change nothing. -/
def Fits (s : Screen) : Prop := s.frame.fit = s.frame

theorem receive_append (s : Screen) (front back : List Message) :
    s.receive (front ++ back) = (s.receive front).receive back := List.foldl_append

theorem frame_write (s : Screen) (out : Output) : (s.write out).frame = s.frame := by
  unfold write
  split <;> rfl

theorem frame_append (s : Screen) (out : Output) : (s.append out).frame = s.frame := by
  have hwindow : ((s.write out).viewport.setContent (s.write out).content).toBottom.size =
      (s.write out).viewport.size := Viewport.size_setContent _ _
  rw [← s.frame_write out]
  exact congrArg (Frame.mk _ _) hwindow

theorem frame_onDone (s : Screen) (failure : Option Failure) :
    (s.onDone failure).1.frame = { s.frame with asking := false }.fit := by
  cases failure with
  | none => rfl
  | some e => exact frame_append _ _

theorem frame_onEnter (s : Screen) (p : Pending) :
    (s.onEnter p).1.frame = { s.frame with asking := false }.fit := by
  have hecho := frame_append s ⟨String.ofList (Text.trim Text.isSpace s.field.value), true⟩
  rw [← hecho]
  rfl

/-- Commands move the window and do not change its size, but a restart lays the screen out anew. -/
theorem frame_onCommand (s : Screen) (key : Key) :
    (s.onCommand key).1.frame = s.frame ∨
      (s.onCommand key).1.frame = { s.frame with asking := false }.fit := by
  unfold onCommand
  split
  · exact .inl rfl
  · split
    · exact .inl rfl
    · exact .inr rfl
  -- The last five cases scroll.
  · exact .inl (congrArg (Frame.mk _ _) s.viewport.size_toTop)
  · exact .inl (congrArg (Frame.mk _ _) s.viewport.size_toTop)
  · exact .inl rfl
  · exact .inl rfl
  · exact .inl (congrArg (Frame.mk _ _) (s.viewport.size_press key.name))

theorem frame_onKey (s : Screen) (key : Key) :
    (s.onKey key).1.frame = s.frame ∨
      (s.onKey key).1.frame = { s.frame with asking := false }.fit := by
  unfold onKey
  split
  · exact .inl rfl
  · exact .inr (frame_onEnter s _)
  · exact .inl rfl
  · exact frame_onCommand s key

/-- A message leaves the layout alone, or it sets it for the size that is known then and for the
prompt that is pending then. A size always sets it. -/
theorem frame_update (s : Screen) (message : Message) :
    message.size? = none ∧ (s.update message).1.frame = s.frame ∨
      ∃ asking, (s.update message).1.frame =
        { s.frame with size := message.size?.getD s.frame.size, asking }.fit := by
  cases message with
  | size width height => exact .inr ⟨s.pending.isSome, rfl⟩
  | started run => exact .inl ⟨rfl, rfl⟩
  | output out => exact .inl ⟨rfl, frame_append s out⟩
  | prompt request channel => exact .inr ⟨true, rfl⟩
  | poll => exact .inl ⟨rfl, rfl⟩
  | done failure => exact .inr ⟨false, frame_onDone s failure⟩
  | key key =>
      cases frame_onKey s key with
      | inl hsame => exact .inl ⟨rfl, hsame⟩
      | inr hfit => exact .inr ⟨false, hfit⟩

theorem size_update (s : Screen) (message : Message) :
    (s.update message).1.frame.size = message.size?.getD s.frame.size := by
  obtain ⟨hnone, hsame⟩ | ⟨asking, hfit⟩ := frame_update s message
  · rw [hsame, hnone]
    rfl
  · rw [hfit]
    rfl

theorem Fits.update {s : Screen} {message : Message} (h : s.Fits ∨ message.size? ≠ none) :
    (s.update message).1.Fits := by
  unfold Fits
  obtain ⟨hnone, hsame⟩ | ⟨asking, hfit⟩ := frame_update s message
  · rw [hsame]
    exact h.resolve_right fun hne => hne hnone
  · rw [hfit]
    rfl

theorem lastSize?_concat (messages : List Message) (message : Message) :
    lastSize? (messages ++ [message]) = message.size?.or (lastSize? messages) := by
  unfold lastSize?
  rw [List.filterMap_append, List.getLast?_append]
  cases hsize : message.size? with
  | none => simp [hsize]
  | some size => simp [hsize]

/-- From the first size on, the layout fits the last size. -/
theorem fits_receive (s : Screen) {messages : List Message} {size : Int64 × Int64}
    (h : lastSize? messages = some size) :
    (s.receive messages).frame.size = size ∧ (s.receive messages).Fits := by
  induction messages using List.reverseRecOn with
  | nil => cases h
  | append_singleton messages message ih =>
      rw [lastSize?_concat] at h
      rw [receive_append]
      change ((s.receive messages).update message).1.frame.size = size ∧
        ((s.receive messages).update message).1.Fits
      rw [size_update]
      -- A size lays the screen out by itself; any other message comes behind one.
      cases hsize : message.size? with
      | some reported =>
          rw [hsize] at h
          refine ⟨Option.some.inj h, .update (.inr ?_)⟩
          rw [hsize]
          exact Option.some_ne_none reported
      | none =>
          rw [hsize] at h
          obtain ⟨hlast, hfits⟩ := ih h
          exact ⟨hlast, .update (.inl hfits)⟩

/-- In every state behind a size, the window onto the transcript is as wide as the screen, and it
has the rows that the status line leaves, or the status line and the field while a prompt is
pending, but one at least. The rows are counted in words; except for the two lowest heights, these
are the integers. -/
theorem receive_fits (s : Screen) {messages : List Message} {width height : Int64}
    (h : lastSize? messages = some (width, height)) :
    (s.receive messages).viewport.width = width.toInt ∧
    ((s.receive messages).pending = none →
      (s.receive messages).viewport.height = max 1 (height - 1).toInt) ∧
    ((s.receive messages).pending ≠ none →
      (s.receive messages).viewport.height = max 1 (height - 2).toInt) ∧
    (Int64.minValue.toInt + 2 ≤ height.toInt → (s.receive messages).viewport.height =
      max 1 (height.toInt - if (s.receive messages).pending = none then 1 else 2)) := by
  obtain ⟨hsize, hfits⟩ := s.fits_receive h
  have hwindow := congrArg Frame.window hfits
  rw [Frame.fit, hsize] at hwindow
  have hwidth : (s.receive messages).viewport.width = width.toInt :=
    (congrArg Prod.fst hwindow).symm
  have hheight : (s.receive messages).viewport.height =
      Frame.room height (s.receive messages).pending.isSome := (congrArg Prod.snd hwindow).symm
  refine ⟨hwidth, ?_, ?_, ?_⟩
  · intro hpending
    rw [hheight, hpending]
    rfl
  · intro hpending
    rw [hheight, Option.isSome_iff_ne_none.mpr hpending]
    rfl
  · intro hlow
    rw [hheight, Frame.room_eq hlow]
    cases (s.receive messages).pending <;> rfl

/-- A prompt before the size is known, an answer, the end, a restart, another size and a prompt. -/
def reshaped : List Message :=
  [.prompt ⟨10, "n", ""⟩ (.direct 0), .size 40 10, .key (.ofName "enter"), .done none,
    .key (.ofName "r"), .size 20 1, .started 1, .prompt ⟨10, "n", ""⟩ (.direct 1)]

theorem receive_fits_reshaped :
    lastSize? (reshaped.take 2) = some (40, 10) ∧
      ((new "prog").receive (reshaped.take 2)).viewport.height = 8 ∧
      lastSize? reshaped = some (20, 1) ∧ ((new "prog").receive reshaped).pending ≠ none ∧
      ((new "prog").receive reshaped).viewport.height = 1 := by
  have hfirst : lastSize? (reshaped.take 2) = some (40, 10) := by decide
  have hlast : lastSize? reshaped = some (20, 1) := by decide
  have hasking : ((new "prog").receive (reshaped.take 2)).pending ≠ none := by decide
  have hasking' : ((new "prog").receive reshaped).pending ≠ none := by decide +kernel
  exact ⟨hfirst, (receive_fits _ hfirst).2.2.1 hasking, hlast, hasking',
    (receive_fits _ hlast).2.2.1 hasking'⟩

end Screen

end NumberedBasic
