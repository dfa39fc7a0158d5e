import NumberedBasic.Proofs.Screen.Frame
import NumberedBasic.Proofs.Screen.Gist

/-! Whether the newest row is in sight. Whatever is written moves the window to the bottom, but a
prompt takes a row from the window and does not move it. So the last row is in sight, except while a
prompt is pending behind a transcript that has filled the window: then it is the one row below
it. -/
namespace NumberedBasic

namespace Viewport

theorem offset_toBottom (v : Viewport) : v.toBottom.offset = v.toBottom.bottom := by
  change max 0 (min v.bottom v.bottom) = v.bottom
  unfold bottom
  omega

/-- At the bottom the last row is in sight, unless the window lies behind it. -/
theorem getLast?_visible {v : Viewport} (h : v.bottom ≤ v.offset)
    (hinside : v.offset < v.lines.length ∨ v.lines = []) :
    v.visible.getLast? = v.lines.getLast? := by
  unfold bottom at h
  have hrest : (v.lines.drop v.offset.toNat).length ≤ v.height.toNat := by
    rw [List.length_drop]
    omega
  unfold visible
  rw [List.take_of_length_le hrest, List.getLast?_drop]
  cases hinside with
  | inl hlt => exact if_neg (by omega)
  | inr hnil => simp [hnil]

end Viewport

/-- There is one height from which one row can be taken without wrapping around and two cannot. On
every other screen the field takes one row, or none if there is only one. -/
theorem Frame.room_asking {height : Int64} (h : height ≠ Int64.minValue + 1) :
    room height true ≤ room height false ∧ room height false ≤ room height true + 1 := by
  by_cases hlow : Int64.minValue.toInt + 2 ≤ height.toInt
  · rw [room_eq hlow, room_eq hlow]
    simp only [reduceIte, Bool.false_eq_true]
    omega
  · have hleast : height = Int64.minValue := by
      have hbound := height.le_toInt
      have hmin : Int64.minValue.toInt = -9223372036854775808 := rfl
      have hnext : (Int64.minValue + 1).toInt = -9223372036854775807 := rfl
      have hother : height.toInt ≠ (Int64.minValue + 1).toInt := fun heq =>
        h (Int64.toInt_inj.mp heq)
      apply Int64.toInt_inj.mp
      omega
    rw [hleast]
    decide

namespace Screen

/-- Nobody moves the window or changes its size: keys go to the field, since a prompt is pending. -/
def unscrolled (s : Screen) : Message → Bool
  | .size _ _ => false
  | .key _ => s.pending.isSome
  | _ => true

def unscrolledAll (s : Screen) : List Message → Bool
  | [] => true
  | message :: rest => s.unscrolled message && unscrolledAll (s.update message).1 rest

/-- Whether a prompt is pending while the message writes to the transcript, if it does so. A failure
is written when the prompt is gone, an answer before it goes. -/
def writing? (s : Screen) : Message → Option Bool
  | .output _ => some s.pending.isSome
  | .done (some _) => some false
  | .key key => if key.name = "enter" then some true else none
  | _ => none

/-- Whether a prompt was pending when the transcript was written to for the last time. -/
def lastWriting? (s : Screen) : List Message → Option Bool
  | [] => none
  | message :: rest => (lastWriting? (s.update message).1 rest).or (s.writing? message)

/-- The window is where it was moved when the transcript was last written to, with a prompt pending
or without one. -/
structure Stands (s : Screen) (height : Int64) (asking : Bool) : Prop where
  fits : s.Fits
  height_eq : s.height = height
  offset_eq : s.viewport.offset = max 0 (s.viewport.lines.length - Frame.room height asking)

variable {s : Screen} {message : Message} {height : Int64} {asking : Bool}

theorem Fits.height_eq (h : s.Fits) :
    s.viewport.height = Frame.room s.height s.pending.isSome :=
  (congrArg (·.window.2) h).symm

theorem height_update (s : Screen) (h : s.unscrolled message = true) :
    (s.update message).1.height = s.height := by
  have hsize := s.size_update message
  cases message with
  | size width height => cases h
  | _ => exact congrArg Prod.snd hsize

/-- Whatever is written, the window is moved to the bottom. -/
theorem offset_append (s : Screen) (out : Output) :
    (s.append out).viewport.offset =
      max 0 ((s.append out).viewport.lines.length - s.viewport.height) := by
  have hsize : (s.append out).viewport.height = s.viewport.height :=
    congrArg (·.window.2) (s.frame_append out)
  rw [← hsize]
  exact Viewport.offset_toBottom _

theorem onKey_asking (key : Key) (h : s.pending.isSome = true) :
    (∃ p, key.name = "enter" ∧ s.onKey key = s.onEnter p) ∨
      key.name ≠ "enter" ∧ (s.onKey key).1.viewport = s.viewport := by
  obtain ⟨p, hp⟩ := Option.isSome_iff_exists.mp h
  by_cases henter : key.name = "enter"
  · exact .inl ⟨p, henter, onKey_enter hp henter⟩
  · refine .inr ⟨henter, ?_⟩
    unfold onKey
    split
    · rfl
    · contradiction
    · rfl
    · simp_all

/-- A message that writes moves the window to the bottom that it has then. Any other one leaves the
window and what it shows alone. -/
theorem Fits.viewport_update (h : s.Fits) (hstill : s.unscrolled message = true) :
    match s.writing? message with
    | none => (s.update message).1.viewport.lines = s.viewport.lines ∧
        (s.update message).1.viewport.offset = s.viewport.offset
    | some asking => (s.update message).1.viewport.offset =
        max 0 ((s.update message).1.viewport.lines.length - Frame.room s.height asking) := by
  cases message with
  | size width height => cases hstill
  | started run => exact ⟨rfl, rfl⟩
  | output out =>
      have hwritten := s.offset_append out
      rw [h.height_eq] at hwritten
      exact hwritten
  | prompt request channel => exact ⟨rfl, rfl⟩
  | poll => exact ⟨rfl, rfl⟩
  | done failure =>
      cases failure with
      | none => exact ⟨rfl, rfl⟩
      | some e => exact offset_append _ _
  | key key =>
      have hasking : s.pending.isSome = true := hstill
      obtain ⟨p, henter, heq⟩ | ⟨hother, hsame⟩ := onKey_asking key hasking
      · -- The echo is written before the field goes and its row is given back.
        have hwritten := s.offset_append ⟨s.typed, true⟩
        rw [h.height_eq, hasking] at hwritten
        simp only [writing?, if_pos henter, Screen.update, heq]
        exact hwritten
      · simp only [writing?, if_neg hother, Screen.update, hsame, and_self]

theorem Stands.update (h : s.Stands height asking) (hstill : s.unscrolled message = true) :
    (s.update message).1.Stands height ((s.writing? message).getD asking) := by
  have hheight := (s.height_update hstill).trans h.height_eq
  have hviewport := h.fits.viewport_update hstill
  refine ⟨.update (.inl h.fits), hheight, ?_⟩
  cases hwriting : s.writing? message with
  | none =>
      rw [hwriting] at hviewport
      obtain ⟨hlines, hoffset⟩ := hviewport
      rw [hlines, hoffset]
      exact h.offset_eq
  | some now =>
      rw [hwriting, h.height_eq] at hviewport
      exact hviewport

theorem Stands.receive {messages : List Message} (h : s.Stands height asking)
    (hstill : s.unscrolledAll messages = true) :
    (s.receive messages).Stands height ((s.lastWriting? messages).getD asking) := by
  induction messages generalizing s asking with
  | nil => exact h
  | cons message messages ih =>
      rw [unscrolledAll, Bool.and_eq_true] at hstill
      rw [lastWriting?, Option.getD_or]
      exact ih (h.update hstill.1) hstill.2

/-- Once something is written, it does not matter where the window was before. -/
theorem stands_of_lastWriting? {messages : List Message} (hfits : s.Fits)
    (hstill : s.unscrolledAll messages = true) (hwritten : s.lastWriting? messages = some asking) :
    (s.receive messages).Stands s.height asking := by
  induction messages generalizing s with
  | nil => cases hwritten
  | cons message messages ih =>
      rw [unscrolledAll, Bool.and_eq_true] at hstill
      obtain ⟨hfirst, hrest⟩ := hstill
      have hheight := s.height_update hfirst
      have hfits' : (s.update message).1.Fits := .update (.inl hfits)
      rw [lastWriting?] at hwritten
      cases hlast : lastWriting? (s.update message).1 messages with
      | some last =>
          rw [hlast] at hwritten
          cases hwritten
          rw [← hheight]
          exact ih hfits' hrest hlast
      | none =>
          rw [hlast] at hwritten
          have hviewport := hfits.viewport_update hfirst
          rw [show s.writing? message = some asking from hwritten] at hviewport
          have hstands : (s.update message).1.Stands s.height asking :=
            ⟨hfits', hheight, hviewport⟩
          have hlater := hstands.receive hrest
          rw [hlast] at hlater
          exact hlater

theorem Stands.window_eq (h : s.Stands height asking) :
    s.viewport.height = Frame.room height s.pending.isSome := by
  rw [h.fits.height_eq, h.height_eq]

theorem Stands.bottom_le_iff (h : s.Stands height asking) (hheight : height ≠ Int64.minValue + 1) :
    s.viewport.bottom ≤ s.viewport.offset ↔
      ¬(s.pending.isSome = true ∧ asking = false ∧ s.viewport.height < s.viewport.lines.length ∧
        s.viewport.height < Frame.room height false) := by
  obtain ⟨hless, hmore⟩ := Frame.room_asking hheight
  rw [Viewport.bottom, h.offset_eq, h.window_eq]
  -- A window that was at the bottom with the field below it still is when the field has gone.
  cases s.pending.isSome <;> cases asking <;> simp <;> omega

theorem Stands.bottom_le_succ (h : s.Stands height asking)
    (hheight : height ≠ Int64.minValue + 1) : s.viewport.bottom ≤ s.viewport.offset + 1 := by
  obtain ⟨hless, hmore⟩ := Frame.room_asking hheight
  rw [Viewport.bottom, h.offset_eq, h.window_eq]
  cases s.pending.isSome <;> cases asking <;> omega

theorem Stands.getLast?_visible (h : s.Stands height asking)
    (hbottom : s.viewport.bottom ≤ s.viewport.offset) :
    s.viewport.visible.getLast? = s.viewport.lines.getLast? := by
  apply Viewport.getLast?_visible hbottom
  rw [h.offset_eq]
  cases s.viewport.lines with
  | nil => exact .inr rfl
  | cons line lines =>
      left
      unfold Frame.room
      rw [List.length_cons]
      omega

/-- A screen learns its size, and from then on nobody moves the window or changes its size. If the
screen had nothing to show, or if the transcript is written to afterwards, the window is at the
bottom, with the last row in sight, unless a prompt is pending, the transcript was last written to
while none was, and the field has taken a row that the transcript needs. Then the last row is the
one row below the window. -/
theorem receive_follows_newest (s : Screen) (width : Int64)
    (hheight : height ≠ Int64.minValue + 1) {messages : List Message} {sized t : Screen}
    (hsized : (s.update (.size width height)).1 = sized)
    (hstill : sized.unscrolledAll messages = true) (ht : sized.receive messages = t)
    (hshown : s.viewport.lines = [] ∧ s.viewport.offset = 0 ∨
      sized.lastWriting? messages ≠ none) :
    (t.viewport.bottom ≤ t.viewport.offset ↔
      ¬(t.pending.isSome = true ∧ sized.lastWriting? messages ≠ some true ∧
        t.viewport.height < t.viewport.lines.length ∧
        t.viewport.height < Frame.room height false)) ∧
    t.viewport.bottom ≤ t.viewport.offset + 1 ∧
    (t.viewport.bottom ≤ t.viewport.offset →
      t.viewport.visible.getLast? = t.viewport.lines.getLast?) := by
  have hfits : sized.Fits := by
    rw [← hsized]
    rfl
  have hstands : t.Stands height ((sized.lastWriting? messages).getD false) := by
    rw [← ht]
    cases hshown with
    | inl hblank =>
        obtain ⟨hlines, hoffset⟩ := hblank
        refine Stands.receive ⟨hfits, ?_, ?_⟩ hstill
        · rw [← hsized]
          rfl
        · rw [← hsized]
          change s.viewport.offset = max 0 ((s.viewport.lines.length : Int) - _)
          rw [hlines, hoffset, List.length_nil]
          unfold Frame.room
          omega
    | inr hwritten =>
        obtain ⟨asking, hasking⟩ := Option.ne_none_iff_exists'.mp hwritten
        have hstands := stands_of_lastWriting? hfits hstill hasking
        rw [← hsized] at hstands
        rw [hasking, ← hsized]
        exact hstands
  refine ⟨?_, hstands.bottom_le_succ hheight, hstands.getLast?_visible⟩
  rw [hstands.bottom_le_iff hheight]
  cases hwriting : sized.lastWriting? messages with
  | none => simp
  | some asking => simp

/-- A transcript that fills the window, and a prompt behind it. -/
def questioned : List Message :=
  [.output ⟨"1", true⟩, .output ⟨"2", true⟩, .output ⟨"3", true⟩, .output ⟨"n? ", false⟩,
    .prompt ⟨40, "n", "n? "⟩ (.direct 0)]

def answered : List Message := questioned ++ [.key (.ofName "7"), .key (.ofName "enter")]

/-- The answer brings the row with the prompt back. -/
theorem receive_follows_newest_answered :
    ∃ sized t, ((new "prog").update (.size 40 4)).1 = sized ∧ sized.receive answered = t ∧
      t.viewport.bottom ≤ t.viewport.offset ∧ t.viewport.visible.getLast? = some "n? 7" := by
  have hheight : (4 : Int64) ≠ Int64.minValue + 1 := by decide
  have hstill : ((new "prog").update (.size 40 4)).1.unscrolledAll answered = true := by
    decide +kernel
  obtain ⟨hbottom, -, hlast⟩ := receive_follows_newest (new "prog") 40 hheight rfl hstill rfl
    (.inl ⟨rfl, rfl⟩)
  have hidle : (((new "prog").update (.size 40 4)).1.receive answered).pending.isSome = false := by
    decide +kernel
  have hlines : (((new "prog").update (.size 40 4)).1.receive answered).viewport.lines =
      ["1", "2", "3", "n? 7"] := by
    decide +kernel
  have hreached := hbottom.mpr fun h => by
    rw [hidle] at h
    cases h.1
  refine ⟨_, _, rfl, rfl, hreached, ?_⟩
  rw [hlast hreached, hlines]
  rfl

/-- While it is pending, the row with the prompt is not in sight. -/
theorem prompt_hides_newest :
    ∃ sized t, ((new "prog").update (.size 40 4)).1 = sized ∧
      sized.unscrolledAll questioned = true ∧ sized.receive questioned = t ∧
      ¬t.viewport.bottom ≤ t.viewport.offset ∧ t.viewport.lines = ["1", "2", "3", "n? "] ∧
      t.viewport.visible = ["2", "3"] := by
  refine ⟨_, _, rfl, ?_, rfl, ?_, ?_, ?_⟩
  · decide +kernel
  · decide +kernel
  · decide +kernel
  · decide +kernel

end Screen

end NumberedBasic
