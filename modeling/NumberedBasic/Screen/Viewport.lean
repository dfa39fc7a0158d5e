import NumberedBasic.Text.Columns

/-! A window onto lines of text that can be moved up and down. -/
namespace NumberedBasic

structure Viewport where
  width : Int
  height : Int
  /-- The number of lines above the window. -/
  offset : Int
  lines : List String
  deriving DecidableEq, Repr

namespace Viewport

/-- The offset at which the last line is just in sight. -/
def bottom (v : Viewport) : Int := max 0 (v.lines.length - v.height)

def scrollTo (v : Viewport) (offset : Int) : Viewport :=
  { v with offset := max 0 (min offset v.bottom) }

def toTop (v : Viewport) : Viewport := if v.offset ≤ 0 then v else v.scrollTo 0

def toBottom (v : Viewport) : Viewport := v.scrollTo v.bottom

/-- Replaces the lines. The window moves only if it would lie behind the last line. -/
def setContent (v : Viewport) (content : String) : Viewport :=
  let lines := (Text.pieces Text.isNewline (Text.plainNewlines content.toList)).map String.ofList
  let v := { v with lines }
  if (lines.length : Int) - 1 < v.offset then v.toBottom else v

def down (v : Viewport) (n : Int) : Viewport :=
  if v.bottom ≤ v.offset || n == 0 || v.lines.isEmpty then v else v.scrollTo (v.offset + n)

def up (v : Viewport) (n : Int) : Viewport :=
  if v.offset ≤ 0 || n == 0 || v.lines.isEmpty then v else v.scrollTo (v.offset - n)

/-- Moves by a line, half a page or a page. -/
def press (v : Viewport) : String → Viewport
  | "pgdown" | " " | "f" => v.down v.height
  | "pgup" | "b" => v.up v.height
  | "d" | "ctrl+d" => v.down (v.height / 2)
  | "u" | "ctrl+u" => v.up (v.height / 2)
  | "down" | "j" => v.down 1
  | "up" | "k" => v.up 1
  | _ => v

/-- The lines in sight. -/
def visible (v : Viewport) : List String := (v.lines.drop v.offset.toNat).take v.height.toNat

/-- At the bottom the earlier lines and the earlier offset are forgotten. -/
theorem toBottom_setContent (v : Viewport) (content : String) :
    (v.setContent content).toBottom =
      { v with lines := (Text.pieces Text.isNewline (Text.plainNewlines content.toList)).map
                 String.ofList }.toBottom := by
  unfold setContent
  dsimp only
  split <;> simp only [toBottom, scrollTo, bottom]

theorem press_width (v : Viewport) (key : String) : (v.press key).width = v.width := by
  unfold press
  split <;> simp only [down, up, scrollTo] <;> (try split) <;> rfl

theorem press_height (v : Viewport) (key : String) : (v.press key).height = v.height := by
  unfold press
  split <;> simp only [down, up, scrollTo] <;> (try split) <;> rfl

end Viewport

end NumberedBasic
