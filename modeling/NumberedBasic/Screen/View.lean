import NumberedBasic.Screen.Model
import NumberedBasic.Text.Wrap

/-! The screen as text. -/
namespace NumberedBasic.Screen

/-- Adds blank lines up to the height. -/
def fill (height : Nat) (rows : List (List Char)) : List (List Char) :=
  rows ++ List.replicate (height - rows.length) []

/-- The lines in sight, as a block of the size of the window. Lines that are too wide are broken,
and what then lies below the window is not shown. A window without a width breaks no lines. -/
def viewportText (v : Viewport) : String :=
  let text := (Text.expandTabs ("\n".intercalate v.visible)).toList
  let width := v.width.toNat
  let height := v.height.toNat
  let rows := if width = 0 then Text.pieces Text.isNewline text else Text.wrap width text
  let rows := Text.evenLines width (fill height rows)
  if width = 0 then Text.joinLines rows
  else Text.joinLines ((rows.map (Text.clip width)).take height)

/-- A placeholder has as many characters as it has columns, but at most one more than the field, and
is shown without line ends. Characters that it lacks for that are null characters. -/
def placeholderText (f : Field) : List Char :=
  let width := f.width.toInt.toNat
  let text := f.placeholder.toList
  let taken := Text.widest (Text.pieces Text.isNewline text)
  let count := min taken (width + 1)
  let shown :=
    if width = 0 then text else text.take count ++ List.replicate (count - text.length) '\x00'
  let padding := if width = 0 then 0 else width + 1 - taken
  shown.filter (!Text.isNewline ·) ++ List.replicate padding ' '

/-- The part of the value in sight. At its end the cursor takes a column of its own. -/
def valueText (f : Field) : List Char :=
  let text := if f.windowEnd ≤ f.cursor then f.inSight ++ [' '] else f.inSight
  let padding := if 0 < f.width then f.width.toInt.toNat + 1 - Text.clusterColumns text else 0
  text ++ List.replicate padding ' '

/-- The value or, in its place, the placeholder. -/
def fieldText (f : Field) : String :=
  let shown :=
    if f.value.isEmpty && !f.placeholder.isEmpty then placeholderText f else valueText f
  " > " ++ Text.expandTabs (String.ofList shown) ++ " "

def view (s : Screen) : String :=
  if s.ready then
    viewportText s.viewport ++ "\n" ++ Text.block s.status
      ++ (if s.pending.isSome then "\n" ++ fieldText s.field else "")
  else "initializing..."

end NumberedBasic.Screen
