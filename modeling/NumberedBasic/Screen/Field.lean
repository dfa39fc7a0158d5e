import NumberedBasic.Text.Cluster

/-! A line of text that is being typed. A text that is wider than the field is shown through a
window that follows the cursor. -/
namespace NumberedBasic

/-- A key by its name, with the characters it types. What the terminal reports has the name it is
written with: `alt+b` with Alt held down, `[text]` for a text that is pasted, else the characters
themselves. Enter and Ctrl+C alone are told by which key was pressed. With Alt held down they are
still `enter` and `ctrl+c`, and characters that arrive at once and spell one of the two have another
name, as the pasted `[enter]` does. -/
structure Key where
  name : String
  chars : List Char
  deriving DecidableEq, Repr

namespace Key

/-- The keys that type nothing. -/
def silent : List String :=
  ["enter", "ctrl+c", "home", "end", "up", "down", "pgup", "pgdown", "left", "right", "backspace",
   "esc"]

def ofName (name : String) : Key := ⟨name, if silent.contains name then [] else name.toList⟩

end Key

structure Field where
  before : List Char
  after : List Char
  placeholder : String
  focused : Bool
  width : Int64
  /-- How many characters precede the window. -/
  windowStart : Nat
  /-- How many characters precede the end of the window. -/
  windowEnd : Nat
  deriving DecidableEq, Repr

namespace Field

def empty : Field := ⟨[], [], "", false, 0, 0, 0⟩

def value (f : Field) : List Char := f.before ++ f.after

def cursor (f : Field) : Nat := f.before.length

def clear (f : Field) : Field :=
  { f with before := [], after := [], windowStart := 0, windowEnd := 0 }

/-- The part of the value in the window. -/
def inSight (f : Field) : List Char := (f.value.take f.windowEnd).drop f.windowStart

/-- How many characters fit behind the cursor, if the given number of columns is taken. The cursor
may stand in a column of its own. -/
def fitAfter (width : Nat) : Nat → List Char → Nat
  | _, [] => 0
  | taken, c :: rest =>
      let taken' := taken + Text.columns c
      if taken ≤ width && taken' ≤ width + 1 then fitAfter width taken' rest + 1 else 0

/-- How many characters fit before the cursor, of which the nearest comes first. The very first
character of the field is not counted. -/
def fitBefore (width : Nat) : Nat → List Char → Nat
  | taken, c :: next :: rest =>
      let taken' := taken + Text.columns c
      if taken < width && taken' ≤ width then fitBefore width taken' (next :: rest) + 1 else 0
  | _, _ => 0

/-- Moves the window as little as the cursor asks for. A value that fits is shown whole, and so is
any value in a field without a width. A window that has followed the cursor back to the end of the
value holds nothing, and is filled when it is moved once more. -/
def reveal (f : Field) : Field :=
  let width := f.width.toInt.toNat
  if width = 0 ∨ Text.clusterColumns f.value ≤ width then
    { f with windowStart := 0, windowEnd := f.value.length }
  else
    let windowEnd := min f.windowEnd f.value.length
    if f.cursor < f.windowStart then
      { f with windowStart := f.cursor, windowEnd := f.cursor + fitAfter width 0 f.after }
    else if windowEnd ≤ f.cursor then
      { f with windowStart := f.cursor - fitBefore width 0 f.before.reverse, windowEnd := f.cursor }
    else { f with windowEnd }

/-- Moves the cursor. -/
def moveTo (f : Field) (cursor : Nat) : Field :=
  { f with before := f.value.take cursor, after := f.value.drop cursor }.reveal

/-- How many characters a field holds at most. -/
def capacity : Nat := 4096

def isControl (c : Char) : Bool := c.toNat < 0x20 || (0x7f ≤ c.toNat && c.toNat < 0xa0)

/-- Tabs and line ends are typed as spaces; other characters without a shape are not typed. -/
def typed (chars : List Char) : List Char :=
  chars.filterMap fun c =>
    if c == '\t' || c == '\n' || c == '\r' then some ' '
    else if isControl c || c == '\ufffd' then none
    else some c

def insert (f : Field) (chars : List Char) : Field :=
  { f with before := f.before ++ (typed chars).take (capacity - f.value.length) }

/-- What follows the first word and the white space before it. -/
def afterWord (text : List Char) : List Char :=
  (text.dropWhile Text.isSpace).dropWhile fun c => !Text.isSpace c

/-- What precedes the last word and the white space behind it. -/
def beforeWord (text : List Char) : List Char := (afterWord text.reverse).reverse

/-- Moves the cursor to the start of a word. -/
def wordLeft (f : Field) : Field := f.moveTo (beforeWord f.before).length

/-- Moves the cursor to the end of a word. -/
def wordRight (f : Field) : Field := f.moveTo (f.value.length - (afterWord f.after).length)

/-- Deletes the word before the cursor. The white space before it stays, unless it is a single
character at the start of the field. The cursor passes over what is deleted, and over one character
more. -/
def deleteWordLeft (f : Field) : Field :=
  let kept := beforeWord f.before
  let start := if kept.length = 1 then 0 else kept.length
  if f.before.isEmpty then f
  else { ((f.moveTo (start - 1)).moveTo start) with after := f.after }

/-- Deletes the word behind the cursor. The character at the cursor goes with it, even if it is the
last of its own word. The cursor passes over what is deleted and comes back. -/
def deleteWordRight (f : Field) : Field :=
  let kept := afterWord f.after.tail
  { f.moveTo (f.value.length - kept.length) with before := f.before, after := kept }.reveal

/-- Deletes what stands before the cursor and shows the start of the rest. -/
def deleteBefore (f : Field) : Field := { f with before := [], windowStart := 0 }

/-- What a key does to the text and the cursor. The window follows a cursor that goes back. -/
def edit (f : Field) (key : Key) : Field :=
  match key.name with
  | "backspace" | "ctrl+h" => { f with before := f.before.dropLast }.reveal
  | "delete" | "ctrl+d" => { f with after := f.after.tail }
  | "left" | "ctrl+b" => f.moveTo (f.cursor - 1)
  | "right" | "ctrl+f" => f.moveTo (f.cursor + 1)
  | "home" | "ctrl+a" => f.moveTo 0
  | "end" | "ctrl+e" => f.moveTo f.value.length
  | "ctrl+k" => { f with after := [] }
  | "ctrl+u" => f.deleteBefore
  | "alt+left" | "alt+b" => f.wordLeft
  | "alt+right" | "alt+f" => f.wordRight
  | "alt+backspace" | "ctrl+w" => f.deleteWordLeft
  | "alt+delete" | "alt+d" => f.deleteWordRight
  | "ctrl+n" | "ctrl+p" => f
  | _ => f.insert key.chars

/-- A field that is not focused takes no keys. There is nothing to paste from. -/
def press (f : Field) (key : Key) : Field :=
  if f.focused && key.name != "ctrl+v" then (f.edit key).reveal else f

end Field

end NumberedBasic
