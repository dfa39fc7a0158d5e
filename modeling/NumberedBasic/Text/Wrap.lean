import NumberedBasic.Text.Columns

/-! Breaking lines that are too wide for a window. Words are kept together where they fit; what is
still too wide is then cut at the last column. Both go through the text one character at a time, and
a control sequence is never broken: not even a newline in it ends a line. -/
namespace NumberedBasic.Text

/-- A text on its way to lines of whole words. Finished text, white space and word are kept in
reverse. -/
structure WordBreaker where
  done : List Char
  /-- The columns that count as taken on the line. A hyphen is not counted. -/
  taken : Nat
  /-- White space behind the finished text. -/
  gap : List Char
  /-- The word behind it. -/
  word : List Char
  wordColumns : Nat
  inSequence : Bool
  deriving DecidableEq, Repr

namespace WordBreaker

def start : WordBreaker := ⟨[], 0, [], [], 0, false⟩

/-- White space takes a column for each byte of it. -/
def gapSize (b : WordBreaker) : Nat := b.gap.foldl (fun n c => n + c.utf8Size) 0

def keepGap (b : WordBreaker) : WordBreaker :=
  { b with done := b.gap ++ b.done, taken := b.taken + b.gapSize, gap := [] }

def keepWord (b : WordBreaker) : WordBreaker :=
  if b.word.isEmpty then b
  else
    let b := b.keepGap
    { b with
      done := b.word ++ b.done
      taken := b.taken + b.wordColumns
      word := []
      wordColumns := 0 }

/-- Ends the line. White space at the break is lost. -/
def breakLine (b : WordBreaker) : WordBreaker :=
  { b with done := '\n' :: b.done, taken := 0, gap := [] }

/-- Ends the line at a newline of the text. White space before it is kept if it fits. -/
def newline (limit : Nat) (b : WordBreaker) : WordBreaker :=
  if b.word.isEmpty && b.taken + b.gapSize ≤ limit then b.keepGap.breakLine
  else b.keepWord.breakLine

/-- A line is broken before a word that passes the limit, but not for a word as wide as a line. -/
def letter (limit : Nat) (b : WordBreaker) (c : Char) : WordBreaker :=
  let b := { b with word := c :: b.word, wordColumns := b.wordColumns + columns c }
  if limit < b.taken + b.gapSize + b.wordColumns && b.wordColumns < limit then b.breakLine else b

def step (limit : Nat) (b : WordBreaker) (c : Char) : WordBreaker :=
  if c == '\x1b' then { b with word := c :: b.word, inSequence := true }
  else if b.inSequence then { b with word := c :: b.word, inSequence := !endsSequence c }
  else if isNewline c then b.newline limit
  else if isSpace c then { b.keepWord with gap := c :: b.keepWord.gap }
  else if c == '-' then { b.keepGap.keepWord with done := c :: b.keepGap.keepWord.done }
  else b.letter limit c

end WordBreaker

/-- Breaks lines between words. White space at the very end is lost. -/
def breakWords (limit : Nat) (text : List Char) : List Char :=
  (text.foldl (WordBreaker.step limit) WordBreaker.start).keepWord.done.reverse

/-- A text on its way to lines of limited width, kept in reverse. -/
structure ColumnBreaker where
  done : List Char
  taken : Nat
  /-- Whether the line was begun by a cut and nothing is on it yet. -/
  cut : Bool
  inSequence : Bool
  deriving DecidableEq, Repr

namespace ColumnBreaker

def start : ColumnBreaker := ⟨[], 0, false, false⟩

def keep (b : ColumnBreaker) (c : Char) : ColumnBreaker := { b with done := c :: b.done }

/-- Behind a cut, white space is left out. -/
def letter (limit : Nat) (b : ColumnBreaker) (c : Char) : ColumnBreaker :=
  let b :=
    if limit < b.taken + columns c then { b with done := '\n' :: b.done, taken := 0, cut := true }
    else b
  if b.taken = 0 then
    if b.cut && isSpace c then b else { b.keep c with taken := columns c }
  else { b.keep c with taken := b.taken + columns c, cut := false }

def step (limit : Nat) (b : ColumnBreaker) (c : Char) : ColumnBreaker :=
  if c == '\x1b' then { b.keep c with inSequence := true }
  else if b.inSequence then { b.keep c with inSequence := !endsSequence c }
  else if isNewline c then { b.keep c with taken := 0, cut := false }
  else b.letter limit c

end ColumnBreaker

/-- Cuts lines at the last column. -/
def breakColumns (limit : Nat) (text : List Char) : List Char :=
  (text.foldl (ColumnBreaker.step limit) ColumnBreaker.start).done.reverse

/-- The lines of a text in a window of the given width. -/
def wrap (limit : Nat) (text : List Char) : List (List Char) :=
  pieces isNewline (breakColumns limit (breakWords limit text))

end NumberedBasic.Text
