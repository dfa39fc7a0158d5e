import NumberedBasic.Text.Columns
import NumberedBasic.Text.Mark

/-! How many columns a text takes if characters that are shown as one are counted as one: a letter
with its marks, a flag of two letters, a Korean syllable in its parts, pictographs that are joined.
Clusters and tables are those of Unicode 15.0. -/
namespace NumberedBasic.Text

/-- Control and format characters. They have no column and join with nothing. -/
def formatRanges : List (Nat × Nat) :=
  [(0x0, 0x1f), (0x7f, 0x9f), (0xad, 0xad), (0x61c, 0x61c), (0x180e, 0x180e), (0x200b, 0x200b),
   (0x200e, 0x200f), (0x2028, 0x202e), (0x2060, 0x206f), (0xfeff, 0xfeff), (0xfff0, 0xfffb),
   (0x13430, 0x1343f), (0x1bca0, 0x1bca3), (0x1d173, 0x1d17a), (0xe0000, 0xe001f),
   (0xe0080, 0xe00ff), (0xe01f0, 0xe0fff)]

/-- Characters that take two columns since Unicode 14.0 or 15.0. -/
def laterWideRanges : List (Nat × Nat) :=
  [(0x1aff0, 0x1aff3), (0x1aff5, 0x1affb), (0x1affd, 0x1affe), (0x1b11f, 0x1b122),
   (0x1b132, 0x1b132), (0x1b155, 0x1b155), (0x1f6dc, 0x1f6df), (0x1f7f0, 0x1f7f0),
   (0x1f979, 0x1f979), (0x1f9cc, 0x1f9cc), (0x1fa75, 0x1fa77), (0x1fa7b, 0x1fa7c),
   (0x1fa87, 0x1fa88), (0x1faa9, 0x1faaf), (0x1fab7, 0x1fabd), (0x1fabf, 0x1fabf),
   (0x1fac3, 0x1fac5), (0x1face, 0x1facf), (0x1fad7, 0x1fadb), (0x1fae0, 0x1fae8),
   (0x1faf0, 0x1faf8)]

/-- Pictographs that are wide in East Asian text, but are not shown in colour unless asked for. -/
def narrowPictureRanges : List (Nat × Nat) :=
  [(0x3030, 0x3030), (0x303d, 0x303d), (0x3297, 0x3297), (0x3299, 0x3299), (0x1f202, 0x1f202),
   (0x1f237, 0x1f237), (0x1f260, 0x1f265)]

def isWide (c : Char) : Bool :=
  (inRanges c.toNat wideRanges || inRanges c.toNat laterWideRanges)
    && !inRanges c.toNat narrowPictureRanges

/-- What a character is to its neighbours. The parts of a Korean syllable are a lead, a vowel and a
tail; a syllable of its own is open if it has no tail. -/
inductive Role where
  | other
  | format
  | mark
  | spacingMark
  | leadingMark
  | joiner
  | flagLetter
  | picture
  | lead
  | vowel
  | tail
  | openSyllable
  | closedSyllable
  deriving DecidableEq, Repr

namespace Role

/-- Syllables come in groups of one that is open and one for each tail. -/
def ofSyllable (n : Nat) : Role := if (n - 0xac00) % 28 = 0 then openSyllable else closedSyllable

def ofChar (c : Char) : Role :=
  let n := c.toNat
  if inRanges n formatRanges then format
  else if isMark c then mark
  else if isSpacingMark c then spacingMark
  else if isLeadingMark c then leadingMark
  else if c == '\u200d' then joiner
  else if isPicture c then picture
  else if inRanges n [(0x1f1e6, 0x1f1ff)] then flagLetter
  else if inRanges n [(0x1100, 0x115f), (0xa960, 0xa97c)] then lead
  else if inRanges n [(0x1160, 0x11a7), (0xd7b0, 0xd7c6)] then vowel
  else if inRanges n [(0x11a8, 0x11ff), (0xd7cb, 0xd7fb)] then tail
  else if inRanges n [(0xac00, 0xd7a3)] then ofSyllable n
  else other

end Role

/-- The columns of a character that stands alone. The longest dashes take three and four. -/
def ownColumns (c : Char) : Nat :=
  match Role.ofChar c with
  | .format | .mark | .joiner => 0
  | .flagLetter => 2
  | _ => if c == '\u2e3a' then 3 else if c == '\u2e3b' then 4 else if isWide c then 2 else 1

/-- What may follow within a cluster. Marks and joiners may follow all but a format character. -/
inductive Ending where
  /-- Not even a mark. -/
  | closed
  /-- Marks alone. -/
  | plain
  /-- Any character that is not a format character. -/
  | leadingMark
  /-- The second letter of a flag. -/
  | flag
  /-- Any part of a Korean syllable. -/
  | lead
  /-- A further vowel, or a tail. -/
  | vowel
  /-- A further tail. -/
  | tail
  /-- A joiner that joins another pictograph. -/
  | picture
  /-- The pictograph behind a joiner. -/
  | joined
  deriving DecidableEq, Repr

namespace Ending

/-- Behind a character that begins a cluster. -/
def ofRole : Role → Ending
  | .format => closed
  | .leadingMark => leadingMark
  | .flagLetter => flag
  | .lead => lead
  | .vowel | .openSyllable => vowel
  | .tail | .closedSyllable => tail
  | .picture => picture
  | .other | .mark | .spacingMark | .joiner => plain

/-- Behind a further character, if it belongs to the cluster. -/
def join? : Ending → Role → Option Ending
  | _, .format | closed, _ => none
  | picture, .mark | joined, .picture => some picture
  | picture, .joiner => some joined
  | _, .mark | _, .joiner | _, .spacingMark => some plain
  | leadingMark, role => some (ofRole role)
  | flag, .flagLetter => some plain
  | lead, .lead => some lead
  | lead, .vowel | lead, .openSyllable | vowel, .vowel => some vowel
  | lead, .closedSyllable | vowel, .tail | tail, .tail => some tail
  | _, _ => none

end Ending

/-- The columns of a cluster with one more character, by the role of its first. Two marks choose
between the shapes of a character, in colour and in text; a pictograph with anything else is shown
in colour. -/
def joinedColumns (first : Role) (taken : Nat) (c : Char) : Nat :=
  if c == '\ufe0f' then 2
  else match first with
    | .picture => if c == '\ufe0e' then 1 else 2
    | .flagLetter | .lead => taken
    | _ => taken + ownColumns c

/-- The columns of a cluster and the text behind it. The cluster is given by the role of its first
character, its ending and its columns. -/
def columnsBehind (first : Role) : Ending → Nat → List Char → Nat
  | _, taken, [] => taken
  | ending, taken, c :: rest =>
      let role := Role.ofChar c
      match ending.join? role with
      | some next => columnsBehind first next (joinedColumns first taken c) rest
      | none => taken + columnsBehind role (.ofRole role) (ownColumns c) rest

def clusterColumns (text : List Char) : Nat := columnsBehind .format .closed 0 text

end NumberedBasic.Text
