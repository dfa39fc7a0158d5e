import NumberedBasic.Text.Glyph
import NumberedBasic.Text.Space

/-! What a command finds, files by their paths in the working directory, and what it leaves
behind. -/
namespace NumberedBasic

structure Folder where
  files : List (String × List Text.Glyph)
  deriving Repr

namespace Folder

inductive Error where
  | missing
  | isDirectory
  | notDirectory
  | tooLong
  | invalid
  deriving DecidableEq, Repr

def Error.message (path : String) : Error → String
  | .missing => "open " ++ path ++ ": no such file or directory"
  | .isDirectory => "read " ++ path ++ ": is a directory"
  | .notDirectory => "open " ++ path ++ ": not a directory"
  | .tooLong => "open " ++ path ++ ": file name too long"
  | .invalid => "open " ++ path ++ ": invalid argument"

def components (path : String) : List String :=
  (Text.pieces (· == '/') path.toList).map String.ofList

/-- Steps that stay where they are. -/
def isIdle (component : String) : Bool := component == "" || component == "."

def file? (folder : Folder) (place : List String) : Option (List Text.Glyph) :=
  (folder.files.find? fun (path, _) =>
    ((components path).filter fun c => !isIdle c) == place).map (·.2)

def hasDirectory (folder : Folder) (place : List String) : Bool :=
  folder.files.any fun (path, _) =>
    let place' := (components path).filter fun c => !isIdle c
    place.isPrefixOf place' && place.length < place'.length

/-- The directory above one in the working directory, unless it is the working directory. -/
def above? (place : List String) : Option (List String) :=
  if place.isEmpty then none else some place.dropLast

/-- How many bytes a single name takes at most. -/
def nameLimit : Nat := 255

/-- How many bytes a path takes at most. -/
def pathLimit : Nat := 4095

/-- Follows a path from a directory. The directories above the working directory are there, but
nothing is known to be in them; going up leads to another of them. -/
def walk (folder : Folder) (here : Option (List String)) :
    List String → Except Error (List Text.Glyph)
  | [] => .error .isDirectory
  | component :: rest =>
      if isIdle component then walk folder here rest
      else if component == ".." then walk folder (here.bind above?) rest
      else if nameLimit < component.utf8ByteSize then .error .tooLong
      else match here with
        | none => .error .missing
        | some names =>
            let place := names ++ [component]
            match folder.file? place with
            | some text => if rest.isEmpty then .ok text else .error .notDirectory
            | none =>
                if folder.hasDirectory place then walk folder (some place) rest
                else .error .missing

def read (folder : Folder) (path : String) : Except Error (List Text.Glyph) :=
  if path.isEmpty then .error .missing
  else if path.toList.contains '\x00' then .error .invalid
  else if pathLimit < path.utf8ByteSize then .error .tooLong
  else match components path with
    | "" :: rest => walk folder none rest
    | steps => walk folder (some []) steps

/-- A program's text, with plain newlines. -/
def readSource (folder : Folder) (path : String) : Except Error String :=
  (folder.read path).map fun text => Text.withPlainNewlines (Text.Glyph.toText text)

end Folder

/-- What a command leaves behind. -/
structure Exit where
  code : Nat
  stdout : String
  stderr : String
  deriving DecidableEq, Repr

namespace Exit

def success (stdout : String) : Exit := ⟨0, stdout, ""⟩

/-- A failure reported in one line. -/
def failure (code : Nat) (message : String) : Exit := ⟨code, "", message ++ "\n"⟩

end Exit

end NumberedBasic
