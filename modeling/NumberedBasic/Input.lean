import NumberedBasic.Decimal
import NumberedBasic.Text.Glyph

/-! Where INPUT takes its words from: a queue, and a provider that is asked when the queue is
empty. -/
namespace NumberedBasic
open Text (Glyph)

/-- A run of input without white space. -/
abbrev Word := List Glyph

/-- The integer that a word denotes. -/
def Word.toInt? (word : Word) : Option Int64 :=
  ((word.mapM Glyph.char?).bind Decimal.read?).map Int64.ofInt

/-- Why no word could be read. -/
inductive ReadError where
  | endOfInput
  | failed (reason : String)
  deriving DecidableEq, Repr

/-- The answer to one request. Its words count even when it reports an error. -/
structure Reply where
  text : List Glyph
  error : Option ReadError
  deriving DecidableEq, Repr

structure Provider where
  replies : List Reply
  /-- The answer to every request after the last reply. -/
  afterwards : ReadError
  /-- Why nothing can be written, where the output has to be written before a request is made. -/
  blocked : Option String
  deriving DecidableEq, Repr

structure Input where
  queue : List Word
  provider : Option Provider
  deriving DecidableEq, Repr

namespace Input

def empty : Input := ⟨[], none⟩

/-- Adds the words of a text behind those that wait. -/
def enqueue (input : Input) (text : List Glyph) : Input :=
  { input with queue := input.queue ++ Text.fields text }

/-- What came of an attempt to read a word. -/
structure Draw where
  word : Except ReadError Word
  queue : List Word
  replies : List Reply
  requests : Nat

/-- Asks until a reply holds a word or reports an error. A blank reply is asked for again. -/
def askUntilWord (afterwards : ReadError) : List Reply → Draw
  | [] => ⟨.error afterwards, [], [], 1⟩
  | reply :: rest =>
      match Text.fields reply.text, reply.error with
      | word :: more, _ => ⟨.ok word, more, rest, 1⟩
      | [], some e => ⟨.error e, [], rest, 1⟩
      | [], none =>
          let draw := askUntilWord afterwards rest
          { draw with requests := draw.requests + 1 }

/-- Takes the next word, with the number of requests made for it. The flag says whether there is
output still to be written. -/
def take (input : Input) (unwritten : Bool) : Except ReadError Word × Input × Nat :=
  match input.queue, input.provider with
  | word :: more, _ => (.ok word, { input with queue := more }, 0)
  | [], none => (.error .endOfInput, input, 0)
  | [], some provider =>
      match provider.blocked, unwritten with
      | some reason, true => (.error (.failed reason), input, 1)
      | _, _ =>
          let draw := askUntilWord provider.afterwards provider.replies
          (draw.word, ⟨draw.queue, some { provider with replies := draw.replies }⟩, draw.requests)

end Input

end NumberedBasic
