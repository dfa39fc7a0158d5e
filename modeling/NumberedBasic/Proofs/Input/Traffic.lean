import NumberedBasic.Proofs.Machine.Step

/-! What goes into the queue of words and what comes out of it: nothing is lost, nothing comes twice
and nothing is overtaken, and the provider is asked only when the queue is empty. -/
namespace NumberedBasic
open Text (Glyph)

/-- What happens to the queue. -/
inductive Traffic where
  | enqueue (text : List Glyph)
  | ask (r : Request) (reply : Reply)
  | take (word : Word)
  deriving DecidableEq, Repr

namespace Traffic

def arrivals : Traffic → List Word
  | .enqueue text => Text.fields text
  | .ask _ reply => Text.fields reply.text
  | .take _ => []

def word? : Traffic → Option Word
  | .take word => some word
  | _ => none

def request? : Traffic → Option Request
  | .ask r _ => some r
  | _ => none

/-- The words that came in, in the order in which they came. -/
def arrived (log : List Traffic) : List Word := log.flatMap arrivals

/-- The words that INPUT took, in the order in which it took them. -/
def taken (log : List Traffic) : List Word := log.filterMap word?

/-- The requests that were made of the provider. -/
def requested (log : List Traffic) : List Request := log.filterMap request?

theorem requested_append (log more : List Traffic) :
    requested (log ++ more) = requested log ++ requested more := List.filterMap_append

/-- The traffic of a queue, from what it held before to what it holds afterwards. -/
inductive Flows : List Word → List Traffic → List Word → Prop
  | done (queue : List Word) : Flows queue [] queue
  | enqueue {queue final : List Word} {text : List Glyph} {log : List Traffic} :
      Flows (queue ++ Text.fields text) log final → Flows queue (.enqueue text :: log) final
  | ask {final : List Word} {r : Request} {reply : Reply} {log : List Traffic} :
      Flows (Text.fields reply.text) log final → Flows [] (.ask r reply :: log) final
  | take {queue final : List Word} {word : Word} {log : List Traffic} :
      Flows queue log final → Flows (word :: queue) (.take word :: log) final

theorem Flows.append {a b c : List Word} {log more : List Traffic} (h : Flows a log b)
    (h' : Flows b more c) : Flows a (log ++ more) c := by
  induction h with
  | done queue => exact h'
  | enqueue _ ih => exact .enqueue (ih h')
  | ask _ ih => exact .ask (ih h')
  | take _ ih => exact .take (ih h')

/-- Whatever was in the queue or came into it has been taken or is still there, in order. -/
theorem Flows.conserves {a b : List Word} {log : List Traffic} (h : Flows a log b) :
    a ++ arrived log = taken log ++ b := by
  induction h with
  | done queue => exact List.append_nil queue
  | @enqueue queue final text log _ ih =>
      calc queue ++ arrived (.enqueue text :: log)
          = (queue ++ Text.fields text) ++ arrived log := (List.append_assoc ..).symm
        _ = taken log ++ final := ih
  | ask _ ih => exact ih
  | take _ ih => exact congrArg (List.cons _) ih

/-- By the time the provider is asked, every word has been taken. -/
theorem Flows.taken_of_ask {a b : List Word} {front back : List Traffic} {r : Request}
    {reply : Reply} (h : Flows a (front ++ .ask r reply :: back) b) :
    a ++ arrived front = taken front := by
  induction front generalizing a with
  | nil =>
      cases h with
      | ask h => rfl
  | cons event front ih =>
      cases h with
      | @enqueue queue final text log h =>
          have hrest := ih h
          rw [List.append_assoc] at hrest
          exact hrest
      | ask h => exact ih h
      | take h => exact congrArg (List.cons _) (ih h)

end Traffic

/-- One request made of a provider: what comes back, and what is left of the provider. -/
def Provider.answer (p : Provider) (unwritten : Bool) : Reply × Provider :=
  match p.blocked, unwritten with
  | some reason, true => (⟨[], some (.failed reason)⟩, p)
  | _, _ =>
      match p.replies with
      | [] => (⟨[], some p.afterwards⟩, p)
      | reply :: rest => (reply, { p with replies := rest })

namespace Input

/-- How a word is read, one request at a time: from the queue if it holds one, and otherwise by
asking the provider, whose words go into the queue. Its error counts only if the queue is still
empty. -/
inductive Reads (r : Request) (unwritten : Bool) :
    Input → List Traffic → Except ReadError Word → Input → Prop
  | front {word : Word} {more : List Word} {provider : Option Provider} :
      Reads r unwritten ⟨word :: more, provider⟩ [.take word] (.ok word) ⟨more, provider⟩
  | nowhere : Reads r unwritten ⟨[], none⟩ [] (.error .endOfInput) ⟨[], none⟩
  | refused {p q : Provider} {reply : Reply} {e : ReadError} :
      p.answer unwritten = (reply, q) → Text.fields reply.text = [] → reply.error = some e →
      Reads r unwritten ⟨[], some p⟩ [.ask r reply] (.error e) ⟨[], some q⟩
  | again {p q : Provider} {reply : Reply} {log : List Traffic} {word : Except ReadError Word}
      {final : Input} :
      p.answer unwritten = (reply, q) → Text.fields reply.text ≠ [] ∨ reply.error = none →
      Reads r unwritten ((⟨[], some q⟩ : Input).enqueue reply.text) log word final →
      Reads r unwritten ⟨[], some p⟩ (.ask r reply :: log) word final

/-- The replies that are heard until one holds a word or reports an error. -/
def heardUntilWord (afterwards : ReadError) : List Reply → List Reply
  | [] => [⟨[], some afterwards⟩]
  | reply :: rest =>
      match Text.fields reply.text, reply.error with
      | [], none => reply :: heardUntilWord afterwards rest
      | _, _ => [reply]

/-- The replies that are heard before a word can be taken. -/
def heard (input : Input) (unwritten : Bool) : List Reply :=
  match input.queue, input.provider with
  | [], some p =>
      match p.blocked, unwritten with
      | some reason, true => [⟨[], some (.failed reason)⟩]
      | _, _ => heardUntilWord p.afterwards p.replies
  | _, _ => []

def wordLog : Except ReadError Word → List Traffic
  | .ok word => [.take word]
  | .error _ => []

/-- The traffic of taking a word. -/
def takeLog (r : Request) (input : Input) (unwritten : Bool) : List Traffic :=
  (input.heard unwritten).map (.ask r) ++ wordLog (input.take unwritten).1

/-- Asking until there is a word is asking one request at a time. -/
theorem askUntilWord_reads (r : Request) {p : Provider} {unwritten : Bool} {replies : List Reply}
    (hanswer : ∀ reply rest,
      { p with replies := reply :: rest }.answer unwritten = (reply, { p with replies := rest }))
    (hlast : { p with replies := [] }.answer unwritten =
      (⟨[], some p.afterwards⟩, { p with replies := [] })) :
    Reads r unwritten ⟨[], some { p with replies }⟩
      ((heardUntilWord p.afterwards replies).map (.ask r) ++
        wordLog (askUntilWord p.afterwards replies).word)
      (askUntilWord p.afterwards replies).word
      ⟨(askUntilWord p.afterwards replies).queue,
        some { p with replies := (askUntilWord p.afterwards replies).replies }⟩ := by
  induction replies with
  | nil => exact .refused hlast rfl rfl
  | cons reply rest ih =>
      rw [heardUntilWord, askUntilWord]
      cases hwords : Text.fields reply.text with
      | cons word more =>
          refine .again (hanswer reply rest) (.inl (by simp [hwords])) ?_
          rw [enqueue, hwords]
          exact .front
      | nil =>
          cases herror : reply.error with
          | some e => exact .refused (hanswer reply rest) hwords herror
          | none =>
              refine .again (hanswer reply rest) (.inr herror) ?_
              rw [enqueue, hwords]
              exact ih

theorem take_reads (r : Request) (input : Input) (unwritten : Bool) :
    Reads r unwritten input (input.takeLog r unwritten) (input.take unwritten).1
      (input.take unwritten).2.1 := by
  obtain ⟨queue, provider⟩ := input
  cases queue with
  | cons word more => exact .front
  | nil =>
      cases provider with
      | none => exact .nowhere
      | some p =>
          obtain ⟨replies, afterwards, blocked⟩ := p
          cases blocked with
          | none =>
              exact askUntilWord_reads r (p := ⟨replies, afterwards, none⟩) (fun _ _ => rfl) rfl
          | some reason =>
              cases unwritten with
              | true => exact .refused rfl rfl rfl
              | false =>
                  exact askUntilWord_reads r (p := ⟨replies, afterwards, some reason⟩)
                    (fun _ _ => rfl) rfl

theorem Reads.flows {r : Request} {unwritten : Bool} {i j : Input} {log : List Traffic}
    {word : Except ReadError Word} (h : Reads r unwritten i log word j) :
    Traffic.Flows i.queue log j.queue := by
  induction h with
  | front => exact .take (.done _)
  | nowhere => exact .done _
  | refused hanswer hblank herror =>
      refine .ask ?_
      rw [hblank]
      exact .done _
  | again hanswer hgoes hreads ih => exact .ask ih

theorem length_heardUntilWord (afterwards : ReadError) (replies : List Reply) :
    (heardUntilWord afterwards replies).length = (askUntilWord afterwards replies).requests := by
  induction replies with
  | nil => rfl
  | cons reply rest ih =>
      rw [heardUntilWord, askUntilWord]
      cases Text.fields reply.text with
      | cons word more => rfl
      | nil =>
          cases reply.error with
          | some e => rfl
          | none => exact congrArg Nat.succ ih

/-- One reply is heard for each request. -/
theorem length_heard (input : Input) (unwritten : Bool) :
    (input.heard unwritten).length = (input.take unwritten).2.2 := by
  obtain ⟨queue, provider⟩ := input
  cases queue with
  | cons word more => cases provider <;> rfl
  | nil =>
      cases provider with
      | none => rfl
      | some p =>
          obtain ⟨replies, afterwards, blocked⟩ := p
          cases blocked with
          | none => exact length_heardUntilWord afterwards replies
          | some reason =>
              cases unwritten with
              | true => rfl
              | false => exact length_heardUntilWord afterwards replies

theorem requested_takeLog (r : Request) (input : Input) (unwritten : Bool) :
    Traffic.requested (input.takeLog r unwritten) =
      List.replicate (input.take unwritten).2.2 r := by
  have hasks : ∀ replies : List Reply, Traffic.requested (replies.map (.ask r)) =
      List.replicate replies.length r := by
    intro replies
    induction replies with
    | nil => rfl
    | cons reply replies ih => exact congrArg (List.cons r) ih
  have hword : Traffic.requested (wordLog (input.take unwritten).1) = [] := by
    cases (input.take unwritten).1 with
    | ok word => rfl
    | error e => rfl
  rw [takeLog, Traffic.requested_append, hasks, hword, length_heard, List.append_nil]

end Input

end NumberedBasic
