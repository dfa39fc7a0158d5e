import NumberedBasic.Proofs.Machine.Abreast

/-! It makes no difference to a program whether its words wait in the queue or come in with the
replies of a provider. -/
namespace NumberedBasic
open Machine

/-- An error that comes with a word is not noticed. -/
def Reply.Harmless (r : Reply) : Prop := r.error = none ∨ Text.fields r.text ≠ []

instance (r : Reply) : Decidable r.Harmless :=
  inferInstanceAs (Decidable (r.error = none ∨ Text.fields r.text ≠ []))

/-- The words of the replies, in order. -/
def wordsOf (replies : List Reply) : List Word := replies.flatMap fun r => Text.fields r.text

/-- The words that wait in the first queue wait in the second one or in the replies that are still
to come. -/
inductive Chunked : Input → Input → Prop
  | mk {queue : List Word} {replies : List Reply} :
      (∀ r ∈ replies, r.Harmless) →
      Chunked ⟨queue ++ wordsOf replies, none⟩ ⟨queue, some ⟨replies, .endOfInput, none⟩⟩

/-- Asking gives the first word of the replies, if there is one. -/
theorem askUntilWord_chunked {replies : List Reply} (h : ∀ r ∈ replies, r.Harmless)
    (unwritten : Bool) :
    (Input.take ⟨wordsOf replies, none⟩ unwritten).1 =
        (Input.askUntilWord .endOfInput replies).word ∧
      Chunked (Input.take ⟨wordsOf replies, none⟩ unwritten).2.1
        ⟨(Input.askUntilWord .endOfInput replies).queue,
          some ⟨(Input.askUntilWord .endOfInput replies).replies, .endOfInput, none⟩⟩ := by
  induction replies with
  | nil => exact ⟨rfl, @Chunked.mk [] [] h⟩
  | cons reply rest ih =>
      obtain ⟨hreply, hrest⟩ := List.forall_mem_cons.mp h
      rw [wordsOf, List.flatMap_cons, Input.askUntilWord]
      cases hwords : Text.fields reply.text with
      | cons word more => exact ⟨rfl, .mk hrest⟩
      | nil =>
          rw [hreply.resolve_right (by simp [hwords])]
          exact ih hrest

theorem Chunked.take {i j : Input} (h : Chunked i j) (unwritten unwritten' : Bool) :
    (i.take unwritten).1 = (j.take unwritten').1 ∧
      Chunked (i.take unwritten).2.1 (j.take unwritten').2.1 := by
  cases h with
  | @mk queue replies h =>
      cases queue with
      | cons word more => exact ⟨rfl, .mk h⟩
      | nil => exact askUntilWord_chunked h unwritten

def Signal.output? : Signal → Option Output
  | .output out => some out
  | .request _ => none

/-- The same output went out, and the same words are left. -/
structure SameWords (p q : Ports) : Prop where
  input : Chunked p.input q.input
  outputs : p.outputs = q.outputs
  streamed : p.sent.filterMap Signal.output? = q.sent.filterMap Signal.output?

theorem filterMap_output?_replicate (n : Nat) (r : Request) (sent : List Signal) :
    (List.replicate n (Signal.request r) ++ sent).filterMap Signal.output? =
      sent.filterMap Signal.output? := by
  simp [List.filterMap_append, Signal.output?]

theorem inStep_sameWords (m : Machine) : InStep m m SameWords where
  program := rfl
  limit := rfl
  emit := by
    intro s t h out
    obtain ⟨hinput, houtputs, hstreamed⟩ := h
    unfold emit
    cases m.streaming with
    | true => exact ⟨hinput, houtputs, congrArg (out :: ·) hstreamed⟩
    | false => exact ⟨hinput, congrArg (out :: ·) houtputs, hstreamed⟩
  read := by
    intro s t h r
    obtain ⟨hword, hinput⟩ := h.input.take s.hasWritten t.hasWritten
    rw [readInteger_eq, readInteger_eq]
    refine ⟨⟨hinput, h.outputs, ?_⟩, congrArg (accept r) hword⟩
    have hs := filterMap_output?_replicate (s.input.take s.hasWritten).2.2 r s.sent
    have ht := filterMap_output?_replicate (t.input.take t.hasWritten).2.2 r t.sent
    exact hs.trans (h.streamed.trans ht.symm)

theorem streamed_eq {r q : Report}
    (h : r.signals.reverse.filterMap Signal.output? = q.signals.reverse.filterMap Signal.output?) :
    r.streamed = q.streamed := by
  rw [List.filterMap_reverse, List.filterMap_reverse, List.reverse_inj] at h
  exact h

/-- However the words come in, a program that is given them all at once does the same, whatever
earlier runs have left: both runs go on for ever, or both come to an end with the same output, the
same variables and the same error. -/
theorem ends_chunked (program : Program) (limit : Nat) (streaming : Bool) (left left' : State)
    (queue : List Word) {replies : List Reply} (h : ∀ r ∈ replies, r.Harmless) :
    let whole : Session :=
      ⟨⟨program, limit, streaming⟩, { left with input := ⟨queue ++ wordsOf replies, none⟩ }⟩
    let chunked : Session :=
      ⟨⟨program, limit, streaming⟩,
        { left' with input := ⟨queue, some ⟨replies, .endOfInput, none⟩⟩ }⟩
    ((∀ s r, ¬ whole.Ends s r) ∧ ∀ t q, ¬ chunked.Ends t q) ∨
      ∃ s r t q, whole.Ends s r ∧ chunked.Ends t q ∧ r.outputs = q.outputs ∧
        r.streamed = q.streamed ∧ s.vars = t.vars ∧ r.error = q.error := by
  intro whole chunked
  have hports : SameWords whole.initial.ports chunked.initial.ports := ⟨.mk h, rfl, rfl⟩
  have halike : Alike SameWords whole.initial chunked.initial := ⟨hports, rfl⟩
  have hstep : InStep whole.machine chunked.machine SameWords := inStep_sameWords _
  refine (Session.ends_agree hstep halike).imp_right ?_
  rintro ⟨s, r, t, q, hwhole, hchunked, hvars, herror, hleft⟩
  exact ⟨s, r, t, q, hwhole, hchunked, List.reverse_inj.mp hleft.outputs,
    streamed_eq hleft.streamed, hvars, herror⟩

def threeInputs : Program :=
  .ofLines [⟨10, .input none ["a", "b", "c"]⟩,
    ⟨20, .print [.expr (.var "a"), .comma, .expr (.var "b"), .comma, .expr (.var "c")]⟩,
    ⟨30, .end_⟩]

/-- The second reply is blank, and the last one reports an error. -/
def threeReplies : List Reply :=
  [⟨Text.Glyph.ofString "1 2", none⟩, ⟨Text.Glyph.ofString " ", none⟩,
    ⟨Text.Glyph.ofString "3", some (.failed "lost")⟩]

def threeQueued : Session :=
  .new ⟨threeInputs, 0, false⟩ ⟨[] ++ wordsOf threeReplies, none⟩

def threeProvided : Session :=
  .new ⟨threeInputs, 0, false⟩ ⟨[], some ⟨threeReplies, .endOfInput, none⟩⟩

theorem ends_chunked_three :
    (∀ r ∈ threeReplies, r.Harmless) ∧
      (threeProvided.run 3).map (·.2.outputs) = some [⟨"1\t2\t3", true⟩] ∧
      ∃ s r t q, threeQueued.Ends s r ∧ threeProvided.Ends t q ∧ r.outputs = q.outputs ∧
        r.streamed = q.streamed ∧ s.vars = t.vars ∧ r.error = q.error := by
  have hharmless : ∀ r ∈ threeReplies, r.Harmless := by decide
  have hrun : (threeProvided.run 3).map (·.2.outputs) = some [⟨"1\t2\t3", true⟩] := by
    decide +kernel
  obtain ⟨⟨t, q⟩, hsome, -⟩ := Option.map_eq_some_iff.mp hrun
  refine ⟨hharmless, hrun, ?_⟩
  exact (ends_chunked threeInputs 0 false (.start .empty 0) (.start .empty 0) []
    hharmless).resolve_left
    fun hnever => hnever.2 t q ⟨3, hsome⟩

end NumberedBasic
