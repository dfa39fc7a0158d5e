import NumberedBasic.Batch
import NumberedBasic.Proofs.Batch.Document
import NumberedBasic.Proofs.Input.Chunks
import NumberedBasic.Proofs.Machine.Step
import NumberedBasic.Proofs.Text.Words
import NumberedBasic.Runner

/-! The command writes as it goes and reads line by line; a batch run has all its input beforehand
and collects what it writes. They come to the same. -/
namespace NumberedBasic
open Machine
open Text (Glyph)

/-- The first run collects what the second one sends out, and the words that wait in the queue of
the first are still to come in the second. -/
structure Mirrors (p q : Ports) : Prop where
  input : Chunked p.input q.input
  outputs : p.outputs = q.sent.filterMap Signal.output?

theorem inStep_mirrors (program : Program) (limit : Nat) :
    InStep ⟨program, limit, false⟩ ⟨program, limit, true⟩ Mirrors where
  program := rfl
  limit := rfl
  emit := by
    intro s t h out
    exact ⟨h.input, congrArg (out :: ·) h.outputs⟩
  read := by
    intro s t h r
    obtain ⟨hword, hinput⟩ := h.input.take s.hasWritten t.hasWritten
    have hsent := filterMap_output?_replicate (t.input.take t.hasWritten).2.2 r t.sent
    rw [readInteger_eq, readInteger_eq]
    exact ⟨⟨hinput, h.outputs.trans hsent.symm⟩, congrArg (accept r) hword⟩

/-- The exit of a command that writes the collected outputs and reports the error. -/
def Batch.Result.exit (r : Result) : Exit :=
  let stdout := String.join
    (r.outputs.map fun out => if out.newline then out.text ++ "\n" else out.text)
  match r.error with
  | none => ⟨0, stdout, ""⟩
  | some message => ⟨1, stdout, message ++ "\n"⟩

namespace Runner

theorem isSpace_of_isLineEnd {g : Glyph} (h : isLineEnd g = true) : g.isSpace = true := by
  simp only [isLineEnd, Bool.or_eq_true, beq_iff_eq] at h
  rcases h with rfl | rfl <;> decide

theorem fields_lineReply (text : List Glyph) :
    Text.fields (lineReply text).text = Text.fields text :=
  Text.words_trimEnd (fun _ h => isSpace_of_isLineEnd h) text

theorem fields_eq_flatMap_lines (text : List Glyph) :
    Text.fields text = (Text.pieces (· == Glyph.char '\n') text).flatMap Text.fields := by
  apply Text.words_eq_flatMap
  intro g hg
  apply isSpace_of_isLineEnd
  simp [isLineEnd, hg]

/-- Leaving out a last line that is empty leaves out no words. -/
theorem wordsOf_last (text : List Glyph) :
    wordsOf ([lineReply text].filter fun reply => !reply.text.isEmpty) = Text.fields text := by
  rw [← fields_lineReply text]
  cases hline : (lineReply text).text with
  | nil =>
      simp only [List.filter_cons, hline, List.isEmpty_nil, Bool.not_true]
      rfl
  | cons g rest => simp [hline, wordsOf]

theorem replies_provider (text : List Glyph) :
    ∃ lines last, Text.pieces (· == Glyph.char '\n') text = lines ++ [last] ∧
      (Stdin.provider ⟨text, none⟩ none).replies =
        lines.map lineReply ++ [lineReply last].filter fun reply => !reply.text.isEmpty := by
  have hne := Text.pieces_ne_nil (· == Glyph.char '\n') text
  obtain ⟨lines, last, hpieces⟩ := (List.eq_nil_or_concat _).resolve_left hne
  rw [List.concat_eq_append] at hpieces
  exact ⟨lines, last, hpieces, by simp [Stdin.provider, hpieces]⟩

/-- The lines of the input hold the words of the input. -/
theorem wordsOf_provider (text : List Glyph) :
    wordsOf (Stdin.provider ⟨text, none⟩ none).replies = Text.fields text := by
  obtain ⟨lines, last, hpieces, hreplies⟩ := replies_provider text
  have hlines : wordsOf (lines.map lineReply) = lines.flatMap Text.fields := by
    simp [wordsOf, List.flatMap_map, fields_lineReply]
  calc wordsOf (Stdin.provider ⟨text, none⟩ none).replies
      = wordsOf (lines.map lineReply)
          ++ wordsOf ([lineReply last].filter fun reply => !reply.text.isEmpty) := by
        rw [hreplies, wordsOf, List.flatMap_append]
        rfl
    _ = lines.flatMap Text.fields ++ Text.fields last := by rw [hlines, wordsOf_last]
    _ = Text.fields text := by
        rw [fields_eq_flatMap_lines text, hpieces, List.flatMap_append]
        simp

theorem harmless_provider (text : List Glyph) :
    ∀ r ∈ (Stdin.provider ⟨text, none⟩ none).replies, r.Harmless := by
  obtain ⟨lines, last, -, hreplies⟩ := replies_provider text
  rw [hreplies]
  intro r hr
  cases List.mem_append.mp hr with
  | inl hr =>
      obtain ⟨line, -, rfl⟩ := List.mem_map.mp hr
      exact .inl rfl
  | inr hr =>
      obtain rfl := List.mem_singleton.mp (List.mem_filter.mp hr).1
      exact .inl rfl

theorem chunked_provider (text : List Glyph) :
    Chunked ⟨Text.fields text, none⟩ ⟨[], some (Stdin.provider ⟨text, none⟩ none)⟩ := by
  have hchunked := @Chunked.mk [] _ (harmless_provider text)
  rw [wordsOf_provider] at hchunked
  exact hchunked

/-- What is collected from the words in the queue is what is sent out while the lines come in. -/
theorem run_streamed (program : Program) (text : List Glyph) (fuel : Nat) :
    let queued : Session := .new ⟨program, 0, false⟩ ⟨Text.fields text, none⟩
    let provided : Session :=
      .new ⟨program, 0, true⟩ ⟨[], some (Stdin.provider ⟨text, none⟩ none)⟩
    (provided.run fuel).map (fun (_, report) => (report.streamed, report.error)) =
      (queued.run fuel).map fun (_, report) => (report.outputs, report.error) := by
  intro queued provided
  have hports : Mirrors queued.initial.ports provided.initial.ports :=
    ⟨chunked_provider text, rfl⟩
  have halike : Alike Mirrors queued.initial provided.initial := ⟨hports, rfl⟩
  have hstep : InStep queued.machine provided.machine Mirrors := inStep_mirrors program 0
  rcases Session.run_agree hstep halike fuel with ⟨hqueued, hprovided⟩ | hboth
  · rw [hqueued, hprovided]
    rfl
  · obtain ⟨s, r, t, q, hqueued, hprovided, hagree⟩ := hboth
    have houtputs : r.outputs = q.streamed := by
      have hreverse := hagree.ports.outputs
      rw [Session.portsAfter, Session.portsAfter, List.filterMap_reverse, List.reverse_inj]
        at hreverse
      exact hreverse
    rw [hqueued, hprovided]
    simp [houtputs, hagree.error]

theorem exitOf_faulted (outputs : List Output) (error : Option LineFault) :
    exitOf (String.join (outputs.map Output.render)) (error.map .faulted) =
      Batch.Result.exit ⟨outputs, error.map LineFault.message⟩ := by
  cases error with
  | none => rfl
  | some e => rfl

theorem runSource_eq (fuel : Nat) (source text : String) :
    (runSource fuel (Text.withPlainNewlines source) 0 ⟨Glyph.ofString text, none⟩ none).map
        (fun (stdout, failure) => exitOf stdout failure) =
      (Batch.runQueued fuel source [text]).map Batch.Result.exit := by
  unfold runSource Batch.runQueued
  cases hsource : Session.ofSource (Text.withPlainNewlines source) with
  | error e => rfl
  | ok session =>
      obtain ⟨program, rfl⟩ := Session.ofSource_eq_ok hsource
      have hrun := run_streamed program (Glyph.ofString text) fuel
      -- Both exits are made of nothing but the outputs and the fault.
      have hexit := congrArg (Option.map fun (outputs, error) =>
        Batch.Result.exit ⟨outputs, error.map LineFault.message⟩) hrun
      simp only [Option.map_map, Function.comp_def, ← exitOf_faulted] at hexit ⊢
      exact hexit

/-- A program that is run as a command on a file writes what it gives back when it is handed the
same input beforehand, and fails with the message that it gives back there. This holds for any JSON
array of the one text, and there is one for every text. -/
theorem run_eq_batch {folder : Folder} {args : List String} {path : String} {content : List Glyph}
    (hargs : command args = .ok (⟨0, false⟩, path)) (hfile : folder.read path = .ok content)
    (text : String) (fuel : Nat) :
    Batch.inputs? (Batch.document [text]) = some [text] ∧
      ∀ json, Batch.inputs? json = some [text] →
        run fuel folder args ⟨Glyph.ofString text, none⟩ none =
          (Batch.run fuel (Glyph.toText content) json).map Batch.Result.exit := by
  refine ⟨Batch.inputs?_document [text], ?_⟩
  intro json hjson
  have hsource : folder.readSource path = .ok (Text.withPlainNewlines (Glyph.toText content)) := by
    rw [Folder.readSource, hfile]
    rfl
  simp only [run, hargs, hsource, Batch.run, hjson]
  exact runSource_eq fuel (Glyph.toText content) text

def sumSource : String := "10 input \"two\" a, b\r\n20 print a + b\r\n30 input c\r\n40 end"

def sumFolder : Folder := ⟨[("sum.bas", Glyph.ofString sumSource)]⟩

/-- A line with a carriage return, an empty line, and a last one without a newline. -/
def sumText : String := "1\r\n\n 2"

theorem run_eq_batch_sum :
    command ["sum.bas"] = .ok (⟨0, false⟩, "sum.bas") ∧
      sumFolder.read "sum.bas" = .ok (Glyph.ofString sumSource) ∧
      run 9 sumFolder ["sum.bas"] ⟨Glyph.ofString sumText, none⟩ none =
        some ⟨1, "two3\n", "error on line 30: unexpected end of input\n"⟩ ∧
      run 9 sumFolder ["sum.bas"] ⟨Glyph.ofString sumText, none⟩ none =
        (Batch.run 9 sumSource (Batch.document [sumText])).map Batch.Result.exit := by
  have hargs : command ["sum.bas"] = .ok (⟨0, false⟩, "sum.bas") := by decide +kernel
  have hfile : sumFolder.read "sum.bas" = .ok (Glyph.ofString sumSource) := by decide +kernel
  obtain ⟨hjson, hrun⟩ := run_eq_batch hargs hfile sumText 9
  refine ⟨hargs, hfile, by decide +kernel, ?_⟩
  rw [hrun _ hjson, Glyph.toText_ofString]

end Runner

end NumberedBasic
