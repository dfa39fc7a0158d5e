import Mathlib.Data.List.Forall2
import NumberedBasic.Proofs.Input.Traffic
import NumberedBasic.Proofs.Machine.Aftermath
import NumberedBasic.Proofs.Text.Words
import NumberedBasic.Proofs.Token.Spelling

/-! What PRINT writes, INPUT can read. Values that are printed with commas between them come out as
decimal numerals with tabs between them. Given to an INPUT of as many variables, in the queue or in
one reply, that text gives each variable its value and leaves no word over. -/
namespace NumberedBasic
open Text (Glyph)

namespace Decimal

/-- There is no white space in a numeral. -/
theorem Denotes.isSpace_eq_false {cs : List Char} {n : Int} (h : Denotes cs n) :
    ∀ c ∈ cs, Text.isSpace c = false := by
  have hdigits {cs : List Char} {n : Nat} (h : Digits cs n) : ∀ c ∈ cs, Text.isSpace c = false :=
    fun c hc => isSpace_of_isAsciiDigit (h.all c hc)
  cases h with
  | plain h => exact hdigits h
  | plus h => exact List.forall_mem_cons.mpr ⟨by decide, hdigits h⟩
  | minus h => exact List.forall_mem_cons.mpr ⟨by decide, hdigits h⟩

end Decimal

theorem Text.Glyph.mapM_char?_ofString (text : String) :
    (Glyph.ofString text).mapM Glyph.char? = some text.toList := by
  rw [Glyph.ofString]
  induction text.toList with
  | nil => rfl
  | cons c rest ih => simp [Glyph.char?, ih]

/-- The word that a value is written as. -/
def Word.ofValue (value : Int64) : Word := Glyph.ofString (Decimal.write value.toInt)

theorem Word.toInt?_ofValue (value : Int64) : (Word.ofValue value).toInt? = some value := by
  have hread := Decimal.read?_write (Decimal.inRange_toInt value)
  rw [toInt?, ofValue, Glyph.mapM_char?_ofString, Option.bind_some, hread, Option.map_some,
    Int64.ofInt_toInt]

theorem Word.fields_ofValue (value : Int64) :
    Text.fields (Word.ofValue value) = [Word.ofValue value] := by
  have hdenotes := Decimal.denotes_write value.toInt
  apply Text.words_of_forall
  · exact List.map_eq_nil_iff.not.mpr hdenotes.ne_nil
  · intro g hg
    obtain ⟨c, hc, rfl⟩ := List.mem_map.mp hg
    exact hdenotes.isSpace_eq_false c hc

/-- Values in decimal, with tabs between them. -/
def tabbed (values : List Int64) : String :=
  "\t".intercalate (values.map fun value => Decimal.write value.toInt)

theorem tabbed_cons_cons (value next : Int64) (rest : List Int64) :
    tabbed (value :: next :: rest) =
      Decimal.write value.toInt ++ ("\t" ++ tabbed (next :: rest)) := by
  rw [tabbed, List.map_cons, List.map_cons, String.intercalate_cons_cons, String.append_assoc]
  rfl

theorem fields_tabbed (values : List Int64) :
    Text.fields (Glyph.ofString (tabbed values)) = values.map Word.ofValue := by
  induction values with
  | nil => rfl
  | cons value rest ih =>
      cases rest with
      | nil => exact Word.fields_ofValue value
      | cons next rest =>
          have hcut : Glyph.ofString (tabbed (value :: next :: rest)) =
              Word.ofValue value ++ .char '\t' :: Glyph.ofString (tabbed (next :: rest)) := by
            rw [tabbed_cons_cons]
            simp [Glyph.ofString, Word.ofValue]
          have htab : Glyph.isSpace (.char '\t') = true := by decide
          calc Text.fields (Glyph.ofString (tabbed (value :: next :: rest)))
              = Text.fields (Word.ofValue value) ++
                  Text.fields (Glyph.ofString (tabbed (next :: rest))) := by
                rw [hcut]
                exact Text.words_append_cons htab _ _
            _ = (value :: next :: rest).map Word.ofValue := by
                rw [Word.fields_ofValue, ih]
                rfl

/-- A line end behind the text adds no word. -/
theorem fields_tabbed_newline (values : List Int64) :
    Text.fields (Glyph.ofString (tabbed values ++ "\n")) = values.map Word.ofValue := by
  rw [← fields_tabbed values, Glyph.ofString, String.toList_append, List.map_append]
  exact Text.words_append_of_forall (by decide) _

/-- A variable that is read from the numeral of a value. -/
def Reading.ofValue (name : String) (value : Int64) : Reading :=
  ⟨name, Word.ofValue value, value, Word.toInt?_ofValue value⟩

/-- The readings of the values, each for the name in the same place. -/
def readingsOf (names : List String) (values : List Int64) : List Reading :=
  (names.zip values).map fun entry => Reading.ofValue entry.1 entry.2

theorem map_name_readingsOf {names : List String} {values : List Int64}
    (h : names.length = values.length) : (readingsOf names values).map Reading.name = names := by
  rw [readingsOf, List.map_map]
  exact List.map_fst_zip h.le

theorem map_value_readingsOf {names : List String} {values : List Int64}
    (h : names.length = values.length) : (readingsOf names values).map Reading.value = values := by
  rw [readingsOf, List.map_map]
  exact List.map_snd_zip h.ge

theorem map_word_readingsOf {names : List String} {values : List Int64}
    (h : names.length = values.length) :
    (readingsOf names values).map Reading.word = values.map Word.ofValue := by
  calc (readingsOf names values).map Reading.word
      = ((readingsOf names values).map Reading.value).map Word.ofValue := by
        rw [readingsOf, List.map_map, List.map_map, List.map_map]
        rfl
    _ = values.map Word.ofValue := by rw [map_value_readingsOf h]

/-- Each name has the value in the same place, and no other name has changed. -/
structure Store.Given (names : List String) (values : List Int64) (before after : Store) :
    Prop where
  named : List.Forall₂ (fun name value => after.get? name = some value) names values
  others : ∀ name, name ∉ names → after.get? name = before.get? name

/-- Where a name is read twice, the later reading counts, so the names have to differ. -/
theorem Store.given_record {readings : List Reading} (h : (readings.map Reading.name).Nodup)
    (vars : Store) :
    Given (readings.map Reading.name) (readings.map Reading.value) vars
      (vars.record readings) := by
  induction readings generalizing vars with
  | nil => exact ⟨.nil, fun _ _ => rfl⟩
  | cons r rest ih =>
      obtain ⟨hfresh, hrest⟩ := List.nodup_cons.mp h
      obtain ⟨hnamed, hothers⟩ := ih hrest (vars.set r.name r.value)
      refine ⟨.cons ?_ hnamed, ?_⟩
      · calc (vars.record (r :: rest)).get? r.name
            = (vars.set r.name r.value).get? r.name := hothers r.name hfresh
          _ = some r.value := by rw [get?_set, if_pos rfl]
      · intro name hname
        obtain ⟨hne, hlater⟩ := List.ne_and_not_mem_of_not_mem_cons hname
        calc (vars.record (r :: rest)).get? name
            = (vars.set r.name r.value).get? name := hothers name hlater
          _ = vars.get? name := by rw [get?_set, if_neg hne]

theorem Store.given_readingsOf {names : List String} {values : List Int64} (hnames : names.Nodup)
    (hlength : names.length = values.length) (vars : Store) :
    Given names values vars (vars.record (readingsOf names values)) := by
  have hnames' := map_name_readingsOf hlength
  have hrecord := given_record (hnames' ▸ hnames) vars
  rwa [hnames', map_value_readingsOf hlength] at hrecord

namespace Input

theorem askUntilWord_cons {reply : Reply} {word : Word} {more : List Word}
    (h : Text.fields reply.text = word :: more) (afterwards : ReadError) (rest : List Reply) :
    askUntilWord afterwards (reply :: rest) = ⟨.ok word, more, rest, 1⟩ := by
  rw [askUntilWord, h]

/-- The first word of an answer is taken, and the others wait. -/
theorem take_of_answer {p q : Provider} {reply : Reply} {unwritten : Bool} {word : Word}
    {more : List Word} (hanswer : p.answer unwritten = (reply, q))
    (hwords : Text.fields reply.text = word :: more) :
    take ⟨[], some p⟩ unwritten = (.ok word, ⟨more, some q⟩, 1) := by
  obtain ⟨replies, afterwards, blocked⟩ := p
  -- a refusal and the answer behind the last reply hold no word
  cases replies with
  | nil =>
      have hblank : reply.text = [] := by
        cases blocked <;> cases unwritten <;> cases hanswer <;> rfl
      rw [hblank] at hwords
      cases hwords
  | cons first rest =>
      cases blocked with
      | none =>
          cases hanswer
          simp only [take, askUntilWord_cons hwords]
      | some reason =>
          cases unwritten with
          | true =>
              cases hanswer
              cases hwords
          | false =>
              cases hanswer
              simp only [take, askUntilWord_cons hwords]

end Input

namespace Machine

/-- The items of a PRINT that lists expressions with commas between them. -/
def commaSeparated (es : List Expr) : List PrintItem := (es.map .expr).intersperse .comma

theorem printText_expr {vars : Store} {e : Expr} {value : Int64} {rest : List PrintItem}
    {more : String} (heval : e.eval vars = .ok value) (hrest : printText vars rest = .ok more) :
    printText vars (.expr e :: rest) = .ok (Decimal.write value.toInt ++ more) := by
  rw [printText, hrest, heval]
  rfl

theorem printText_comma {vars : Store} {rest : List PrintItem} {more : String}
    (hrest : printText vars rest = .ok more) :
    printText vars (.comma :: rest) = .ok ("\t" ++ more) := by
  rw [printText, hrest]
  rfl

theorem printText_commaSeparated {vars : Store} {es : List Expr} {values : List Int64}
    (h : List.Forall₂ (fun e value => e.eval vars = .ok value) es values) :
    printText vars (commaSeparated es) = .ok (tabbed values) := by
  induction h with
  | nil => rfl
  | @cons e value es values heval hrest ih =>
      cases hrest with
      | nil =>
          have hnone : printText vars [] = .ok "" := rfl
          have hlast := printText_expr heval hnone
          rwa [String.append_empty] at hlast
      | @cons next value' es values heval' hrest =>
          rw [tabbed_cons_cons]
          exact printText_expr heval (printText_comma ih)

theorem exec_print {s : State} {items : List PrintItem} {text : String}
    (m : Machine) (h : printText s.vars items = .ok text) :
    m.exec s (.print items) = (m.emit s ⟨text, true⟩, .ok .next) := by
  rw [exec, h]

variable {s t : State}

theorem readInteger_queue (r : Request) {reading : Reading} {rest : List Word}
    {provider : Option Provider} (h : s.input = ⟨reading.word :: rest, provider⟩) :
    readInteger r s = ({ s with input := ⟨rest, provider⟩ }, .ok reading.value) := by
  rw [readInteger_eq, State.portsTaken, h]
  simp [Input.take, accept, reading.denotes, State.withPorts]

/-- An INPUT for which there are words enough in the queue asks for nothing. -/
theorem readAll_queue (prompt : String) {readings : List Reading} {rest : List Word}
    {provider : Option Provider}
    (h : s.input = ⟨readings.map Reading.word ++ rest, provider⟩) :
    readAll prompt (readings.map Reading.name) s =
      ({ s with vars := s.vars.record readings, input := ⟨rest, provider⟩ }, .ok .next) := by
  induction readings generalizing s with
  | nil =>
      rw [List.map_nil, List.nil_append] at h
      rw [← h]
      rfl
  | cons r readings ih =>
      rw [List.map_cons, readAll, readInteger_queue _ h]
      exact ih rfl

/-- The numerals of as many values as there are names are read to the last one. -/
theorem readAll_values (prompt : String) {names : List String} {values : List Int64}
    {provider : Option Provider} {vars : Store} (hlength : names.length = values.length)
    (hinput : s.input = ⟨values.map Word.ofValue, provider⟩) (hvars : s.vars = vars) :
    readAll prompt names s =
      ({ s with vars := vars.record (readingsOf names values), input := ⟨[], provider⟩ },
        .ok .next) := by
  rw [← map_word_readingsOf hlength, ← List.append_nil (List.map _ _)] at hinput
  have hread := readAll_queue prompt hinput
  rwa [map_name_readingsOf hlength, hvars] at hread

/-- An INPUT that has to ask goes on as if the reply had been in the queue. -/
theorem readAll_answer (prompt name : String) (names : List String) {p q : Provider}
    {reply : Reply} (hinput : t.input = ⟨[], some p⟩)
    (hanswer : p.answer t.hasWritten = (reply, q)) (hwords : Text.fields reply.text ≠ []) :
    readAll prompt (name :: names) t =
      readAll prompt (name :: names)
        { t with
          input := ⟨Text.fields reply.text, some q⟩
          sent := .request ⟨t.current, name, prompt⟩ :: t.sent } := by
  obtain ⟨word, more, hcons⟩ := List.exists_cons_of_ne_nil hwords
  have htake := Input.take_of_answer hanswer hcons
  rw [readAll, readAll, readInteger_eq, readInteger_eq, State.portsTaken, State.portsTaken, hinput,
    htake, hcons]
  rfl

/-- An INPUT of the names reads the text as the values: each name gets the value in its place, no
other name changes, and the queue is empty afterwards. -/
structure ReadsBack (m : Machine) (prompt : Option String) (name : String) (names : List String)
    (text : String) (values : List Int64) (t : State) : Prop where
  /-- The text is put into the queue. -/
  queued : ∃ vars, Store.Given (name :: names) values t.vars vars ∧
    m.exec { t with input := t.input.enqueue (Glyph.ofString text) }
        (.input prompt (name :: names)) =
      ({ m.prompted prompt t with vars, input := ⟨[], t.input.provider⟩ }, .ok .next)
  /-- The text comes as the answer to the one request that is made. -/
  answered : ∀ (p q : Provider) (reply : Reply), t.input.provider = some p →
    reply.text = Glyph.ofString text → p.answer (m.prompted prompt t).hasWritten = (reply, q) →
    ∃ vars, Store.Given (name :: names) values t.vars vars ∧
      m.exec t (.input prompt (name :: names)) =
        ({ m.prompted prompt t with
            vars
            input := ⟨[], some q⟩
            sent := .request ⟨t.current, name, prompt.getD ""⟩ :: (m.prompted prompt t).sent },
          .ok .next)

/-- The text of a PRINT that lists expressions with commas between them, with or without its line
end, is read by an INPUT of as many different names as their values, wherever the queue is empty. -/
theorem input_reads_printed {es : List Expr} {values : List Int64} {name : String}
    {names : List String}
    (heval : List.Forall₂ (fun e value => e.eval s.vars = .ok value) es values)
    (hnames : (name :: names).Nodup) (hlength : (name :: names).length = es.length)
    (m : Machine) :
    m.exec s (.print (commaSeparated es)) = (m.emit s ⟨tabbed values, true⟩, .ok .next) ∧
    ∀ text ∈ [tabbed values, tabbed values ++ "\n"],
    ∀ (m' : Machine) (prompt : Option String) (t : State), t.input.queue = [] →
      m'.ReadsBack prompt name names text values t := by
  have hcount : (name :: names).length = values.length := hlength.trans heval.length_eq
  have hgiven := Store.given_readingsOf hnames hcount
  refine ⟨exec_print m (printText_commaSeparated heval), ?_⟩
  intro text htext m' prompt t hqueue
  have hfields : Text.fields (Glyph.ofString text) = values.map Word.ofValue := by
    simp only [List.mem_cons, List.not_mem_nil, or_false] at htext
    rcases htext with rfl | rfl
    · exact fields_tabbed values
    · exact fields_tabbed_newline values
  have hvars := m'.prompted_vars prompt t
  refine ⟨⟨_, hgiven t.vars, ?_⟩, ?_⟩
  · have henqueue : t.input.enqueue (Glyph.ofString text) =
        ⟨values.map Word.ofValue, t.input.provider⟩ := by
      rw [Input.enqueue, hqueue, hfields, List.nil_append]
    rw [exec_input, prompted_withInput, henqueue]
    exact readAll_values _ hcount rfl hvars
  · intro p q reply hprovider hreply hanswer
    refine ⟨_, hgiven t.vars, ?_⟩
    have hinput : (m'.prompted prompt t).input = ⟨[], some p⟩ := by
      rw [prompted_input, ← hqueue, ← hprovider]
    have hwords : Text.fields reply.text = values.map Word.ofValue := by rw [hreply, hfields]
    have hsome : values.map Word.ofValue ≠ [] := by
      intro hnil
      rw [List.map_eq_nil_iff.mp hnil] at hcount
      cases hcount
    rw [exec_input, readAll_answer _ _ _ hinput hanswer (hwords ▸ hsome), hwords,
      ← prompted_current m' prompt t]
    exact readAll_values _ hcount rfl hvars

/-- The greatest value, the least one, for which a program has no numeral, and a variable. -/
def extremeExprs : List Expr :=
  [.lit Int64.maxValue, .binary .sub (.binary .sub (.lit 0) (.lit Int64.maxValue)) (.lit 1),
    .var "x"]

def extremeText : String := "9223372036854775807\t-9223372036854775808\t-7"

def collecting : Machine := ⟨.ofLines [], 0, false⟩

def writer : State := { State.start .empty 10 with vars := ⟨[("x", -7)]⟩ }

/-- Its provider reports an error with the text, which is not noticed. -/
def reader : State :=
  { State.start ⟨[], some ⟨[⟨Glyph.ofString (extremeText ++ "\n"), some (.failed "lost")⟩],
      .endOfInput, none⟩⟩ 20 with
    vars := ⟨[("b", 3), ("y", 4)]⟩ }

theorem input_reads_printed_extremes :
    (collecting.exec writer (.print (commaSeparated extremeExprs))).1.outputs =
        [⟨extremeText, true⟩] ∧
      (∃ u, collecting.exec
            { reader with input := reader.input.enqueue (Glyph.ofString extremeText) }
            (.input none ["a", "b", "c"]) = (u, .ok .next) ∧
        u.input.queue = [] ∧
        ["a", "b", "c", "y"].map u.vars.get? =
          [some Int64.maxValue, some Int64.minValue, some (-7), some 4]) ∧
      ∃ u, collecting.exec reader (.input (some "n? ") ["a", "b", "c"]) = (u, .ok .next) ∧
        u.input = ⟨[], some ⟨[], .endOfInput, none⟩⟩ ∧
        ["a", "b", "c", "y"].map u.vars.get? =
          [some Int64.maxValue, some Int64.minValue, some (-7), some 4] := by
  have heval : List.Forall₂ (fun e value => Expr.eval writer.vars e = .ok value) extremeExprs
      [Int64.maxValue, Int64.minValue, -7] := by
    refine .cons ?_ (.cons ?_ (.cons ?_ .nil)) <;> decide
  have htext : tabbed [Int64.maxValue, Int64.minValue, -7] = extremeText := by decide +kernel
  have hvars {vars : Store} (h : Store.Given ["a", "b", "c"]
      [Int64.maxValue, Int64.minValue, -7] reader.vars vars) :
      ["a", "b", "c", "y"].map vars.get? =
        [some Int64.maxValue, some Int64.minValue, some (-7), some 4] := by
    obtain ⟨hnamed, hothers⟩ := h
    simp only [List.forall₂_cons] at hnamed
    obtain ⟨ha, hb, hc, -⟩ := hnamed
    have hy : vars.get? "y" = some 4 := hothers "y" (by decide)
    simp only [List.map_cons, List.map_nil, ha, hb, hc, hy]
  have hnames : ["a", "b", "c"].Nodup := by decide
  obtain ⟨hprint, hread⟩ := input_reads_printed heval hnames rfl collecting
  rw [htext] at hprint hread
  obtain ⟨vars, hgiven, hqueued⟩ :=
    (hread extremeText (by decide) collecting none reader rfl).queued
  obtain ⟨vars', hgiven', hreplied⟩ := (hread (extremeText ++ "\n") (by decide) collecting
    (some "n? ") reader rfl).answered _ _ _ rfl rfl rfl
  refine ⟨?_, ⟨_, hqueued, rfl, hvars hgiven⟩, _, hreplied, rfl, hvars hgiven'⟩
  rw [hprint]
  rfl

end Machine

end NumberedBasic
