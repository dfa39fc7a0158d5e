import NumberedBasic.Proofs.Listing.Nesting
import NumberedBasic.Proofs.Text.Utf8

/-! Lines that were put together by hand, where any bytes may stand between quotes. Which of them
come back from their own text is known without looking at tokens or derivations: beside what is
asked of a line that holds characters, the bytes have to be those of characters. -/
namespace NumberedBasic
open Grammar Text

section

variable {τ σ : Type}

def PrintItem.map (f : τ → σ) : PrintItem τ → PrintItem σ
  | .string text => .string (f text)
  | .comma => .comma
  | .semicolon => .semicolon
  | .expr e => .expr e
  | .other code e => .other code e

def Statement.map (f : τ → σ) : Statement τ → Statement σ
  | .let_ name value => .let_ name value
  | .print items => .print (items.map (PrintItem.map f))
  | .input prompt names => .input (prompt.map f) names
  | .for_ name first last => .for_ name first last
  | .next name => .next name
  | .if_ c body => .if_ c (body.map f)
  | .goto target => .goto target
  | .gosub target => .gosub target
  | .return_ => .return_
  | .end_ => .end_
  | .empty => .empty
  | .missing => .missing

/-- The line with other texts between the quotes. -/
def Line.map (f : τ → σ) (l : Line τ) : Line σ := ⟨l.number, l.statement.map f⟩

variable {f : τ → σ} {quotable : σ → Prop}

theorem PrintItem.readableWith_map {item : PrintItem τ} :
    (item.map f).ReadableWith quotable ↔ item.ReadableWith (quotable ∘ f) := by
  cases item <;> exact Iff.rfl

theorem Statement.readableWith_map {s : Statement τ} :
    (s.map f).ReadableWith quotable ↔ s.ReadableWith (quotable ∘ f) := by
  induction s with
  | print items =>
      simp only [Statement.map, ReadableWith, List.forall_mem_map, PrintItem.readableWith_map]
  | input prompt names => cases prompt <;> simp [Statement.map, ReadableWith]
  | if_ c body ih => exact and_congr_right fun _ => ih
  | _ => exact Iff.rfl

theorem Line.readableWith_map {l : Line τ} :
    (l.map f).ReadableWith quotable ↔ l.ReadableWith (quotable ∘ f) := by
  constructor
  · rintro ⟨hnumber, hstatement⟩
    exact ⟨hnumber, Statement.readableWith_map.mp hstatement⟩
  · rintro ⟨hnumber, hstatement⟩
    exact ⟨hnumber, Statement.readableWith_map.mpr hstatement⟩

theorem PrintItem.exists_map (hf : ∀ text, quotable text → ∃ t, f t = text) {item : PrintItem σ}
    (h : item.ReadableWith quotable) : ∃ i : PrintItem τ, i.map f = item := by
  cases item with
  | string text =>
      obtain ⟨t, rfl⟩ := hf text h
      exact ⟨.string t, rfl⟩
  | comma => exact ⟨.comma, rfl⟩
  | semicolon => exact ⟨.semicolon, rfl⟩
  | expr e => exact ⟨.expr e, rfl⟩
  | other code e => exact h.elim

theorem PrintItem.exists_map_list (hf : ∀ text, quotable text → ∃ t, f t = text)
    {items : List (PrintItem σ)} (h : ∀ item ∈ items, item.ReadableWith quotable) :
    ∃ list : List (PrintItem τ), list.map (PrintItem.map f) = items := by
  induction items with
  | nil => exact ⟨[], rfl⟩
  | cons item items ih =>
      obtain ⟨hitem, hitems⟩ := List.forall_mem_cons.mp h
      obtain ⟨i, rfl⟩ := PrintItem.exists_map hf hitem
      obtain ⟨list, rfl⟩ := ih hitems
      exact ⟨i :: list, rfl⟩

/-- A statement of which every text can be had is itself had from those texts. -/
theorem Statement.exists_map (hf : ∀ text, quotable text → ∃ t, f t = text) {s : Statement σ}
    (h : s.ReadableWith quotable) : ∃ u : Statement τ, u.map f = s := by
  induction s with
  | let_ name value => exact ⟨.let_ name value, rfl⟩
  | print items =>
      obtain ⟨list, rfl⟩ := PrintItem.exists_map_list hf h
      exact ⟨.print list, rfl⟩
  | input prompt names =>
      cases prompt with
      | none => exact ⟨.input none names, rfl⟩
      | some text =>
          obtain ⟨t, rfl⟩ := hf text (h.1 text rfl)
          exact ⟨.input (some t) names, rfl⟩
  | for_ name first last => exact ⟨.for_ name first last, rfl⟩
  | next name => exact ⟨.next name, rfl⟩
  | if_ c body ih =>
      obtain ⟨u, rfl⟩ := ih h.2
      exact ⟨.if_ c u, rfl⟩
  | goto target => exact ⟨.goto target, rfl⟩
  | gosub target => exact ⟨.gosub target, rfl⟩
  | return_ => exact ⟨.return_, rfl⟩
  | end_ => exact ⟨.end_, rfl⟩
  | empty => exact ⟨.empty, rfl⟩
  | missing => exact h.elim

end

/-- A line of characters as a line of the bytes that encode them. -/
def Line.encode (l : Line) : Line (List UInt8) := l.map Utf8.encode

theorem PrintItem.format_encode (item : PrintItem) :
    (item.map Utf8.encode).format = Utf8.encode item.format := by
  cases item with
  | string text =>
      change Utf8.encode "\"" ++ Utf8.encode text ++ Utf8.encode "\"" =
        Utf8.encode ("\"" ++ text ++ "\"")
      rw [Utf8.encode_append, Utf8.encode_append]
  | _ => rfl

theorem Statement.format_encode (s : Statement) :
    (s.map Utf8.encode).format = Utf8.encode s.format := by
  induction s with
  | print items =>
      cases items with
      | nil => rfl
      | cons item items =>
          change Utf8.encode "print " ++ List.intercalate (Utf8.encode " ")
              (((item :: items).map (PrintItem.map Utf8.encode)).map PrintItem.format) =
            Utf8.encode ("print " ++ " ".intercalate ((item :: items).map PrintItem.format))
          rw [Utf8.encode_append, Utf8.encode_intercalate, List.map_map, List.map_map]
          simp only [Function.comp_def, PrintItem.format_encode]
  | input prompt names =>
      cases prompt with
      | none => rfl
      | some text =>
          change Utf8.encode "input \"" ++ Utf8.encode text ++
              Utf8.encode ("\" " ++ ", ".intercalate names) =
            Utf8.encode ("input \"" ++ text ++ ("\" " ++ ", ".intercalate names))
          rw [Utf8.encode_append ("input \"" ++ text), Utf8.encode_append "input \""]
  | if_ c body ih =>
      have hempty : Script.isEmpty (body.map Utf8.encode).format = body.format.isEmpty := by
        rw [ih]
        exact Utf8.isEmpty_encode body.format
      rw [Statement.map, Statement.format, Statement.format, hempty, Script.isEmpty_eq]
      cases body.format.isEmpty with
      | true => rfl
      | false =>
          change Utf8.encode _ ++ (body.map Utf8.encode).format =
            Utf8.encode ("if " ++ c.format ++ " then " ++ body.format)
          rw [Utf8.encode_append _ body.format, ih]
  | _ => rfl

/-- The text of a line of bytes is the encoding of the text of characters. -/
theorem Line.format_encode (l : Line) : l.encode.format = Utf8.encode l.format := by
  have hbody := l.statement.format_encode
  have hempty :
      Script.isEmpty (l.statement.map Utf8.encode).format = l.statement.format.isEmpty := by
    rw [hbody]
    exact Utf8.isEmpty_encode l.statement.format
  rw [Line.encode, Line.map, Line.format, Line.format, hempty, Script.isEmpty_eq]
  cases l.statement.format.isEmpty with
  | true => rfl
  | false =>
      change Utf8.encode _ ++ (l.statement.map Utf8.encode).format =
        Utf8.encode (Decimal.write l.number ++ " " ++ l.statement.format)
      rw [Utf8.encode_append _ l.statement.format, hbody]

/-- Neither a quote nor a newline is among the bytes. -/
def Unquoted (text : List UInt8) : Prop := 0x22 ∉ text ∧ 0x0a ∉ text

instance (text : List UInt8) : Decidable (Unquoted text) :=
  inferInstanceAs (Decidable (_ ∧ _))

theorem spelled_string_iff {text : String} :
    Spelled .string text ↔ '"' ∉ text.toList ∧ '\n' ∉ text.toList := by
  constructor
  · intro h
    cases h with
    | string hcs =>
        rw [String.toList_ofList]
        exact ⟨fun hmem => (hcs '"' hmem).1 rfl, fun hmem => (hcs '\n' hmem).2 rfl⟩
  · rintro ⟨hquote, hnewline⟩
    rw [← String.ofList_toList (s := text)]
    refine .string fun d hd => ⟨?_, ?_⟩
    · rintro rfl
      exact hquote hd
    · rintro rfl
      exact hnewline hd

theorem unquoted_encode_iff {text : String} :
    Unquoted (Utf8.encode text) ↔ Spelled .string text := by
  have hbyte (d : Char) (b : UInt8) (hb : b.toNat < 0x80) (hd : d.toNat = b.toNat) :
      b ∈ Utf8.encode text ↔ d ∈ text.toList := by
    rw [Utf8.mem_encode_iff hb, ← hd]
    constructor
    · rintro ⟨c, hc, heq⟩
      rwa [← Char.toNat_inj.mp heq]
    · intro hmem
      exact ⟨d, hmem, rfl⟩
  rw [spelled_string_iff, Unquoted, hbyte '"' 0x22 (by decide) rfl,
    hbyte '\n' 0x0a (by decide) rfl]

/-- The bytes of characters other than a quote and a newline. -/
def Quotable (text : List UInt8) : Prop := Unquoted text ∧ Utf8.Valid text

theorem Line.readableWith_encode {l : Line} : l.encode.ReadableWith Quotable ↔ l.Readable := by
  have hquotable : Quotable ∘ Utf8.encode = Spelled .string := by
    funext text
    exact propext ((and_iff_left ⟨text, rfl⟩).trans unquoted_encode_iff)
  rw [Line.encode, Line.readableWith_map, hquotable]

theorem Line.exists_encode {l : Line (List UInt8)} (h : l.ReadableWith Quotable) :
    ∃ m : Line, m.encode = l := by
  obtain ⟨number, statement⟩ := l
  obtain ⟨u, rfl⟩ := Statement.exists_map (fun _ h => h.2) h.statement
  exact ⟨⟨number, u⟩, rfl⟩

/-- A line that was put together by hand comes back from its own text if and only if it is one that
texts stand for, whether or not it was ever read from any, and what stands between its quotes are
the bytes of characters. What is asked of its expressions is that names are identifiers, that
operators compute, that no literal is negative, and that the text never has more parentheses open
than the limit on nesting allows. -/
theorem Line.format_comes_back_iff (l : Line (List UInt8)) (row : Int) :
    ((∃ m : Line, parseLine (tokenize (Utf8.toText l.format) row) = .ok m ∧ m.encode = l) ↔
        l.ReadableWith Quotable) ∧
      ∀ e : Expr, e.Readable ↔
        e.Writable ∧ e.Unsigned ∧ ParensWithin (nestingLimit - 1) e.format.toList := by
  refine ⟨?_, fun e => Expr.readable_iff⟩
  constructor
  · rintro ⟨m, hread, rfl⟩
    rw [Line.format_encode, Utf8.toText_encode] at hread
    exact Line.readableWith_encode.mpr (Line.readable_of_parseLine hread)
  · intro h
    obtain ⟨m, rfl⟩ := Line.exists_encode h
    refine ⟨m, ?_, rfl⟩
    rw [Line.format_encode, Utf8.toText_encode]
    exact (Line.readableWith_encode.mp h).parseLine_format row

/-- Prints a byte that belongs to no character. -/
def strayByteLine : Line (List UInt8) := ⟨10, .print [.string [0xff]]⟩

/-- The byte is written as it is and read as the replacement character. -/
theorem stray_byte_replaced :
    strayByteLine.ReadableWith Unquoted ∧
      parseLine (tokenize (Utf8.toText strayByteLine.format) 1) =
        .ok ⟨10, .print [.string "\ufffd"]⟩ ∧
      ¬ ∃ m : Line, parseLine (tokenize (Utf8.toText strayByteLine.format) 1) = .ok m ∧
        m.encode = strayByteLine := by
  have hread : parseLine (tokenize (Utf8.toText strayByteLine.format) 1) =
      .ok ⟨10, .print [.string "\ufffd"]⟩ := by decide +kernel
  have hnumber : IsNumeral 10 := ⟨by decide, by decide⟩
  have htext : Unquoted [0xff] := by decide
  refine ⟨⟨hnumber, ?_⟩, hread, ?_⟩
  · intro item hitem
    rw [List.mem_singleton.mp hitem]
    exact htext
  · rintro ⟨m, hm, hback⟩
    rw [hread] at hm
    cases hm
    exact absurd hback (by decide +kernel)

end NumberedBasic
