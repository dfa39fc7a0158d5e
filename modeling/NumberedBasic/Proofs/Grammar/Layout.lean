import NumberedBasic.Proofs.Grammar.Place
import NumberedBasic.Proofs.Token.Partition

/-! The white space of a line plays no part in how it is read, as long as there is some between any
two tokens. -/
namespace NumberedBasic
open Text Lexeme Grammar

theorem isSpace_of_isDecimalDigit {c : Char} (h : isDecimalDigit c = true) : isSpace c = false :=
  inRanges_of_disjoint (by decide +kernel) h

theorem isIdentifierPart_of_isSpace {c : Char} (h : isSpace c = true) :
    isIdentifierPart c = false := by
  by_contra hpart
  rw [Bool.not_eq_false, isIdentifierPart, Bool.or_eq_true] at hpart
  have hspace : isSpace c = false := by
    rcases hpart with hstart | hdigit
    · exact isSpace_of_isIdentifierStart hstart
    · exact isSpace_of_isDecimalDigit hdigit
  rw [h] at hspace
  cases hspace

/-- Nothing but white space. -/
def Blank (gap : List Char) : Prop := ∀ c ∈ gap, isSpace c = true

instance (gap : List Char) : Decidable (Blank gap) := List.decidableBAll _ gap

theorem Blank.contents_append {gap : List Char} (h : Blank gap) (rest : List Char) :
    contents (gap ++ rest) = contents rest := by
  induction gap with
  | nil => rfl
  | cons c gap ih =>
      obtain ⟨hc, hgap⟩ := List.forall_mem_cons.mp h
      rw [List.cons_append, contents_space hc, ih hgap]

theorem Blank.breaks {gap : List Char} (h : Blank gap) : Breaks gap := by
  intro c hc
  exact isIdentifierPart_of_isSpace (h c (List.mem_of_mem_head? hc))

theorem Blank.breaks_append {gap : List Char} (h : Blank gap) (hgap : gap ≠ [])
    (rest : List Char) : Breaks (gap ++ rest) := by
  obtain ⟨c, more, rfl⟩ := List.exists_cons_of_ne_nil hgap
  exact breaks_cons (isIdentifierPart_of_isSpace (h c List.mem_cons_self))

/-- The white space to be set before the first token of a line, between any two that follow one
another, and behind the last. -/
structure Layout where
  front : List Char
  between : Nat → List Char
  back : List Char
  front_blank : Blank front
  between_blank : ∀ i, Blank (between i)
  between_ne_nil : ∀ i, between i ≠ []
  back_blank : Blank back

/-- The words one after the other, with a gap between any two. -/
def interleave (gap : Nat → List Char) : List (List Char) → List Char
  | [] => []
  | [word] => word
  | word :: next :: more => word ++ (gap 0 ++ interleave (fun i => gap (i + 1)) (next :: more))

/-- The tokens spelled in the layout. -/
def Layout.spell (layout : Layout) (tokens : List Token) : String :=
  String.ofList (layout.front ++
    (interleave layout.between (tokens.map fun t => spelling t.kind t.text) ++ layout.back))

theorem contents_interleave {gap : Nat → List Char} (hblank : ∀ i, Blank (gap i))
    (hgap : ∀ i, gap i ≠ []) {tokens : List Token} (htokens : ∀ t ∈ tokens, Spelled t.kind t.text)
    {rest : List Char} (hrest : Breaks rest) :
    contents (interleave gap (tokens.map fun t => spelling t.kind t.text) ++ rest) =
      tokens.map Token.content ++ contents rest := by
  induction tokens generalizing gap with
  | nil => rfl
  | cons t tokens ih =>
      obtain ⟨ht, htokens⟩ := List.forall_mem_cons.mp htokens
      cases tokens with
      | nil => exact contents_spelling ht hrest
      | cons next more =>
          have hmore := ih (fun i => hblank (i + 1)) (fun i => hgap (i + 1)) htokens
          simp only [List.map_cons, interleave, List.append_assoc] at hmore ⊢
          rw [contents_spelling ht ((hblank 0).breaks_append (hgap 0) _),
            (hblank 0).contents_append, hmore]
          rfl

theorem Layout.map_content_spell (layout : Layout) {tokens : List Token}
    (htokens : ∀ t ∈ tokens, Spelled t.kind t.text) (line : Int) :
    (tokenize (layout.spell tokens) line).map Token.content =
      tokens.map Token.content ++ [(.eol, "<eol>")] := by
  have hback : contents layout.back = [(.eol, "<eol>")] := by
    rw [← contents_nil, ← layout.back_blank.contents_append [], List.append_nil]
  rw [tokenize, map_content_scan, Layout.spell, String.toList_ofList,
    layout.front_blank.contents_append,
    contents_interleave layout.between_blank layout.between_ne_nil htokens
      layout.back_blank.breaks, hback]

theorem Grammar.Marks.exists_index {u u' : List Token} {e e' : SyntaxError}
    (h : Marks u u' e e') : ∃ (k : Nat) (t t' : Token) (cause : SyntaxCause),
      u[k]? = some t ∧ u'[k]? = some t' ∧ e = .ofToken t cause ∧ e' = .ofToken t' cause := by
  induction h with
  | here cause => exact ⟨0, _, _, cause, rfl, rfl, rfl, rfl⟩
  | later _ ih =>
      obtain ⟨k, t, t', cause, ht, ht', he, he'⟩ := ih
      exact ⟨k + 1, t, t', cause, ht, ht', he, he'⟩

theorem Grammar.SameVerdict.index {γ : Type} {u u' : List Token} {x y : Except SyntaxError γ}
    (h : SameVerdict u u' x y) :
    (∃ c, x = .ok c ∧ y = .ok c) ∨
      ∃ (k : Nat) (t t' : Token) (cause : SyntaxCause), u[k]? = some t ∧ u'[k]? = some t' ∧
        x = .error (.ofToken t cause) ∧ y = .error (.ofToken t' cause) := by
  cases h with
  | ok c => exact .inl ⟨c, rfl, rfl⟩
  | error hmarks =>
      obtain ⟨k, t, t', cause, ht, ht', rfl, rfl⟩ := hmarks.exists_index
      exact .inr ⟨k, t, t', cause, ht, ht', rfl, rfl⟩

/-- The tokens of a text in another layout are the same tokens, and they are read as the same line,
or refused at the same one of them for the same cause. -/
theorem parseLine_layout (layout : Layout) {text : String} {i : Int}
    (h : ∀ t ∈ tokenize text i, t.kind ≠ .error) (j : Int) :
    (tokenize (layout.spell (tokenize text i).dropLast) j).map Token.content =
        (tokenize text i).map Token.content ∧
      ((∃ line, parseLine (tokenize text i) = .ok line ∧
          parseLine (tokenize (layout.spell (tokenize text i).dropLast) j) = .ok line) ∨
        ∃ (k : Nat) (t t' : Token) (cause : SyntaxCause), (tokenize text i)[k]? = some t ∧
          (tokenize (layout.spell (tokenize text i).dropLast) j)[k]? = some t' ∧
          parseLine (tokenize text i) = .error (.ofToken t cause) ∧
          parseLine (tokenize (layout.spell (tokenize text i).dropLast) j) =
            .error (.ofToken t' cause)) := by
  obtain ⟨body, htokens, hbody⟩ := (scan_tiles i 0 text.toList).ends (Nat.zero_add _)
  change tokenize text i = _ at htokens
  have hspelled : ∀ t ∈ body, Spelled t.kind t.text := by
    intro t ht
    have hmem : t ∈ tokenize text i := htokens ▸ List.mem_append_left _ ht
    rcases scan_spelled i 0 text.toList t hmem with heol | herror | hspelled
    · exact absurd heol (hbody t ht)
    · exact absurd herror (h t hmem)
    · exact hspelled
  have hcontent : (tokenize (layout.spell (tokenize text i).dropLast) j).map Token.content =
      (tokenize text i).map Token.content := by
    rw [htokens, List.dropLast_concat, layout.map_content_spell hspelled, List.map_append]
    rfl
  have htwins := twins_of_map_content (endsOnce_scan i 0 text.toList) hcontent.symm
  exact ⟨hcontent, (parseLine_sameVerdict htwins).index⟩

/-- A line end among the tokens and one behind them. -/
def scattered : Layout where
  front := []
  between := fun i => if i = 1 then ['\n', '\t'] else ['\u3000']
  back := ['\n']
  front_blank := by decide
  between_blank := by
    intro i
    split <;> decide
  between_ne_nil := by
    intro i
    split <;> decide
  back_blank := by decide

theorem parseLine_layout_scattered :
    (∀ t ∈ tokenize "10print\"a b\"x" 1, t.kind ≠ .error) ∧
      scattered.spell (tokenize "10print\"a b\"x" 1).dropLast =
        "10\u3000print\n\t\"a b\"\u3000x\n" ∧
      parseLine (tokenize "10\u3000print\n\t\"a b\"\u3000x\n" 7) =
        .ok ⟨10, .print [.string "a b", .expr (.var "x")]⟩ := by
  have hproper : ∀ t ∈ tokenize "10print\"a b\"x" 1, t.kind ≠ .error := by decide +kernel
  have hspell : scattered.spell (tokenize "10print\"a b\"x" 1).dropLast =
      "10\u3000print\n\t\"a b\"\u3000x\n" := by decide +kernel
  have hread : parseLine (tokenize "10print\"a b\"x" 1) =
      .ok ⟨10, .print [.string "a b", .expr (.var "x")]⟩ := by decide +kernel
  refine ⟨hproper, hspell, ?_⟩
  obtain ⟨-, ⟨line, hline, hrespelled⟩ | ⟨k, t, t', cause, -, -, hrefused, -⟩⟩ :=
    parseLine_layout scattered hproper 7
  · rw [← hread, hline, ← hspell, hrespelled]
  · rw [hread] at hrefused
    cases hrefused

end NumberedBasic
