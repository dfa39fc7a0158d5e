import NumberedBasic.Proofs.Listing.Statement

/-! A line that was read is written as a text that is read as the same line. -/
namespace NumberedBasic
open Grammar

/-- What was read can be read again. -/
theorem Line.readable_of_parseLine {text : String} {n : Int} {l : Line}
    (h : parseLine (tokenize text n) = .ok l) : l.Readable := by
  have hspelled := scan_spelled n 0 text.toList
  have hnumbered := (parseLine_eq_ok_iff (endsOnce_scan n 0 text.toList)).mp h
  generalize scan n 0 text.toList = tokens at hspelled hnumbered
  cases hnumbered with
  | @mk t e v u s ht hs he =>
      have hproper : ∀ x ∈ t :: u, IsProper x.kind :=
        List.forall_mem_cons.mpr ⟨ht.isProper, hs.isProper⟩
      have hbody : ∀ x ∈ t :: u, Spelled x.kind x.text := by
        intro x hx
        rcases hspelled x (List.mem_append_left [e] hx) with heol | herror | hx'
        · exact absurd heol (hproper x hx).1
        · exact absurd herror (hproper x hx).2
        · exact hx'
      obtain ⟨hnumber, hstatement⟩ := List.forall_mem_cons.mp hbody
      exact ⟨ht.isNumeral hnumber, hs.readable hstatement⟩

/-- A text that is cut into a numeral and the tokens of a statement is read as the two. -/
theorem parseLine_of_scans {text : String} {number : Int} {body : List Content} {s : Statement}
    (hscan : Scans text (numeralContents number ++ body)) (hnumber : IsNumeral number)
    (hbody : ∀ {u : List Token}, u.map Token.content = body → Read u s) (n : Int) :
    parseLine (tokenize text n) = .ok ⟨number, s⟩ := by
  have hscan := hscan.2 [] breaks_nil
  rw [List.append_nil, contents_nil, ← map_content_scan n 0] at hscan
  refine (parseLine_eq_ok_iff (endsOnce_scan n 0 text.toList)).mpr ?_
  generalize scan n 0 text.toList = tokens at hscan
  obtain ⟨v, w, rfl, hv, hw⟩ := List.map_eq_append_iff.mp hscan
  obtain ⟨x, u, rfl, hx, hu⟩ := List.map_eq_append_iff.mp hv
  obtain ⟨t, rfl, ht⟩ := hnumber.exists_number hx
  obtain ⟨e, rfl, he, -⟩ := exists_token hw
  exact .mk ht (hbody hu) he

theorem Line.Readable.parseLine_format {l : Line} (h : l.Readable) (n : Int) :
    parseLine (tokenize l.format n) = .ok l :=
  parseLine_of_scans (l.scans_format h) h.number (l.statement.read h.statement) n

/-- A line that was read from any text is read again from its own text, whatever row either stands
in. The limit on nesting is no obstacle, though a minus sign is written as a difference in
parentheses. -/
theorem parseLine_tokenize_format {text : String} {row row' : Int} {l : Line}
    (h : parseLine (tokenize text row) = .ok l) : parseLine (tokenize l.format row') = .ok l :=
  (Line.readable_of_parseLine h).parseLine_format row'

def negatedLine : Line :=
  ⟨10, .print [.string "=", .expr (.var "x"),
    .expr (.binary .mul (.binary .sub (.lit 0) (.binary .sub (.lit 0) (.var "y"))) (.lit 2))]⟩

theorem parseLine_tokenize_format_negation :
    parseLine (tokenize "10 print\"=\"x(--y)*2" 1) = .ok negatedLine ∧
      negatedLine.format = "10 print \"=\" x (0 - (0 - y)) * 2" ∧
      parseLine (tokenize negatedLine.format 7) = .ok negatedLine := by
  have hread : parseLine (tokenize "10 print\"=\"x(--y)*2" 1) = .ok negatedLine := by
    decide +kernel
  exact ⟨hread, by decide, parseLine_tokenize_format hread⟩

end NumberedBasic
