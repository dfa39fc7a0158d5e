import NumberedBasic.Grammar.Statement
import NumberedBasic.Proofs.Listing.Line
import NumberedBasic.Proofs.Program.Table
import NumberedBasic.Proofs.Text.Words

/-! A program that was read is written as a text that is read as the same program. -/
namespace NumberedBasic

namespace Text

theorem pieces_rows {α : Type} {sep : α → Bool} {a : α} (ha : sep a = true) {rows : List (List α)}
    (h : ∀ row ∈ rows, ∀ b ∈ row, sep b = false) (back : List α) :
    pieces sep (rows.flatMap (· ++ [a]) ++ back) = rows ++ pieces sep back := by
  induction rows with
  | nil => rfl
  | cons row rows ih =>
      obtain ⟨hrow, hrows⟩ := List.forall_mem_cons.mp h
      have hcut := pieces_append_cons ha row (rows.flatMap (· ++ [a]) ++ back)
      rw [pieces_of_forall hrow, ih hrows] at hcut
      simpa using hcut

theorem trimEnd_concat {α : Type} {p : α → Bool} {a b : α} (ha : p a = true) (hb : p b = false)
    (front : List α) : trimEnd p (front ++ [b, a]) = front ++ [b] := by
  simp [trimEnd, ha, hb]

/-- Of rows that are ended by newlines, none of them empty, the physical lines are the rows. -/
theorem physicalLines_join {rows : List String} (hne : rows ≠ [])
    (h : ∀ row ∈ rows, row ≠ "" ∧ '\n' ∉ row.toList) :
    physicalLines (String.join (rows.map (· ++ "\n"))) = rows := by
  obtain ⟨front, last, rfl⟩ := (List.eq_nil_or_concat rows).resolve_left hne
  rw [List.concat_eq_append] at h ⊢
  obtain ⟨hfront, hlast⟩ := List.forall_mem_append.mp h
  obtain ⟨hlast, hlastrow⟩ := hlast last (by simp)
  obtain ⟨body, b, hbody⟩ := (List.eq_nil_or_concat last.toList).resolve_left (by simpa using hlast)
  rw [List.concat_eq_append] at hbody
  have hplain : ∀ {row : List Char}, '\n' ∉ row → ∀ c ∈ row, isNewline c = false := by
    intro row hrow c hc
    rw [isNewline, beq_eq_false_iff_ne]
    exact fun heq => hrow (heq ▸ hc)
  have hrows : ∀ row ∈ front.map String.toList, ∀ c ∈ row, isNewline c = false := by
    intro row hrow
    obtain ⟨text, htext, rfl⟩ := List.mem_map.mp hrow
    exact hplain (hfront text htext).2
  have htext : (String.join ((front ++ [last]).map (· ++ "\n"))).toList =
      ((front.map String.toList).flatMap (· ++ ['\n']) ++ body) ++ [b, '\n'] := by
    simp [String.toList_join, hbody, List.flatMap_map]
  have htrim := trimEnd_concat (a := '\n') (b := b) (p := isNewline) rfl
    (hplain hlastrow b (by simp [hbody])) ((front.map String.toList).flatMap (· ++ ['\n']) ++ body)
  rw [physicalLines, htext, htrim, List.append_assoc, ← hbody, pieces_rows rfl hrows,
    pieces_of_forall (hplain hlastrow)]
  simp [Function.comp_def]

end Text

theorem parseLines_readable {row : Int} {texts : List String} {lines : List Line}
    (h : parseLines row texts = .ok lines) :
    lines.length = texts.length ∧ ∀ l ∈ lines, l.Readable := by
  induction texts generalizing row lines with
  | nil =>
      cases h
      simp
  | cons text texts ih =>
      obtain ⟨line, hline, h⟩ := Grammar.of_bind_eq_ok h
      obtain ⟨rest, hrest, h⟩ := Grammar.of_bind_eq_ok h
      cases h
      obtain ⟨hlength, hlines⟩ := ih hrest
      exact ⟨by simp [hlength],
        List.forall_mem_cons.mpr ⟨Line.readable_of_parseLine hline, hlines⟩⟩

theorem parseLines_format {lines : List Line} (h : ∀ l ∈ lines, l.Readable) (row : Int) :
    parseLines row (lines.map Line.format) = .ok lines := by
  induction lines generalizing row with
  | nil => rfl
  | cons line lines ih =>
      obtain ⟨hline, hlines⟩ := List.forall_mem_cons.mp h
      simp [parseLines, hline.parseLine_format row, ih hlines]

theorem Line.Readable.format_row {l : Line} (h : l.Readable) :
    l.format ≠ "" ∧ '\n' ∉ l.format.toList := by
  have hscan := l.scans_format h
  refine ⟨fun hempty => ?_, hscan.1⟩
  rw [hempty] at hscan
  have hnil := hscan.eq_nil
  cases hnumber : l.number <;> simp [hnumber, numeralContents] at hnil

theorem parseProgram_eq_ok {source : String} {p : Program} (h : parseProgram source = .ok p) :
    p.lines ≠ [] ∧ ∀ l ∈ p.lines, l.Readable := by
  obtain ⟨lines, hlines, rfl⟩ := Grammar.map_eq_ok h
  obtain ⟨hlength, hreadable⟩ := parseLines_readable hlines
  have hne : lines ≠ [] := by
    intro hnil
    rw [hnil, List.length_nil, eq_comm, List.length_eq_zero_iff, Text.physicalLines,
      List.map_eq_nil_iff] at hlength
    exact Text.pieces_ne_nil _ _ hlength
  exact ⟨Program.ofLines_ne_nil hne, fun l hl => hreadable l (Program.mem_of_mem_ofLines hl)⟩

theorem Program.parseProgram_listing {p : Program} (hne : p.lines ≠ [])
    (h : ∀ l ∈ p.lines, l.Readable) : parseProgram p.listing = .ok p := by
  have hrows : ∀ row ∈ p.lines.map Line.format, row ≠ "" ∧ '\n' ∉ row.toList := by
    intro row hrow
    obtain ⟨l, hl, rfl⟩ := List.mem_map.mp hrow
    exact (h l hl).format_row
  have hlisting : p.listing = String.join ((p.lines.map Line.format).map (· ++ "\n")) := by
    rw [List.map_map]
    rfl
  rw [parseProgram, hlisting, Text.physicalLines_join (by simpa using hne) hrows,
    parseLines_format h 1, Grammar.ok_map, ofLines_lines]

/-- The listing of a program that was read is read as the same lines, and is listed as the same text
again. -/
theorem parseProgram_listing_stable {source : String} {p : Program}
    (h : parseProgram source = .ok p) :
    ∃ q, parseProgram p.listing = .ok q ∧ q.lines = p.lines ∧ q.listing = p.listing := by
  obtain ⟨hne, hreadable⟩ := parseProgram_eq_ok h
  exact ⟨p, p.parseProgram_listing hne hreadable, rfl, rfl⟩

def unsortedSource : String := "20 print x\n010 let x=1\n10 let x=-2\n\n"

def unsortedLines : List Line :=
  [⟨20, .print [.expr (.var "x")]⟩, ⟨10, .let_ "x" (.lit 1)⟩,
    ⟨10, .let_ "x" (.binary .sub (.lit 0) (.lit 2))⟩]

theorem parseProgram_listing_stable_unsorted :
    parseProgram unsortedSource = .ok (Program.ofLines unsortedLines) ∧
      (Program.ofLines unsortedLines).listing = "10 let x = 0 - 2\n20 print x\n" ∧
      ∃ q, parseProgram (Program.ofLines unsortedLines).listing = .ok q ∧
        q.lines = (Program.ofLines unsortedLines).lines ∧
        q.listing = (Program.ofLines unsortedLines).listing := by
  have hlines : parseLines 1 (Text.physicalLines unsortedSource) = .ok unsortedLines := by
    decide +kernel
  have hread : parseProgram unsortedSource = .ok (Program.ofLines unsortedLines) := by
    rw [parseProgram, hlines, Grammar.ok_map]
  exact ⟨hread, by decide, parseProgram_listing_stable hread⟩

end NumberedBasic
