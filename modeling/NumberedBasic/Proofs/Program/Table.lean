import Mathlib.Data.Set.Defs
import NumberedBasic.Program

/-! Storing lines in the line table, and the numbers that occur in a program. -/
namespace NumberedBasic

/-- The lines to which a statement jumps, also from inside an IF. -/
def Statement.targets : Statement → List Int
  | .if_ _ body => body.targets
  | .goto target => [target]
  | .gosub target => [target]
  | _ => []

namespace Program

theorem insertLine_ne_nil (line : Line) (lines : List Line) : insertLine line lines ≠ [] := by
  cases lines with
  | nil => simp [insertLine]
  | cons head rest =>
      rw [insertLine]
      split
      · simp
      · split <;> simp

theorem insertLine_of_forall_lt {line : Line} {lines : List Line}
    (h : ∀ x ∈ lines, x.number < line.number) : insertLine line lines = lines ++ [line] := by
  induction lines with
  | nil => rfl
  | cons head rest ih =>
      obtain ⟨hhead, hrest⟩ := List.forall_mem_cons.mp h
      rw [insertLine, if_neg (by omega), if_neg (by omega), ih hrest, List.cons_append]

theorem mem_of_mem_foldl_insert {lines : List Line} {p : Program} {x : Line}
    (h : x ∈ (lines.foldl insert p).lines) : x ∈ p.lines ∨ x ∈ lines := by
  induction lines generalizing p with
  | nil => exact .inl h
  | cons line lines ih =>
      rcases ih h with hx | hx
      · rcases mem_of_mem_insertLine hx with hx | hx
        · exact .inr (hx ▸ List.mem_cons_self)
        · exact .inl hx
      · exact .inr (List.mem_cons_of_mem _ hx)

theorem mem_of_mem_ofLines {lines : List Line} {x : Line} (h : x ∈ (ofLines lines).lines) :
    x ∈ lines := by
  rcases mem_of_mem_foldl_insert h with hx | hx
  · cases hx
  · exact hx

theorem ofLines_ne_nil {lines : List Line} (h : lines ≠ []) : (ofLines lines).lines ≠ [] := by
  obtain ⟨front, last, rfl⟩ := (List.eq_nil_or_concat lines).resolve_left h
  rw [List.concat_eq_append, ofLines, List.foldl_append]
  exact insertLine_ne_nil last _

-- What was stored so far is a front part of the ascending lines, so each new line goes last.
theorem lines_foldl_insert {lines : List Line} {p : Program}
    (h : (p.lines ++ lines).Pairwise fun a b => a.number < b.number) :
    (lines.foldl insert p).lines = p.lines ++ lines := by
  induction lines generalizing p with
  | nil => simp
  | cons line lines ih =>
      have hlast : (p.insert line).lines = p.lines ++ [line] :=
        insertLine_of_forall_lt fun x hx => (List.pairwise_append.mp h).2.2 x hx line (by simp)
      rw [List.foldl_cons, ih (by simpa [hlast] using h), hlast]
      simp

theorem eq_of_lines {p q : Program} (h : p.lines = q.lines) : p = q := by
  cases p
  cases q
  cases h
  rfl

/-- The lines of a program are stored as that program. -/
theorem ofLines_lines (p : Program) : ofLines p.lines = p :=
  eq_of_lines (lines_foldl_insert (p := empty) p.ascending)

/-- The numbers that lines have, together with those to which statements jump. -/
def numbers (p : Program) : Set Int :=
  { n | ∃ line ∈ p.lines, n = line.number ∨ n ∈ line.statement.targets }

theorem number_mem {p : Program} {line : Line} (h : line ∈ p.lines) : line.number ∈ p.numbers :=
  ⟨line, h, .inl rfl⟩

theorem target_mem {p : Program} {line : Line} (h : line ∈ p.lines) {n : Int}
    (hn : n ∈ line.statement.targets) : n ∈ p.numbers :=
  ⟨line, h, .inr hn⟩

theorem mem_of_get? {p : Program} {n : Int} {line : Line} (h : p.get? n = some line) :
    line ∈ p.lines := List.mem_of_find?_eq_some h

theorem after?_mem {p : Program} {n k : Int} (h : p.after? n = some k) : k ∈ p.numbers := by
  obtain ⟨line, hfound, rfl⟩ := Option.map_eq_some_iff.mp h
  exact number_mem (List.mem_of_find?_eq_some hfound)

theorem exists_first? {p : Program} (h : p.lines ≠ []) : ∃ k, p.first? = some k := by
  obtain ⟨line, rest, hlines⟩ := List.exists_cons_of_ne_nil h
  rw [first?, hlines]
  exact ⟨line.number, rfl⟩

theorem first?_mem {p : Program} {k : Int} (h : p.first? = some k) : k ∈ p.numbers := by
  obtain ⟨line, hhead, rfl⟩ := Option.map_eq_some_iff.mp h
  exact number_mem (List.mem_of_head? hhead)

end Program

end NumberedBasic
