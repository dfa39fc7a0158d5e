import NumberedBasic.Statement

/-! The line table: numbered lines in ascending order, one for each number. -/
namespace NumberedBasic

structure Program where
  lines : List Line
  ascending : lines.Pairwise fun a b => a.number < b.number
  deriving Repr

namespace Program

def empty : Program := ⟨[], .nil⟩

/-- Puts a line in its place among ascending lines, over one of the same number. -/
def insertLine (line : Line) : List Line → List Line
  | [] => [line]
  | head :: rest =>
      if line.number < head.number then line :: head :: rest
      else if line.number = head.number then line :: rest
      else head :: insertLine line rest

theorem mem_of_mem_insertLine {line x : Line} {lines : List Line} (h : x ∈ insertLine line lines) :
    x = line ∨ x ∈ lines := by
  induction lines with
  | nil => simpa [insertLine] using h
  | cons head rest ih =>
      rw [insertLine] at h
      split at h
      · simpa using h
      · split at h
        · exact (List.mem_cons.mp h).imp_right (List.mem_cons_of_mem _)
        · cases List.mem_cons.mp h with
          | inl h => simp [h]
          | inr h => exact (ih h).imp_right (List.mem_cons_of_mem _)

theorem ascending_insertLine (line : Line) {lines : List Line}
    (h : lines.Pairwise fun a b => a.number < b.number) :
    (insertLine line lines).Pairwise fun a b => a.number < b.number := by
  induction lines with
  | nil => simp [insertLine]
  | cons head rest ih =>
      have hhead := (List.pairwise_cons.mp h).1
      have hrest := (List.pairwise_cons.mp h).2
      rw [insertLine]
      split
      · rename_i hlt
        refine List.pairwise_cons.mpr ⟨fun x hx => ?_, h⟩
        cases List.mem_cons.mp hx with
        | inl hx => exact hx ▸ hlt
        | inr hx => exact Int.lt_trans hlt (hhead x hx)
      · split
        · rename_i heq
          exact List.pairwise_cons.mpr ⟨fun x hx => heq ▸ hhead x hx, hrest⟩
        · refine List.pairwise_cons.mpr ⟨fun x hx => ?_, ih hrest⟩
          cases mem_of_mem_insertLine hx with
          | inl hx => rw [hx]; omega
          | inr hx => exact hhead x hx

/-- Stores a line in place of any earlier one with the same number. -/
def insert (p : Program) (line : Line) : Program :=
  ⟨insertLine line p.lines, ascending_insertLine line p.ascending⟩

def ofLines (lines : List Line) : Program := lines.foldl insert empty

def get? (p : Program) (number : Int) : Option Line :=
  p.lines.find? fun line => line.number == number

def size (p : Program) : Nat := p.lines.length

/-- The smallest number. -/
def first? (p : Program) : Option Int := p.lines.head?.map Line.number

/-- The smallest number above the given one, which need not be in the table. -/
def after? (p : Program) (number : Int) : Option Int :=
  (p.lines.find? fun line => number < line.number).map Line.number

end Program

end NumberedBasic
