import Mathlib
import NumberedBasic.Proofs.Program.Table

/-! Giving the lines of a program new numbers in the same order. The table answers about the new
numbers as it did about the old ones. -/
namespace NumberedBasic

def Statement.renumber (f : Int → Int) : Statement → Statement
  | .if_ c body => .if_ c (body.renumber f)
  | .goto target => .goto (f target)
  | .gosub target => .gosub (f target)
  | stmt => stmt

def Line.renumber (f : Int → Int) (line : Line) : Line :=
  ⟨f line.number, line.statement.renumber f⟩

theorem Statement.isEnd_renumber (f : Int → Int) (stmt : Statement) :
    (stmt.renumber f).isEnd = stmt.isEnd := by
  cases stmt <;> rfl

namespace Program

/-- The program with all its numbers replaced. -/
def renumber (p : Program) (f : Int → Int) : Program := ofLines (p.lines.map (Line.renumber f))

variable {p : Program} {f : Int → Int}

theorem lines_renumber (hf : StrictMonoOn f p.numbers) :
    (p.renumber f).lines = p.lines.map (Line.renumber f) := by
  have hascending : (p.lines.map (Line.renumber f)).Pairwise fun a b => a.number < b.number := by
    rw [List.pairwise_map]
    refine p.ascending.imp_of_mem ?_
    intro a b ha hb hlt
    exact hf (number_mem ha) (number_mem hb) hlt
  exact lines_foldl_insert (p := empty) hascending

theorem get?_renumber (hf : StrictMonoOn f p.numbers) {n : Int} (hn : n ∈ p.numbers) :
    (p.renumber f).get? (f n) = (p.get? n).map (Line.renumber f) := by
  rw [get?, lines_renumber hf, List.find?_map, get?]
  congr 1
  apply List.find?_congr
  intro line hline
  have hiff : f line.number = f n ↔ line.number = n :=
    ⟨fun h => hf.injOn (number_mem hline) hn h, congrArg f⟩
  rw [Bool.eq_iff_iff]
  simpa [Line.renumber] using hiff

theorem after?_renumber (hf : StrictMonoOn f p.numbers) {n : Int} (hn : n ∈ p.numbers) :
    (p.renumber f).after? (f n) = (p.after? n).map f := by
  have hfind : p.lines.find? ((fun line => decide (f n < line.number)) ∘ Line.renumber f) =
      p.lines.find? fun line => decide (n < line.number) := by
    apply List.find?_congr
    intro line hline
    have hiff := hf.lt_iff_lt hn (number_mem hline)
    simp [Line.renumber, hiff]
  rw [after?, lines_renumber hf, List.find?_map, hfind, after?, Option.map_map, Option.map_map]
  rfl

theorem first?_renumber (hf : StrictMonoOn f p.numbers) :
    (p.renumber f).first? = p.first?.map f := by
  rw [first?, lines_renumber hf, List.head?_map, first?, Option.map_map, Option.map_map]
  rfl

end Program

end NumberedBasic
