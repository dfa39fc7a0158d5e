import Mathlib.Order.Bounds.Defs
import NumberedBasic.Proofs.Program.Table

/-! What the line table answers about numbers: which ones have a line, and which one comes next. -/
namespace NumberedBasic.Program

/-- The numbers that lines have. -/
def declared (p : Program) : Set Int := { n | ∃ line ∈ p.lines, line.number = n }

variable {p : Program} {n k : Int} {line : Line}

theorem mem_declared_iff : n ∈ p.declared ↔ ∃ line ∈ p.lines, line.number = n := Iff.rfl

instance (p : Program) (n : Int) : Decidable (n ∈ p.declared) :=
  decidable_of_iff _ mem_declared_iff.symm

theorem get?_eq_none_iff : p.get? n = none ↔ n ∉ p.declared := by
  simp [get?, mem_declared_iff, List.find?_eq_none]

theorem mem_declared (h : p.get? n = some line) : line.number ∈ p.declared :=
  ⟨line, mem_of_get? h, rfl⟩

theorem first?_mem_declared (h : p.first? = some k) : k ∈ p.declared := by
  obtain ⟨line, hhead, rfl⟩ := Option.map_eq_some_iff.mp h
  exact ⟨line, List.mem_of_head? hhead, rfl⟩

theorem after?_eq_none_iff : p.after? n = none ↔ ∀ k ∈ p.declared, k ≤ n := by
  simp [after?, mem_declared_iff, List.find?_eq_none]

theorem le_of_find? {lines : List Line} (h : lines.Pairwise fun a b => a.number < b.number)
    (hfind : lines.find? (fun line => n < line.number) = some line) :
    ∀ other ∈ lines, n < other.number → line.number ≤ other.number := by
  induction lines with
  | nil => cases hfind
  | cons head rest ih =>
      obtain ⟨hhead, hrest⟩ := List.pairwise_cons.mp h
      by_cases hlt : n < head.number
      · rw [List.find?_cons_of_pos (by simpa using hlt)] at hfind
        cases hfind
        intro other hother _
        rcases List.mem_cons.mp hother with rfl | hother
        · exact Int.le_refl _
        · exact Int.le_of_lt (hhead other hother)
      · rw [List.find?_cons_of_neg (by simpa using hlt)] at hfind
        intro other hother hafter
        rcases List.mem_cons.mp hother with rfl | hother
        · exact absurd hafter hlt
        · exact ih hrest hfind other hother hafter

/-- The line after a number is the first of those that have a greater one. -/
theorem isLeast_of_after? (h : p.after? n = some k) : IsLeast {j | j ∈ p.declared ∧ n < j} k := by
  obtain ⟨line, hfind, rfl⟩ := Option.map_eq_some_iff.mp h
  have hlt : n < line.number := by simpa using List.find?_some hfind
  refine ⟨⟨⟨line, List.mem_of_find?_eq_some hfind, rfl⟩, hlt⟩, ?_⟩
  rintro j ⟨⟨other, hother, rfl⟩, hafter⟩
  exact le_of_find? p.ascending hfind other hother hafter

end NumberedBasic.Program
