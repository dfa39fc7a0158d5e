import Mathlib.Data.Finset.Card
import NumberedBasic.Proofs.Program.Loading

/-! The line table as an ordered map. Whatever lines are stored in it, in whatever order, its
answers follow from the lines that were stored last under their numbers, and the way from the first
number to the next and so on goes through all of them. -/
namespace NumberedBasic.Program

variable {p : Program} {stored front back : List Line} {line : Line}

/-- The line was stored, and no later one of the same number. -/
def StoredLast (stored : List Line) (line : Line) : Prop :=
  ∃ front back, stored = front ++ line :: back ∧ ∀ later ∈ back, later.number ≠ line.number

/-- The numbers under which lines were stored. -/
def storedNumbers (stored : List Line) : Set Int := { n | ∃ line ∈ stored, line.number = n }

/-- The number that is reached from the first one when the next one is taken so many times. -/
def visit (p : Program) : Nat → Option Int
  | 0 => p.first?
  | i + 1 => (p.visit i).bind p.after?

theorem storedLast_iff_find? : StoredLast stored line ↔
    stored.reverse.find? (fun x => x.number == line.number) = some line := by
  rw [List.find?_eq_some_iff_append]
  constructor
  · rintro ⟨front, back, rfl, hback⟩
    refine ⟨beq_self_eq_true _, back.reverse, front.reverse, by simp, ?_⟩
    intro later hlater
    simpa using hback later (List.mem_reverse.mp hlater)
  · rintro ⟨-, back, front, hreverse, hback⟩
    refine ⟨front.reverse, back.reverse, ?_, ?_⟩
    · rw [← List.reverse_reverse stored, hreverse]
      simp
    · intro later hlater
      simpa using hback later (List.mem_reverse.mp hlater)

theorem mem_lines_ofLines : line ∈ (ofLines stored).lines ↔ StoredLast stored line := by
  rw [storedLast_iff_find?, ← get?_ofLines, get?_eq_some_iff]
  exact (and_iff_left rfl).symm

theorem declared_ofLines (stored : List Line) :
    (ofLines stored).declared = storedNumbers stored := by
  ext n
  rw [← not_iff_not, ← get?_eq_none_iff, get?_ofLines, List.find?_eq_none]
  simp [storedNumbers]

/-- There is one line for each number. -/
theorem size_ofLines (stored : List Line) :
    (ofLines stored).size = (stored.map Line.number).toFinset.card := by
  have hnodup : ((ofLines stored).lines.map Line.number).Nodup :=
    List.pairwise_map.mpr ((ofLines stored).ascending.imp Int.ne_of_lt)
  have hsame : ((ofLines stored).lines.map Line.number).toFinset =
      (stored.map Line.number).toFinset := by
    ext n
    have hn : n ∈ (ofLines stored).declared ↔ n ∈ storedNumbers stored := by
      rw [declared_ofLines]
    simpa [mem_declared_iff, storedNumbers] using hn
  rw [← hsame, List.toFinset_card_of_nodup hnodup, List.length_map, size]

theorem first?_ofLines_eq_none_iff : (ofLines stored).first? = none ↔ stored = [] := by
  constructor
  · intro h
    by_contra hne
    obtain ⟨k, hk⟩ := exists_first? (ofLines_ne_nil hne)
    rw [h] at hk
    cases hk
  · rintro rfl
    rfl

/-- What comes next after the number of a line is the number of the line behind it. -/
theorem after?_of_split (h : p.lines = front ++ line :: back) :
    p.after? line.number = back.head?.map Line.number := by
  have hascending := p.ascending
  rw [h] at hascending
  obtain ⟨-, hbehind, hfront⟩ := List.pairwise_append.mp hascending
  have hbefore : front.find? (fun x => line.number < x.number) = none := by
    rw [List.find?_eq_none]
    intro x hx
    have hlt := hfront x hx line List.mem_cons_self
    simpa using Int.le_of_lt hlt
  rw [after?, h, List.find?_append, hbefore, Option.none_or, List.find?_cons_of_neg (by simp)]
  cases back with
  | nil => rfl
  | cons next rest =>
      have hnext := (List.pairwise_cons.mp hbehind).1 next List.mem_cons_self
      rw [List.find?_cons_of_pos (by simpa using hnext)]
      rfl

theorem getElem?_bind_after? (p : Program) (i : Nat) :
    (p.lines.map Line.number)[i]?.bind p.after? = (p.lines.map Line.number)[i + 1]? := by
  rw [List.getElem?_map, List.getElem?_map]
  by_cases hi : i < p.lines.length
  · have hsplit : p.lines = p.lines.take i ++ p.lines[i] :: p.lines.drop (i + 1) := by
      rw [List.getElem_cons_drop, List.take_append_drop]
    rw [List.getElem?_eq_getElem hi, Option.map_some, Option.bind_some, after?_of_split hsplit,
      List.head?_drop]
  · rw [List.getElem?_eq_none (by omega), List.getElem?_eq_none (by omega)]
    rfl

/-- Going from number to number visits those of the lines, in their order, and stops. -/
theorem visit_eq (p : Program) (i : Nat) : p.visit i = (p.lines.map Line.number)[i]? := by
  induction i with
  | zero => rw [visit, first?, List.getElem?_map, List.head?_eq_getElem?]
  | succ i ih => rw [visit, ih, getElem?_bind_after?]

/-- The table answers as an ordered map does, from numbers to the lines stored last under them. -/
structure Maps (p : Program) (stored : List Line) : Prop where
  ascending : p.lines.Pairwise fun a b => a.number < b.number
  mem_lines_iff : ∀ line, line ∈ p.lines ↔ StoredLast stored line
  size_eq_length : p.size = p.lines.length
  size_eq_card : p.size = (stored.map Line.number).toFinset.card
  get?_iff : ∀ n line, p.get? n = some line ↔ line ∈ p.lines ∧ line.number = n
  first?_iff : ∀ k, p.first? = some k ↔ IsLeast (storedNumbers stored) k
  first?_none_iff : p.first? = none ↔ stored = []
  after?_iff : ∀ n k, p.after? n = some k ↔ IsLeast { m | m ∈ storedNumbers stored ∧ n < m } k
  after?_none_iff : ∀ n, p.after? n = none ↔ ∀ m ∈ storedNumbers stored, m ≤ n
  visit_eq : ∀ i, p.visit i = (p.lines.map Line.number)[i]?

/-- The line table is an ordered map, whatever is stored in it. -/
theorem ofLines_maps (stored : List Line) : (ofLines stored).Maps stored where
  ascending := (ofLines stored).ascending
  mem_lines_iff _ := mem_lines_ofLines
  size_eq_length := rfl
  size_eq_card := size_ofLines stored
  get?_iff _ _ := get?_eq_some_iff
  first?_iff k := by rw [← declared_ofLines, first?_eq_some_iff]
  first?_none_iff := first?_ofLines_eq_none_iff
  after?_iff n k := by rw [← declared_ofLines, after?_eq_some_iff]
  after?_none_iff n := by rw [← declared_ofLines, after?_eq_none_iff]
  visit_eq := visit_eq _

end NumberedBasic.Program
