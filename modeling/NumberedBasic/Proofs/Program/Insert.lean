import Mathlib.Data.List.Nodup
import Mathlib.Order.Bounds.Basic
import NumberedBasic.Proofs.Program.Successor

/-! What the line table answers when a line has been stored in it. Its answers determine it: two
tables that find the same lines are one. -/
namespace NumberedBasic.Program

variable {p q : Program} {n k : Int} {line : Line}

theorem find?_insertLine (line : Line) (lines : List Line) (n : Int) :
    (insertLine line lines).find? (fun x => x.number == n) =
      if line.number = n then some line else lines.find? fun x => x.number == n := by
  induction lines with
  | nil => by_cases hn : line.number = n <;> simp [insertLine, hn]
  | cons head rest ih =>
      rw [insertLine]
      split
      · by_cases hn : line.number = n <;> simp [List.find?_cons, hn]
      · split
        · rename_i heq
          by_cases hn : line.number = n <;> simp [← heq, hn]
        · rename_i hne
          by_cases hhead : head.number = n
          · have hn : line.number ≠ n := fun h => hne (h.trans hhead.symm)
            simp [hhead, hn]
          · simp [hhead, ih]

/-- The line that was stored last is the one found under its number. -/
theorem get?_insert (p : Program) (line : Line) (n : Int) :
    (p.insert line).get? n = if line.number = n then some line else p.get? n :=
  find?_insertLine line p.lines n

theorem mem_declared_insert : n ∈ (p.insert line).declared ↔ line.number = n ∨ n ∈ p.declared := by
  rw [← not_iff_not, ← get?_eq_none_iff, get?_insert, not_or, ← get?_eq_none_iff]
  by_cases hn : line.number = n <;> simp [hn]

theorem number_of_get? (h : p.get? n = some line) : line.number = n := by
  simpa using List.find?_some h

theorem number_injOn (p : Program) {a b : Line} (ha : a ∈ p.lines) (hb : b ∈ p.lines)
    (h : a.number = b.number) : a = b := by
  have hnodup : (p.lines.map Line.number).Nodup :=
    List.pairwise_map.mpr (p.ascending.imp Int.ne_of_lt)
  exact List.inj_on_of_nodup_map hnodup ha hb h

theorem get?_eq_some_iff : p.get? n = some line ↔ line ∈ p.lines ∧ line.number = n := by
  constructor
  · intro h
    exact ⟨mem_of_get? h, number_of_get? h⟩
  · rintro ⟨hline, rfl⟩
    cases hget : p.get? line.number with
    | none => exact absurd ⟨line, hline, rfl⟩ (get?_eq_none_iff.mp hget)
    | some found => rw [p.number_injOn (mem_of_get? hget) hline (number_of_get? hget)]

theorem eq_of_get? (h : ∀ n, p.get? n = q.get? n) : p = q := by
  have hmem : ∀ line, line ∈ p.lines ↔ line ∈ q.lines := by
    intro line
    have hiff : p.get? line.number = some line ↔ q.get? line.number = some line := by rw [h]
    simpa [get?_eq_some_iff] using hiff
  have hnodup : ∀ r : Program, r.lines.Nodup := by
    intro r
    exact r.ascending.imp fun hlt heq => Int.ne_of_lt hlt (congrArg Line.number heq)
  apply eq_of_lines
  refine List.Perm.eq_of_pairwise ?_ p.ascending q.ascending
    ((List.perm_ext_iff_of_nodup (hnodup p) (hnodup q)).mpr hmem)
  intro a b _ _ hab hba
  exact absurd hab (Int.not_lt.mpr (Int.le_of_lt hba))

theorem after?_eq_some_iff : p.after? n = some k ↔ IsLeast {j | j ∈ p.declared ∧ n < j} k := by
  refine ⟨isLeast_of_after?, ?_⟩
  intro h
  cases hafter : p.after? n with
  | none => exact absurd h.1.2 (Int.not_lt.mpr (after?_eq_none_iff.mp hafter k h.1.1))
  | some j => rw [(isLeast_of_after? hafter).unique h]

theorem first?_eq_some_iff : p.first? = some k ↔ IsLeast p.declared k := by
  have hleast : ∀ {j}, p.first? = some j → IsLeast p.declared j := by
    intro j h
    obtain ⟨line, hhead, rfl⟩ := Option.map_eq_some_iff.mp h
    obtain ⟨rest, hlines⟩ := List.head?_eq_some_iff.mp hhead
    refine ⟨first?_mem_declared h, ?_⟩
    rintro _ ⟨other, hother, rfl⟩
    have hascending := p.ascending
    rw [hlines] at hother hascending
    rcases List.mem_cons.mp hother with rfl | hother
    · exact Int.le_refl _
    · exact Int.le_of_lt ((List.pairwise_cons.mp hascending).1 other hother)
  refine ⟨hleast, ?_⟩
  intro h
  obtain ⟨line, hline, -⟩ := h.1
  obtain ⟨j, hfirst⟩ := exists_first? (List.ne_nil_of_mem hline)
  rw [hfirst, (hleast hfirst).unique h]

end NumberedBasic.Program
