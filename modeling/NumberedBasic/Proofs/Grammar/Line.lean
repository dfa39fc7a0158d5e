import NumberedBasic.Proofs.Grammar.Statement

/-! Reading a whole line follows the rules, where the end of the line stands last and nowhere
else. -/
namespace NumberedBasic.Grammar

/-- The end of the line stands last and nowhere else. -/
def EndsOnce (tokens : List Token) : Prop :=
  ∃ body last, tokens = body ++ [last] ∧ last.kind = .eol ∧ ∀ t ∈ body, t.kind ≠ .eol

/-- Neither the end of a line nor an error. -/
def IsProper (k : Kind) : Prop := k ≠ .eol ∧ k ≠ .error

theorem Number.isProper {t : Token} {v : Int} (h : Number t v) : IsProper t.kind := by
  simp [IsProper, (number_iff.mp h).1]

theorem Sign.isProper {p : Phrase} {k : Kind} {op : Operator} (h : Sign p k op) : IsProper k := by
  cases h <;> simp [IsProper]

theorem Comparison.isProper {k : Kind} {op : Operator} (h : Comparison k op) : IsProper k := by
  cases h <;> simp [IsProper]

theorem Derives.isProper {p : Phrase} {n : Nat} {u : List Token} {e : Expr} (h : Derives p n u e) :
    ∀ t ∈ u, IsProper t.kind := by
  induction h with
  | var ht => simp [IsProper, ht]
  | lit ht => simpa [IsProper] using ht.isProper
  | parens hl _ hr ih =>
      simp only [List.forall_mem_cons, List.forall_mem_append, hl, hr]
      simpa [IsProper] using ih
  | neg ht _ ih => simpa [IsProper, ht] using ih
  | factor _ ih => exact ih
  | term _ ih => exact ih
  | multiply _ hs _ ihu ihv =>
      exact List.forall_mem_append.mpr ⟨ihu, List.forall_mem_cons.mpr ⟨hs.isProper, ihv⟩⟩
  | add _ hs _ ihu ihv =>
      exact List.forall_mem_append.mpr ⟨ihu, List.forall_mem_cons.mpr ⟨hs.isProper, ihv⟩⟩

theorem Items.isProper {cut : Cut} {n : Nat} {u : List Token} {items : List PrintItem}
    (h : Items cut n u items) : ∀ t ∈ u, IsProper t.kind := by
  induction h with
  | nil => simp
  | string ht _ ih => simpa [IsProper, ht] using ih
  | comma ht _ ih => simpa [IsProper, ht] using ih
  | semicolon ht _ ih => simpa [IsProper, ht] using ih
  | expr he _ _ ih => exact List.forall_mem_append.mpr ⟨he.isProper, ih⟩

theorem Names.isProper {u : List Token} {names : List String} (h : Names u names) :
    ∀ t ∈ u, IsProper t.kind := by
  induction h with
  | one ht => simp [IsProper, ht]
  | more ht hc _ ih => simpa [IsProper, ht, hc] using ih

theorem Command.isProper {cut : Cut} {n : Nat} {u : List Token} {s : Statement}
    (h : Command cut n u s) : ∀ t ∈ u, IsProper t.kind := by
  induction h with
  | empty => simp
  | let_ hk hx hs he => simpa [IsProper, hk, hx, hs] using he.isProper
  | print hk hitems => simpa [IsProper, hk] using hitems.isProper
  | input hk hnames => simpa [IsProper, hk] using hnames.isProper
  | prompt hk hp hnames => simpa [IsProper, hk, hp] using hnames.isProper
  | for_ hk hx hs hu hm hv =>
      simp only [List.forall_mem_cons, List.forall_mem_append, hk, hx, hs, hm]
      simpa [IsProper] using ⟨hu.isProper, hv.isProper⟩
  | next hk hx => simp [IsProper, hk, hx]
  | if_ hk hu hc hv hm _ ih =>
      simp only [List.forall_mem_cons, List.forall_mem_append, hk, hm]
      simpa [IsProper] using ⟨hu.isProper, hc.isProper, hv.isProper, ih⟩
  | goto hk ht => simpa [IsProper, hk] using ht.isProper
  | gosub hk ht => simpa [IsProper, hk] using ht.isProper
  | return_ hk => simp [IsProper, hk]
  | end_ hk => simp [IsProper, hk]

theorem EndsOnce.eq_singleton {u rest : List Token} (h : EndsOnce (u ++ rest))
    (hu : ∀ t ∈ u, t.kind ≠ .eol) (hrest : (peek rest).kind = .eol) :
    ∃ e, rest = [e] ∧ e.kind = .eol := by
  obtain ⟨body, last, heq, hlast, hbody⟩ := h
  rcases List.eq_nil_or_concat rest with rfl | ⟨front, e, rfl⟩
  · refine absurd hlast (hu last ?_)
    rw [List.append_nil] at heq
    simp [heq]
  · rw [List.concat_eq_append] at heq hrest ⊢
    rw [← List.append_assoc] at heq
    obtain ⟨rfl, he⟩ := List.append_inj' heq rfl
    cases front with
    | nil => exact ⟨e, rfl, hrest⟩
    | cons t front => exact absurd hrest (hbody t (by simp))

theorem withEnd_eq {tokens : List Token} (h : EndsOnce tokens) : withEnd tokens = tokens := by
  obtain ⟨body, last, rfl, hlast, -⟩ := h
  simp [withEnd, hlast]

/-- A line is read exactly if the rules derive it with every expression of a PRINT cut where no
operator follows. -/
theorem parseLine_eq_ok_iff {tokens : List Token} (h : EndsOnce tokens) {l : Line} :
    parseLine tokens = .ok l ↔ Numbered Separated (nestingLimit - 1) tokens l := by
  rw [parseLine, withEnd_eq h]
  constructor
  · intro hparse
    obtain ⟨⟨l, rest⟩, hline, rfl⟩ := map_eq_ok hparse
    unfold line at hline
    dsimp only at hline
    split at hline
    · rename_i hk
      obtain ⟨v, hv, hline⟩ := of_bind_eq_ok hline
      obtain ⟨⟨s, ts⟩, hs, hline⟩ := of_bind_eq_ok hline
      obtain ⟨⟨e, ts'⟩, he, heq⟩ := of_bind_eq_ok hline
      cases heq
      have hcons : tokens = peek tokens :: tokens.tail := cons_peek_tail (by simp [hk])
      obtain ⟨u, hu, hread, -⟩ := statementWithin_sound _ hs
      have hnumber := lineNumber_eq_ok hk hv
      rw [hcons, hu, ← List.cons_append] at h
      have hpeek : (peek ts).kind = .eol := by
        by_contra hne
        simp [expect, hne, refuse] at he
      have hbody : ∀ t ∈ peek tokens :: u, IsProper t.kind :=
        List.forall_mem_cons.mpr ⟨hnumber.isProper, hread.isProper⟩
      obtain ⟨e, rfl, hek⟩ := h.eq_singleton (fun t ht => (hbody t ht).1) hpeek
      rw [hcons, hu]
      exact .mk hnumber hread hek
    · exact absurd hline refuse_ne_ok
  · intro hl
    cases hl with
    | @mk t e v u s ht hs he =>
        have hread : statement (u ++ [e]) = .ok (s, [e]) := hs.eq_ok (by simp) he
        simp [line, peek, (number_iff.mp ht).1, lineNumber_of_number ht, hread, expect_cons he]

end NumberedBasic.Grammar
