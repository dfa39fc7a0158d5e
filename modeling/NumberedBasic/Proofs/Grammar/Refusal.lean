import NumberedBasic.Proofs.Grammar.Outlook

/-! Reading a line keeps to its outlook: every token that is passed narrows the outlook, and the
token that an error is put down to is one that the outlook refuses. -/
namespace NumberedBasic.Grammar
open Outlook

/-- The end of the line stands somewhere, so that reading stops in front of it. -/
def Ended (tokens : List Token) : Prop := ∃ t ∈ tokens, t.kind = .eol

/-- Passing tokens leads from one outlook to where another one goes on with the next token. -/
def Passes (a b : Outlook) (tokens rest : List Token) : Prop :=
  ∃ u o, tokens = u ++ rest ∧ (∀ t ∈ u, t.kind ≠ .eol) ∧ a.run u = some o ∧
    o.step (peek rest) = b.step (peek rest)

/-- The error stands where the first token is refused. -/
def Blocks (a : Outlook) (tokens : List Token) (e : SyntaxError) : Prop :=
  ∃ u t v o, tokens = u ++ t :: v ∧ e.line = t.line ∧ e.column = t.column ∧
    a.run u = some o ∧ o.step t = none

/-- What was read keeps to the outlook, unless so many signs nest that reading gives up. -/
inductive Tracks {α : Type} (limit : Nat) (a b : Outlook) (tokens : List Token) :
    Except SyntaxError (α × List Token) → Prop
  | ok {x : α} {rest : List Token} : Passes a b tokens rest →
      Tracks limit a b tokens (.ok (x, rest))
  | error {e : SyntaxError} : Blocks a tokens e → Tracks limit a b tokens (.error e)
  | deep {e : SyntaxError} : limit ≤ nestings tokens → Tracks limit a b tokens (.error e)

section Combinators

variable {α β : Type} {limit : Nat} {a b c : Outlook} {tokens rest : List Token}

theorem Ended.exists_cons (h : Ended tokens) : ∃ t u, tokens = t :: u := by
  obtain ⟨t, ht, -⟩ := h
  exact List.exists_cons_of_ne_nil (List.ne_nil_of_mem ht)

theorem Ended.behind {t : Token} (h : Ended (t :: rest)) (hk : t.kind ≠ .eol) : Ended rest := by
  obtain ⟨x, hx, hxk⟩ := h
  rcases List.mem_cons.mp hx with rfl | hx
  · exact absurd hxk hk
  · exact ⟨x, hx, hxk⟩

theorem Passes.ended (h : Passes a b tokens rest) (hend : Ended tokens) : Ended rest := by
  obtain ⟨u, o, rfl, hu, -⟩ := h
  obtain ⟨t, ht, hk⟩ := hend
  rcases List.mem_append.mp ht with ht | ht
  · exact absurd hk (hu t ht)
  · exact ⟨t, ht, hk⟩

theorem Passes.length_le (h : Passes a b tokens rest) : rest.length ≤ tokens.length := by
  obtain ⟨u, o, rfl, -⟩ := h
  simp

theorem Passes.nestings_le (h : Passes a b tokens rest) : nestings rest ≤ nestings tokens := by
  obtain ⟨u, o, rfl, -⟩ := h
  rw [nestings_append]
  exact Nat.le_add_left _ _

/-- Passing nothing, where the outlooks agree on the next token. -/
theorem passes_of_step_eq (h : a.step (peek tokens) = b.step (peek tokens)) :
    Passes a b tokens tokens :=
  ⟨[], a, rfl, by simp, rfl, h⟩

theorem passes_token {t : Token} (hk : t.kind ≠ .eol) (h : a.step t = some b) :
    Passes a b (t :: rest) rest :=
  ⟨[t], b, rfl, by simpa using hk, by rw [run_cons, h]; rfl, rfl⟩

/-- Behind what was passed, any further tokens lead where they lead from the second outlook. -/
theorem Passes.run_eq {u v w : List Token} {o : Outlook} (h : a.run u = some o)
    (hstep : o.step (peek (v ++ w)) = b.step (peek (v ++ w))) :
    (v = [] ∧ a.run (u ++ v) = some o) ∨ (v ≠ [] ∧ a.run (u ++ v) = b.run v) := by
  cases v with
  | nil => exact .inl ⟨rfl, by rw [List.append_nil, h]⟩
  | cons t v =>
      refine .inr ⟨by simp, ?_⟩
      rw [run_append_of_run h]
      exact run_of_step_eq hstep v

theorem Passes.trans {middle : List Token} (h : Passes a b tokens middle)
    (h' : Passes b c middle rest) : Passes a c tokens rest := by
  obtain ⟨u, o, rfl, hu, hrun, hstep⟩ := h
  obtain ⟨v, o', rfl, hv, hrun', hstep'⟩ := h'
  have hboth : ∀ t ∈ u ++ v, t.kind ≠ .eol := List.forall_mem_append.mpr ⟨hu, hv⟩
  rcases Passes.run_eq hrun hstep with ⟨rfl, hall⟩ | ⟨-, hall⟩
  · cases hrun'
    exact ⟨u ++ [], o, by simp, hboth, hall, hstep.trans hstep'⟩
  · exact ⟨u ++ v, o', by simp, hboth, hall.trans hrun', hstep'⟩

theorem Passes.blocks {middle : List Token} (h : Passes a b tokens middle) {e : SyntaxError}
    (h' : Blocks b middle e) : Blocks a tokens e := by
  obtain ⟨u, o, rfl, -, hrun, hstep⟩ := h
  obtain ⟨v, t, w, o', rfl, hline, hcolumn, hrun', hnone⟩ := h'
  rcases Passes.run_eq hrun hstep with ⟨rfl, hall⟩ | ⟨-, hall⟩
  · cases hrun'
    exact ⟨u ++ [], t, w, o, by simp, hline, hcolumn, hall, hstep.trans hnone⟩
  · exact ⟨u ++ v, t, w, o', by simp, hline, hcolumn, hall.trans hrun', hnone⟩

/-- What follows may be read from the outlook that was reached. -/
theorem Passes.tracks (h : Passes a b tokens rest) {x : Except SyntaxError (α × List Token)}
    (hx : Tracks limit b c rest x) : Tracks limit a c tokens x := by
  cases hx with
  | ok h' => exact .ok (h.trans h')
  | error h' => exact .error (h.blocks h')
  | deep h' => exact .deep (Nat.le_trans h' h.nestings_le)

theorem Tracks.bind {x : Except SyntaxError (α × List Token)}
    {f : α × List Token → Except SyntaxError (β × List Token)} (h : Tracks limit a b tokens x)
    (hend : Ended tokens)
    (hf : ∀ y {rest}, Ended rest → rest.length ≤ tokens.length →
      Tracks limit b c rest (f (y, rest))) :
    Tracks limit a c tokens (x >>= f) := by
  cases h with
  | ok h => exact h.tracks (hf _ (h.ended hend) h.length_le)
  | error h => exact .error h
  | deep h => exact .deep h

theorem Tracks.map {x : Except SyntaxError (α × List Token)}
    {f : α × List Token → β × List Token} (h : Tracks limit a b tokens x)
    (hf : ∀ y rest, (f (y, rest)).2 = rest) : Tracks limit a b tokens (x.map f) := by
  cases h with
  | @ok y rest h =>
      have hrest : f (y, rest) = ((f (y, rest)).1, rest) := Prod.ext rfl (hf y rest)
      rw [Except.map, hrest]
      exact .ok h
  | error h => exact .error h
  | deep h => exact .deep h

/-- A token that the outlook refuses may be blamed. -/
theorem tracks_blame {t : Token} {u : List Token} (h : a.step t = none) (cause : SyntaxCause) :
    Tracks limit a b (t :: u) (.error (.ofToken t cause) : Except SyntaxError (α × List Token)) :=
  .error ⟨[], t, u, a, rfl, rfl, rfl, rfl, h⟩

theorem tracks_refuse (hend : Ended tokens) (h : a.step (peek tokens) = none)
    (cause : SyntaxCause) :
    Tracks limit a b tokens (refuse tokens cause : Except SyntaxError (α × List Token)) := by
  obtain ⟨t, u, rfl⟩ := hend.exists_cons
  exact tracks_blame h _

end Combinators

variable {limit : Nat} {tokens : List Token} {goals : List Goal} {ending : Ending}

theorem Goal.accept_of_kind? {g : Goal} {k : Kind} (h : g.kind? = some k) (t : Token) :
    g.accept t = if t.kind = k then some [] else none := by
  cases g <;> cases h <;> simp [Goal.accept, Goal.onlyIf, Goal.kind?]

theorem Goal.isOptional_of_kind? {g : Goal} {k : Kind} (h : g.kind? = some k) :
    g.isOptional = false := by
  cases g <;> cases h <;> rfl

/-- A single token that is due. -/
theorem tracks_expect {g : Goal} {k : Kind} (h : g.kind? = some k) (hend : Ended tokens) :
    Tracks limit (pending (g :: goals) ending) (pending goals ending) tokens (expect k tokens) := by
  have haccept := Goal.accept_of_kind? h (peek tokens)
  obtain ⟨t, u, rfl⟩ := hend.exists_cons
  unfold expect
  dsimp only
  by_cases hk : (peek (t :: u)).kind = k
  · rw [if_pos hk] at haccept ⊢
    refine .ok (passes_token ?_ (step_of_accept haccept))
    intro heol
    have hkeol : k = .eol := hk.symm.trans heol
    subst hkeol
    cases g <;> cases h
  · rw [if_neg hk] at haccept ⊢
    exact tracks_refuse hend (step_of_required (Goal.isOptional_of_kind? h) haccept) _

theorem tracks_identifier (hend : Ended tokens) :
    Tracks limit (pending (.name :: goals) ending) (pending goals ending) tokens
      (identifier tokens) :=
  (tracks_expect rfl hend).map fun _ _ => rfl

/-- The parser reads what the goals ask for, whatever is due behind them. -/
def Meets (limit : Nat) (goals : List Goal) {α : Type} (p : Parser α) : Prop :=
  ∀ tokens : List Token, Ended tokens → ∀ (more : List Goal) (ending : Ending),
    Tracks limit (pending (goals ++ more) ending) (pending more ending) tokens (p tokens)

section Chain

variable {operator? : Kind → Option Operator} {operand : Parser Expr} {g : Goal}
  {inner : List Goal}

-- The induction is on the bound, which has a token for each one that is left. It cannot run out
-- before the end of the line.
theorem tracks_chainFrom (hend : operator? .eol = none)
    (hg : ∀ t, g.accept t = Goal.onlyIf (operator? t.kind).isSome (inner ++ [g]))
    (hoptional : g.isOptional = true) (hoperand : Meets limit inner operand)
    {bound tokens : List Token} (htokens : Ended tokens) (hbound : tokens.length ≤ bound.length)
    (left : Expr) (more : List Goal) (ending : Ending) :
    Tracks limit (pending (g :: more) ending) (pending more ending) tokens
      (chainFrom operator? operand bound left tokens) := by
  induction bound generalizing tokens left with
  | nil =>
      obtain ⟨t, u, rfl⟩ := htokens.exists_cons
      cases hbound
  | cons b bound ih =>
      obtain ⟨t, u, rfl⟩ := htokens.exists_cons
      have haccept := hg t
      rw [chainFrom]
      cases hop : operator? (peek (t :: u)).kind with
      | none =>
          change operator? t.kind = none at hop
          rw [hop] at haccept
          exact .ok (passes_of_step_eq (step_of_optional hoptional haccept))
      | some op =>
          change operator? t.kind = some op at hop
          rw [hop] at haccept
          have hk : t.kind ≠ .eol := by
            intro hk
            rw [hk, hend] at hop
            cases hop
          have hpass : Passes (pending (g :: more) ending)
              (pending ((inner ++ [g]) ++ more) ending) (t :: u) u :=
            passes_token hk (step_of_accept haccept)
          refine hpass.tracks ?_
          have hright := hoperand u (hpass.ended htokens) (g :: more) ending
          rw [List.append_assoc, List.singleton_append]
          dsimp only [List.tail_cons]
          generalize operand u = x at hright
          cases hright with
          | @ok right rest hpass' =>
              refine hpass'.tracks (ih (hpass'.ended (hpass.ended htokens)) ?_ _)
              have hlength := hpass'.length_le
              simp only [List.length_cons] at hbound
              omega
          | error hblocks => exact .error hblocks
          | deep hdeep => exact .deep hdeep

theorem meets_chain (hend : operator? .eol = none)
    (hg : ∀ t, g.accept t = Goal.onlyIf (operator? t.kind).isSome (inner ++ [g]))
    (hoptional : g.isOptional = true) (hoperand : Meets limit inner operand) :
    Meets limit (inner ++ [g]) (chain operator? operand) := by
  intro tokens htokens more ending
  have hleft := hoperand tokens htokens (g :: more) ending
  rw [chain, List.append_assoc, List.singleton_append]
  generalize operand tokens = x at hleft
  cases hleft with
  | @ok left rest hpass =>
      exact hpass.tracks
        (tracks_chainFrom hend hg hoptional hoperand (hpass.ended htokens) (Nat.le_refl _) ..)
  | error hblocks => exact .error hblocks
  | deep hdeep => exact .deep hdeep

end Chain

theorem meets_sum {nested : Parser Expr} (h : Meets limit [.operand] nested) :
    Meets limit exprGoals (sum nested) := by
  have hproduct : Meets limit ([.operand] ++ [.factors]) (chain multiplicative? nested) :=
    meets_chain rfl (fun _ => rfl) rfl h
  have hsum : Meets limit ([.operand, .factors] ++ [.terms]) (sum nested) :=
    meets_chain rfl (fun _ => rfl) rfl hproduct
  exact hsum

/-- Behind a sign that nests, one sign less may nest something. -/
theorem tracks_nested {α : Type} {a b c : Outlook} {t : Token} {u : List Token}
    {x : Except SyntaxError (α × List Token)} (ht : nests t = true) (hstep : a.step t = some b)
    (h : Tracks limit b c u x) : Tracks (limit + 1) a c (t :: u) x := by
  have hk : t.kind ≠ .eol := by
    intro hk
    simp [nests, hk] at ht
  have hpass : Passes a b (t :: u) u := passes_token hk hstep
  cases h with
  | ok h => exact .ok (hpass.trans h)
  | error h => exact .error (hpass.blocks h)
  | deep h =>
      refine .deep ?_
      rw [nestings, List.countP_cons_of_pos ht]
      exact Nat.succ_le_succ h

theorem meets_operand {nested : Parser Expr} (h : Meets limit [.operand] nested) :
    Meets (limit + 1) [.operand] (operand nested) := by
  intro tokens hend more ending
  obtain ⟨t, u, rfl⟩ := hend.exists_cons
  have hpass : ∀ goals, operandGoals t = some goals →
      (pending (.operand :: more) ending).step t = some (pending (goals ++ more) ending) :=
    fun goals hgoals => step_of_accept hgoals
  unfold operand
  dsimp only [peek, List.tail_cons]
  split
  · rename_i hk
    refine .ok (passes_token (by simp [hk]) (hpass [] ?_))
    simp [operandGoals, hk]
  · rename_i hk
    cases hread : Decimal.read? t.text.toList with
    | some n =>
        refine .ok (passes_token (by simp [hk]) (hpass [] ?_))
        simp [operandGoals, hk, hread]
    | none => exact tracks_blame (IsFlawed.step_eq (.inr ⟨hk, hread⟩) _) _
  · rename_i hk
    have hstep := hpass (exprGoals ++ [.close]) (by simp [operandGoals, hk])
    have hu := hend.behind (by simp [hk])
    refine tracks_nested (by simp [nests, hk]) hstep ?_
    have hsum := meets_sum h u hu (.close :: more) ending
    rw [List.append_assoc, List.singleton_append]
    generalize sum nested u = x at hsum
    cases hsum with
    | ok hsum => exact hsum.tracks ((tracks_expect rfl (hsum.ended hu)).map fun _ _ => rfl)
    | error hblocks => exact .error hblocks
    | deep hdeep => exact .deep hdeep
  · rename_i hk
    have hstep := hpass [.operand] (by simp [operandGoals, hk])
    refine tracks_nested (by simp [nests, hk]) hstep ?_
    exact (h u (hend.behind (by simp [hk])) more ending).map fun _ _ => rfl
  · refine tracks_refuse hend (step_of_required rfl ?_) _
    unfold Goal.accept operandGoals peek
    dsimp only
    split <;> simp_all

/-- As many signs may nest something as there are levels. -/
theorem meets_nestedOperand (depth : Nat) : Meets (depth + 1) [.operand] (nestedOperand depth) := by
  induction depth with
  | zero => exact meets_operand fun tokens _ _ _ => .deep (Nat.zero_le _)
  | succ depth ih => exact meets_operand ih

theorem meets_expr : Meets nestingLimit exprGoals expr := meets_sum (meets_nestedOperand _)

theorem tracks_target (hend : Ended tokens) :
    Tracks limit (pending (.number :: goals) ending) (pending goals ending) tokens
      (target tokens) := by
  obtain ⟨t, u, rfl⟩ := hend.exists_cons
  unfold target expect
  dsimp only [peek]
  by_cases hk : t.kind = .integer
  · rw [if_pos hk, ok_bind]
    unfold lineNumber
    dsimp only
    cases hread : Decimal.read? t.text.toList with
    | some n =>
        have haccept : Goal.number.accept t = some [] := by
          simp [Goal.accept, Goal.onlyIf, hk, hread]
        exact .ok (passes_token (by simp [hk]) (step_of_accept haccept))
    | none => exact tracks_blame (IsFlawed.step_eq (.inr ⟨hk, hread⟩) _) _
  · rw [if_neg hk]
    refine tracks_refuse hend (step_of_required rfl ?_) _
    simp [Goal.accept, Goal.onlyIf, peek, hk]

theorem tracks_letStatement (hend : Ended tokens) :
    Tracks nestingLimit (pending (.name :: .equals :: exprGoals) .nothing) (pending [] .nothing)
      tokens (letStatement tokens) := by
  unfold letStatement
  refine (tracks_identifier hend).bind hend fun name rest hend _ => ?_
  refine (tracks_expect rfl hend).bind hend fun sign rest hend _ => ?_
  refine (meets_expr rest hend [] .nothing).bind hend fun value rest _ _ => ?_
  exact .ok (passes_of_step_eq rfl)

/-- Where an item of a PRINT is no separator and no string, an expression is due. -/
theorem step_items {t : Token} (heol : t.kind ≠ .eol) (hstring : t.kind ≠ .string)
    (hcomma : t.kind ≠ .symbol .comma) (hsemicolon : t.kind ≠ .symbol .semicolon) :
    (pending [] .items).step t = (pending exprGoals .items).step t := by
  have hitems : (pending [] .items).step t =
      (operandGoals t).map fun goals => pending (goals ++ [.factors, .terms]) .items := by
    simp only [step, stepPending, if_neg heol, Ending.accept]
  rw [hitems]
  cases hgoals : operandGoals t with
  | some goals =>
      have haccept : Goal.operand.accept t = some goals := hgoals
      exact (step_of_accept haccept).symm
  | none =>
      have haccept : Goal.operand.accept t = none := hgoals
      exact (step_of_required rfl haccept).symm

/-- A token that may stand before the end of the line leads to what is due behind it. -/
theorem step_of_ending {t : Token} {o : Outlook} (heol : t.kind ≠ .eol)
    (h : ending.accept t = some o) : (pending [] ending).step t = some o := by
  simp only [step, stepPending, if_neg heol, h]

theorem tracks_printItem (hend : Ended tokens) (heol : (peek tokens).kind ≠ .eol) :
    Tracks nestingLimit (pending [] .items) (pending [] .items) tokens (printItem tokens) := by
  obtain ⟨t, u, rfl⟩ := hend.exists_cons
  have heol : t.kind ≠ .eol := heol
  unfold printItem
  dsimp only [peek, List.tail_cons]
  split
  · rename_i hk
    exact .ok (passes_token heol (step_of_ending heol (by simp [Ending.accept, hk])))
  · rename_i hk
    exact .ok (passes_token heol (step_of_ending heol (by simp [Ending.accept, hk])))
  · rename_i hk
    exact .ok (passes_token heol (step_of_ending heol (by simp [Ending.accept, hk])))
  · rename_i hstring hcomma hsemicolon
    have hpass : Passes (pending [] .items) (pending exprGoals .items) (t :: u) (t :: u) :=
      passes_of_step_eq (step_items heol hstring hcomma hsemicolon)
    exact hpass.tracks ((meets_expr (t :: u) hend [] .items).map fun _ _ => rfl)

/-- In front of the end of the line nothing more need come, whatever may come. -/
theorem step_end {t : Token} (h : t.kind = .eol) (ending : Ending) :
    (pending [] ending).step t = (pending [] .nothing).step t := by
  simp only [step, stepPending, if_pos h]

theorem length_of_printItem {rest : List Token} {item : PrintItem}
    (h : printItem tokens = .ok (item, rest)) : rest.length < tokens.length := by
  rcases printItem_eq_ok h with ⟨t, rfl, -⟩ | ⟨t, rfl, -⟩ | ⟨t, rfl, -⟩ | ⟨e, he, -⟩
  · simp
  · simp
  · simp
  · obtain ⟨u, rfl, hu, -⟩ := expr_sound he
    obtain ⟨t, u, rfl, -⟩ := hu.exists_head
    simp only [List.length_append, List.length_cons]
    omega

theorem tracks_printItems {bound : List Token} (hend : Ended tokens)
    (hbound : tokens.length ≤ bound.length) :
    Tracks nestingLimit (pending [] .items) (pending [] .nothing) tokens
      (printItems bound tokens) := by
  induction bound generalizing tokens with
  | nil =>
      obtain ⟨t, u, rfl⟩ := hend.exists_cons
      cases hbound
  | cons b bound ih =>
      rw [printItems]
      by_cases heol : (peek tokens).kind = .eol
      · rw [if_pos heol]
        exact .ok (passes_of_step_eq (step_end heol .items))
      · rw [if_neg heol]
        have hitem := tracks_printItem hend heol
        cases hread : printItem tokens with
        | error e =>
            rw [hread] at hitem
            cases hitem with
            | error h => exact .error h
            | deep h => exact .deep h
        | ok x =>
            obtain ⟨item, rest⟩ := x
            rw [hread] at hitem
            cases hitem with
            | ok hpass =>
                have hlength := length_of_printItem hread
                rw [List.length_cons] at hbound
                have hrest : Tracks nestingLimit (pending [] .items) (pending [] .nothing) rest
                    (printItems bound rest) := ih (hpass.ended hend) (by omega)
                exact hpass.tracks (hrest.bind (hpass.ended hend) fun _ _ _ _ =>
                  .ok (passes_of_step_eq rfl))

theorem tracks_moreNames {bound : List Token} (hend : Ended tokens)
    (hbound : tokens.length ≤ bound.length) :
    Tracks limit (pending [.names] .nothing) (pending [] .nothing) tokens
      (moreNames bound tokens) := by
  induction bound generalizing tokens with
  | nil =>
      obtain ⟨t, u, rfl⟩ := hend.exists_cons
      cases hbound
  | cons b bound ih =>
      obtain ⟨t, u, rfl⟩ := hend.exists_cons
      rw [moreNames]
      by_cases hk : (peek (t :: u)).kind = .symbol .comma
      · rw [if_pos hk]
        have hk : t.kind = .symbol .comma := hk
        have haccept : Goal.names.accept t = some [.name, .names] := by
          simp [Goal.accept, Goal.onlyIf, hk]
        have heol : t.kind ≠ .eol := by simp [hk]
        have hpass : Passes (pending [.names] .nothing) (pending [.name, .names] .nothing)
            (t :: u) u := passes_token heol (step_of_accept haccept)
        have hend := hend.behind heol
        refine hpass.tracks ((tracks_identifier hend).bind hend fun name rest hend hlength => ?_)
        have hrest : rest.length ≤ bound.length := by
          simp only [List.length_cons] at hbound
          omega
        exact (ih hend hrest).bind hend fun _ _ _ _ => .ok (passes_of_step_eq rfl)
      · rw [if_neg hk]
        have haccept : Goal.names.accept (peek (t :: u)) = none := by
          simp [Goal.accept, Goal.onlyIf, hk]
        exact .ok (passes_of_step_eq (step_of_optional rfl haccept))

theorem passes_inputPrompt (hend : Ended tokens) :
    Passes (pending (.prompt :: goals) ending) (pending goals ending) tokens
      (inputPrompt tokens).2 := by
  obtain ⟨t, u, rfl⟩ := hend.exists_cons
  unfold inputPrompt
  dsimp only [peek, List.tail_cons]
  by_cases hk : t.kind = .string
  · rw [if_pos hk]
    have haccept : Goal.prompt.accept t = some [] := by simp [Goal.accept, Goal.onlyIf, hk]
    exact passes_token (by simp [hk]) (step_of_accept haccept)
  · rw [if_neg hk]
    have haccept : Goal.prompt.accept (peek (t :: u)) = none := by
      simp [Goal.accept, Goal.onlyIf, peek, hk]
    exact passes_of_step_eq (step_of_optional rfl haccept)

theorem tracks_inputStatement (hend : Ended tokens) :
    Tracks limit (pending [.prompt, .name, .names] .nothing) (pending [] .nothing) tokens
      (inputStatement tokens) := by
  have hpass : Passes (pending [.prompt, .name, .names] .nothing)
      (pending [.name, .names] .nothing) tokens (inputPrompt tokens).2 := passes_inputPrompt hend
  have hend := hpass.ended hend
  unfold inputStatement
  refine hpass.tracks ((tracks_identifier hend).bind hend fun name rest hend _ => ?_)
  refine (tracks_moreNames hend (Nat.le_refl _)).bind hend fun names rest _ _ => ?_
  exact .ok (passes_of_step_eq rfl)

theorem tracks_forStatement (hend : Ended tokens) :
    Tracks nestingLimit (pending (.name :: .equals :: exprGoals ++ .to :: exprGoals) .nothing)
      (pending [] .nothing) tokens (forStatement tokens) := by
  unfold forStatement
  refine (tracks_identifier hend).bind hend fun name rest hend _ => ?_
  refine (tracks_expect rfl hend).bind hend fun sign rest hend _ => ?_
  refine (meets_expr rest hend (.to :: exprGoals) .nothing).bind hend fun first rest hend _ => ?_
  refine (tracks_expect rfl hend).bind hend fun sign rest hend _ => ?_
  refine (meets_expr rest hend [] .nothing).bind hend fun last rest _ _ => ?_
  exact .ok (passes_of_step_eq rfl)

theorem tracks_condition (hend : Ended tokens) :
    Tracks nestingLimit (pending (exprGoals ++ .relation :: exprGoals ++ goals) ending)
      (pending goals ending) tokens (condition tokens) := by
  unfold condition
  rw [List.append_assoc, List.cons_append]
  refine (meets_expr tokens hend (.relation :: (exprGoals ++ goals)) ending).bind hend
    fun left rest hend _ => ?_
  obtain ⟨t, u, rfl⟩ := hend.exists_cons
  dsimp only [peek, List.tail_cons]
  cases hop : relation? t.kind with
  | some op =>
      have haccept : Goal.relation.accept t = some [] := by
        simp [Goal.accept, Goal.onlyIf, hop]
      have heol : t.kind ≠ .eol := by
        intro hk
        rw [hk] at hop
        cases hop
      have hpass : Passes (pending (.relation :: (exprGoals ++ goals)) ending)
          (pending (exprGoals ++ goals) ending) (t :: u) u :=
        passes_token heol (step_of_accept haccept)
      have hend := hend.behind heol
      exact hpass.tracks ((meets_expr u hend goals ending).bind hend fun _ _ _ _ =>
        .ok (passes_of_step_eq rfl))
  | none =>
      refine tracks_refuse hend (step_of_required rfl ?_) _
      simp [Goal.accept, Goal.onlyIf, peek, hop]

/-- A statement keeps to its outlook, if the body of an IF does that is read from fewer tokens. -/
theorem tracks_statementWith {body : Parser Statement} (hend : Ended tokens)
    (hbody : ∀ rest : List Token, Ended rest → rest.length < tokens.length →
      Tracks nestingLimit (pending [] .command) (pending [] .nothing) rest (body rest)) :
    Tracks nestingLimit (pending [] .command) (pending [] .nothing) tokens
      (statementWith body tokens) := by
  obtain ⟨t, u, rfl⟩ := hend.exists_cons
  -- Behind a keyword the rest of the statement is due.
  have hword : ∀ {k : Keyword} {o : Outlook} {x : Except SyntaxError (Statement × List Token)},
      t.kind = .keyword k → Ending.command.accept t = some o →
      (Ended u → Tracks nestingLimit o (pending [] .nothing) u x) →
      Tracks nestingLimit (pending [] .command) (pending [] .nothing) (t :: u) x := by
    intro k o x hk haccept hx
    have heol : t.kind ≠ .eol := by simp [hk]
    have hpass : Passes (pending [] .command) o (t :: u) u :=
      passes_token heol (step_of_ending heol haccept)
    exact hpass.tracks (hx (hpass.ended hend))
  unfold statementWith
  dsimp only [peek, List.tail_cons]
  split
  · rename_i hk
    exact .ok (passes_of_step_eq (step_end hk .command))
  · rename_i hk
    exact hword hk (by simp only [Ending.accept, hk]) tracks_letStatement
  · rename_i hk
    exact hword hk (by simp only [Ending.accept, hk])
      fun hu => (tracks_printItems hu (Nat.le_refl _)).map fun _ _ => rfl
  · rename_i hk
    exact hword hk (by simp only [Ending.accept, hk]) tracks_inputStatement
  · rename_i hk
    exact hword hk (by simp only [Ending.accept, hk]) tracks_forStatement
  · rename_i hk
    exact hword hk (by simp only [Ending.accept, hk])
      fun hu => (tracks_identifier hu).map fun _ _ => rfl
  · rename_i hk
    have haccept : Ending.command.accept t =
        some (pending (exprGoals ++ .relation :: exprGoals ++ [.then_]) .command) := by
      simp only [Ending.accept, hk]
    refine hword hk haccept fun hu => ?_
    refine (tracks_condition hu).bind hu fun c rest hend hlength => ?_
    refine (tracks_expect rfl hend).bind hend fun sign rest' hend hlength' => ?_
    have hshorter : rest'.length < (t :: u).length := by
      rw [List.length_cons]
      omega
    exact (hbody rest' hend hshorter).bind hend fun _ _ _ _ => .ok (passes_of_step_eq rfl)
  · rename_i hk
    exact hword hk (by simp only [Ending.accept, hk])
      fun hu => (tracks_target hu).map fun _ _ => rfl
  · rename_i hk
    exact hword hk (by simp only [Ending.accept, hk])
      fun hu => (tracks_target hu).map fun _ _ => rfl
  · rename_i hk
    exact hword hk (by simp only [Ending.accept, hk]) fun _ => .ok (passes_of_step_eq rfl)
  · rename_i hk
    exact hword hk (by simp only [Ending.accept, hk]) fun _ => .ok (passes_of_step_eq rfl)
  · refine tracks_refuse hend ?_ _
    simp only [peek, step, stepPending, Ending.accept]
    split <;> simp_all

theorem tracks_statementWithin {bound : List Token} (hend : Ended tokens)
    (hbound : tokens.length ≤ bound.length) :
    Tracks nestingLimit (pending [] .command) (pending [] .nothing) tokens
      (statementWithin bound tokens) := by
  induction bound generalizing tokens with
  | nil =>
      obtain ⟨t, u, rfl⟩ := hend.exists_cons
      cases hbound
  | cons b bound ih =>
      refine tracks_statementWith hend fun rest hrest hlength => ih hrest ?_
      rw [List.length_cons] at hbound
      omega

theorem tracks_statement (hend : Ended tokens) :
    Tracks nestingLimit (pending [] .command) (pending [] .nothing) tokens (statement tokens) :=
  tracks_statementWithin hend (Nat.le_refl _)

/-- The tokens in front of the rest run from the start of a line to its end. -/
def Closes (tokens rest : List Token) : Prop :=
  ∃ u t, tokens = u ++ t :: rest ∧ (∀ x ∈ u, x.kind ≠ .eol) ∧ t.kind = .eol ∧
    start.run (u ++ [t]) = some closed

theorem Passes.closes {t : Token} {rest : List Token}
    (h : Passes start (pending [] .nothing) tokens (t :: rest)) (ht : t.kind = .eol) :
    Closes tokens rest := by
  obtain ⟨u, o, rfl, hu, hrun, hstep⟩ := h
  have hclosed : o.step t = some closed := by
    change o.step t = (pending [] .nothing).step t at hstep
    rw [hstep]
    simp only [step, stepPending, if_pos ht]
  refine ⟨u, t, rfl, hu, ht, ?_⟩
  rw [run_append_of_run hrun, run_cons, hclosed]
  rfl

/-- A line is read up to its end, or an error stands where its first token is refused. -/
theorem line_cases (hend : Ended tokens) :
    (∃ l rest, line tokens = .ok (l, rest) ∧ Closes tokens rest) ∨
    (∃ e, line tokens = .error e ∧ (Blocks start tokens e ∨ nestingLimit ≤ nestings tokens)) := by
  obtain ⟨t, u, rfl⟩ := hend.exists_cons
  unfold line
  dsimp only [peek, List.tail_cons]
  by_cases hk : t.kind = .integer
  · rw [if_pos hk]
    unfold lineNumber
    cases hread : Decimal.read? t.text.toList with
    | none =>
        have hflawed : IsFlawed t := .inr ⟨hk, hread⟩
        exact .inr ⟨_, rfl, .inl ⟨[], t, u, _, rfl, rfl, rfl, rfl, hflawed.step_eq start⟩⟩
    | some n =>
        dsimp only
        rw [ok_bind]
        have heol : t.kind ≠ .eol := by simp [hk]
        have haccept : Goal.number.accept t = some [] := by
          simp [Goal.accept, Goal.onlyIf, hk, hread]
        have hnumber : Passes start (pending [] .command) (t :: u) u :=
          passes_token heol (step_of_accept haccept)
        have hstatement := hnumber.tracks (tracks_statement (hend.behind heol))
        generalize statement u = x at hstatement
        cases hstatement with
        | error hblocks => exact .inr ⟨_, rfl, .inl hblocks⟩
        | deep hdeep => exact .inr ⟨_, rfl, .inr hdeep⟩
        | @ok s rest hpass =>
            rw [ok_bind]
            dsimp only
            obtain ⟨e, v, rfl⟩ := (hpass.ended hend).exists_cons
            by_cases he : e.kind = .eol
            · rw [expect_cons he]
              exact .inl ⟨_, v, rfl, hpass.closes he⟩
            · have hnone : (pending [] .nothing).step e = none := by
                simp only [step, stepPending, if_neg he, Ending.accept]
              have hblocks : ∀ cause, Blocks (pending [] .nothing) (e :: v) (.ofToken e cause) :=
                fun cause => ⟨[], e, v, _, rfl, rfl, rfl, rfl, hnone⟩
              have hrefuse : expect .eol (e :: v) = refuse (e :: v) (.expected .eol e.kind) :=
                if_neg he
              rw [hrefuse]
              exact .inr ⟨_, rfl, .inl (hpass.blocks (hblocks _))⟩
  · rw [if_neg hk]
    have hnone : start.step t = none :=
      step_of_required rfl (by simp [Goal.accept, Goal.onlyIf, hk])
    exact .inr ⟨_, rfl, .inl ⟨[], t, u, start, rfl, rfl, rfl, rfl, hnone⟩⟩

end NumberedBasic.Grammar
