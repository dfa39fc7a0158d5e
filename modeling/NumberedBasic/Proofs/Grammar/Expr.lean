import NumberedBasic.Proofs.Grammar.Rules

/-! Reading expressions follows the rules. The tokens that are taken from the front derive the tree
that is given, and every derivable expression is read to its end where no operator follows. -/
namespace NumberedBasic.Grammar

theorem map_eq_ok {α β : Type} {x : Except SyntaxError α} {f : α → β} {b : β}
    (h : x.map f = .ok b) : ∃ a, x = .ok a ∧ f a = b := by
  cases x with
  | error e => cases h
  | ok a => exact ⟨a, rfl, Except.ok.inj h⟩

theorem refuse_ne_ok {α : Type} {tokens : List Token} {cause : SyntaxCause} {a : α} :
    refuse tokens cause ≠ .ok a := by
  intro h
  cases h

theorem cons_peek_tail {tokens : List Token} (h : (peek tokens).kind ≠ .eol) :
    tokens = peek tokens :: tokens.tail := by
  cases tokens with
  | nil => exact absurd rfl h
  | cons t rest => rfl

theorem additive?_eq_some_iff {k : Kind} {op : Operator} :
    additive? k = some op ↔ Sign .sum k op := by
  constructor
  · intro h
    unfold additive? at h
    split at h <;> cases h
    · exact .plus
    · exact .minus
  · intro h
    cases h <;> rfl

theorem multiplicative?_eq_some_iff {k : Kind} {op : Operator} :
    multiplicative? k = some op ↔ Sign .product k op := by
  constructor
  · intro h
    unfold multiplicative? at h
    split at h <;> cases h
    · exact .times
    · exact .over
  · intro h
    cases h <;> rfl

theorem relation?_eq_some_iff {k : Kind} {op : Operator} :
    relation? k = some op ↔ Comparison k op := by
  constructor
  · intro h
    unfold relation? at h
    split at h <;> cases h
    · exact .less
    · exact .equal
    · exact .greater
  · intro h
    cases h <;> rfl

theorem number_iff {t : Token} {v : Int} :
    Number t v ↔ t.kind = .integer ∧ Decimal.read? t.text.toList = some v := by
  rw [Decimal.read?_eq_some_iff]
  constructor
  · intro h
    cases h with
    | mk hk hd hr => exact ⟨hk, hd, hr⟩
  · intro h
    exact .mk h.1 h.2.1 h.2.2

/-- No operator stands in front, so an expression that ends here cannot go on. -/
def Stops (tokens : List Token) : Prop :=
  additive? (peek tokens).kind = none ∧ multiplicative? (peek tokens).kind = none

theorem Stops.of_append {u v : List Token} (h : Stops (u ++ v)) : Stops u := by
  cases u with
  | nil => exact ⟨rfl, rfl⟩
  | cons t rest => exact h

/-- An expression ends where no operator follows. -/
def Separated : Cut := fun _ v => Stops v

/-- Whatever the parser gives, the tokens it took stand in the relation to it, and those that it
left satisfy the condition. -/
def Sound {α : Type} (p : Parser α) (R : List Token → α → Prop) (left : List Token → Prop) : Prop :=
  ∀ {tokens : List Token} {a : α} {rest : List Token}, p tokens = .ok (a, rest) →
    ∃ u, tokens = u ++ rest ∧ R u a ∧ left rest

section Chain
variable {operator? : Kind → Option Operator} {operand : Parser Expr}
  {R S : List Token → Expr → Prop} {left : List Token → Prop}

-- The induction is on the bound; what is read so far is always an `S`. The bound runs out only
-- where no token is left, so the chain ends at a token that is no operator.
theorem chainFrom_sound (hend : operator? .eol = none) (hoperand : Sound operand R left)
    (hmore : ∀ {u v t op e f}, S u e → operator? t.kind = some op → R v f →
      S (u ++ t :: v) (.binary op e f))
    {bound w tokens rest : List Token} {first e : Expr} (hw : S w first) (hleft : left tokens)
    (hbound : tokens.length ≤ bound.length)
    (h : chainFrom operator? operand bound first tokens = .ok (e, rest)) :
    ∃ u, tokens = u ++ rest ∧ S (w ++ u) e ∧ left rest ∧ operator? (peek rest).kind = none := by
  induction bound generalizing w tokens first with
  | nil =>
      obtain rfl : tokens = [] := List.eq_nil_of_length_eq_zero (by simpa using hbound)
      cases h
      exact ⟨[], rfl, by simpa using hw, hleft, hend⟩
  | cons b bound ih =>
      rw [chainFrom] at h
      cases hop : operator? (peek tokens).kind with
      | none =>
          rw [hop] at h
          cases h
          exact ⟨[], rfl, by simpa using hw, hleft, hop⟩
      | some op =>
          simp only [hop] at h
          have hcons : tokens = peek tokens :: tokens.tail := by
            refine cons_peek_tail fun hk => ?_
            rw [hk, hend] at hop
            cases hop
          cases hright : operand tokens.tail with
          | error e => simp [hright] at h
          | ok right =>
              obtain ⟨f, ts⟩ := right
              simp only [hright] at h
              obtain ⟨v, hv, hf, hts⟩ := hoperand hright
              have hlen : ts.length ≤ bound.length := by
                rw [hcons, hv] at hbound
                simp only [List.length_cons, List.length_append] at hbound
                omega
              obtain ⟨u, hu, hS, hrest⟩ := ih (hmore hw hop hf) hts hlen h
              refine ⟨peek tokens :: (v ++ u), ?_, by simpa using hS, hrest⟩
              rw [List.cons_append, List.append_assoc, ← hu, ← hv]
              exact hcons

theorem chain_sound (hend : operator? .eol = none) (hoperand : Sound operand R left)
    (hone : ∀ {u e}, R u e → S u e)
    (hmore : ∀ {u v t op e f}, S u e → operator? t.kind = some op → R v f →
      S (u ++ t :: v) (.binary op e f)) :
    Sound (chain operator? operand) S
      fun rest => left rest ∧ operator? (peek rest).kind = none := by
  intro tokens e rest h
  rw [chain] at h
  cases hfirst : operand tokens with
  | error e => simp [hfirst] at h
  | ok first =>
      obtain ⟨f, ts⟩ := first
      simp only [hfirst] at h
      obtain ⟨w, hw, hf, hts⟩ := hoperand hfirst
      obtain ⟨u, hu, hS, hrest⟩ :=
        chainFrom_sound hend hoperand hmore (hone hf) hts (Nat.le_refl _) h
      exact ⟨w ++ u, by rw [hw, hu, List.append_assoc], hS, hrest⟩

end Chain

theorem sum_sound {nested : Parser Expr} {n : Nat}
    (h : Sound nested (Derives .operand n) fun _ => True) :
    Sound (sum nested) (Derives .sum n) Stops := by
  have hproduct : Sound (chain multiplicative? nested) (Derives .product n)
      fun rest => True ∧ multiplicative? (peek rest).kind = none :=
    chain_sound rfl h .factor fun hu hop hv =>
      .multiply hu (multiplicative?_eq_some_iff.mp hop) hv
  have hsum : Sound (sum nested) (Derives .sum n) _ :=
    chain_sound rfl hproduct .term fun hu hop hv => .add hu (additive?_eq_some_iff.mp hop) hv
  intro tokens e rest he
  obtain ⟨u, hu, hd, hrest⟩ := hsum he
  exact ⟨u, hu, hd, hrest.2, hrest.1.2⟩

theorem expect_eq_ok {k : Kind} {tokens rest : List Token} {t : Token}
    (h : expect k tokens = .ok (t, rest)) (hk : k ≠ .eol) : tokens = t :: rest ∧ t.kind = k := by
  unfold expect at h
  dsimp only at h
  split at h
  · rename_i hpeek
    cases h
    exact ⟨cons_peek_tail (hpeek ▸ hk), hpeek⟩
  · exact absurd h refuse_ne_ok

/-- The four forms of an operand, with what is left to the nested parser. -/
theorem operand_eq_ok {nested : Parser Expr} {tokens rest : List Token} {e : Expr}
    (h : operand nested tokens = .ok (e, rest)) :
    (∃ t, tokens = t :: rest ∧ t.kind = .identifier ∧ e = .var t.text) ∨
    (∃ t v, tokens = t :: rest ∧ Number t v ∧ e = .lit (Int64.ofInt v)) ∨
    (∃ l r ts, tokens = l :: ts ∧ l.kind = .symbol .open_ ∧
      sum nested ts = .ok (e, r :: rest) ∧ r.kind = .symbol .close) ∨
    (∃ t ts f, tokens = t :: ts ∧ t.kind = .symbol .minus ∧ nested ts = .ok (f, rest) ∧
      e = .binary .sub (.lit 0) f) := by
  unfold operand at h
  dsimp only at h
  split at h
  · rename_i hk
    cases h
    exact .inl ⟨peek tokens, cons_peek_tail (by simp [hk]), hk, rfl⟩
  · rename_i hk
    split at h
    · rename_i v hv
      cases h
      exact .inr (.inl ⟨peek tokens, v, cons_peek_tail (by simp [hk]), number_iff.mpr ⟨hk, hv⟩,
        rfl⟩)
    · cases h
  · rename_i hk
    split at h
    · rename_i f ts hsum
      obtain ⟨⟨r, ts'⟩, hclose, heq⟩ := map_eq_ok h
      cases heq
      obtain ⟨rfl, hr⟩ := expect_eq_ok hclose (by decide)
      exact .inr (.inr (.inl ⟨peek tokens, r, tokens.tail, cons_peek_tail (by simp [hk]), hk, hsum,
        hr⟩))
    · cases h
  · rename_i hk
    obtain ⟨⟨f, ts⟩, hnested, heq⟩ := map_eq_ok h
    cases heq
    exact .inr (.inr (.inr ⟨peek tokens, tokens.tail, f, cons_peek_tail (by simp [hk]), hk, hnested,
      rfl⟩))
  · exact absurd h refuse_ne_ok

theorem nestedOperand_sound (n : Nat) :
    Sound (nestedOperand n) (Derives .operand n) fun _ => True := by
  induction n with
  | zero =>
      intro tokens e rest h
      rcases operand_eq_ok h with ⟨t, rfl, ht, rfl⟩ | ⟨t, v, rfl, ht, rfl⟩ |
        ⟨l, r, ts, -, -, hin, -⟩ | ⟨t, ts, f, -, -, hin, -⟩
      · exact ⟨[t], rfl, .var ht, trivial⟩
      · exact ⟨[t], rfl, .lit ht, trivial⟩
      · cases hin
      · cases hin
  | succ n ih =>
      intro tokens e rest h
      rcases operand_eq_ok h with ⟨t, rfl, ht, rfl⟩ | ⟨t, v, rfl, ht, rfl⟩ |
        ⟨l, r, ts, rfl, hl, hin, hr⟩ | ⟨t, ts, f, rfl, ht, hin, rfl⟩
      · exact ⟨[t], rfl, .var ht, trivial⟩
      · exact ⟨[t], rfl, .lit ht, trivial⟩
      · obtain ⟨u, rfl, hu, -⟩ := sum_sound ih hin
        exact ⟨l :: (u ++ [r]), by simp, .parens hl hu hr, trivial⟩
      · obtain ⟨u, rfl, hu, -⟩ := ih hin
        exact ⟨t :: u, rfl, .neg ht hu, trivial⟩

theorem expr_sound : Sound expr (Derives .sum (nestingLimit - 1)) Stops :=
  sum_sound (nestedOperand_sound _)

section Chain
variable {operator? : Kind → Option Operator} {operand : Parser Expr}

theorem chainFrom_of_stop {bound v : List Token} {e : Expr}
    (h : operator? (peek v).kind = none) :
    chainFrom operator? operand bound e v = .ok (e, v) := by
  cases bound with
  | nil => rfl
  | cons b bound => rw [chainFrom, h]

theorem chainFrom_step {bound v w : List Token} {t : Token} {op : Operator} {e f : Expr}
    (ht : operator? t.kind = some op) (hf : operand (v ++ w) = .ok (f, w))
    (hbound : (t :: (v ++ w)).length ≤ bound.length) :
    ∃ bound', w.length ≤ bound'.length ∧
      chainFrom operator? operand bound e (t :: (v ++ w))
        = chainFrom operator? operand bound' (.binary op e f) w := by
  cases bound with
  | nil => simp at hbound
  | cons b bound =>
      refine ⟨bound, ?_, ?_⟩
      · simp only [List.length_cons, List.length_append] at hbound
        omega
      · simp only [chainFrom, peek, ht, List.tail_cons, hf]

end Chain

/-- What it means for a phrase to be read. A chain may still go on behind its last operand, so of
products and sums only the state that the chain is in can be told. -/
def Completes : Phrase → Nat → List Token → Expr → Prop
  | .operand, n, u, e => ∀ v, nestedOperand n (u ++ v) = .ok (e, v)
  | .product, n, u, e => ∀ v, ∃ bound, v.length ≤ bound.length ∧
      chain multiplicative? (nestedOperand n) (u ++ v)
        = chainFrom multiplicative? (nestedOperand n) bound e v
  | .sum, n, u, e => ∀ v, multiplicative? (peek v).kind = none → ∃ bound, v.length ≤ bound.length ∧
      sum (nestedOperand n) (u ++ v)
        = chainFrom additive? (chain multiplicative? (nestedOperand n)) bound e v

theorem nestedOperand_eq (n : Nat) : ∃ nested, nestedOperand n = operand nested := by
  cases n with
  | zero => exact ⟨_, rfl⟩
  | succ n => exact ⟨_, rfl⟩

theorem Completes.product_eq_ok {n : Nat} {u v : List Token} {e : Expr}
    (h : Completes .product n u e) (hv : multiplicative? (peek v).kind = none) :
    chain multiplicative? (nestedOperand n) (u ++ v) = .ok (e, v) := by
  obtain ⟨bound, -, hchain⟩ := h v
  rw [hchain, chainFrom_of_stop hv]

theorem Completes.sum_eq_ok {n : Nat} {u v : List Token} {e : Expr}
    (h : Completes .sum n u e) (hv : Stops v) : sum (nestedOperand n) (u ++ v) = .ok (e, v) := by
  obtain ⟨bound, -, hchain⟩ := h v hv.2
  rw [hchain, chainFrom_of_stop hv.1]

theorem multiplicative?_of_sign {k : Kind} {op : Operator} (h : Sign .sum k op) :
    multiplicative? k = none := by
  cases h <;> rfl

theorem Derives.completes {p : Phrase} {n : Nat} {u : List Token} {e : Expr}
    (h : Derives p n u e) : Completes p n u e := by
  induction h with
  | @var n t ht =>
      intro v
      obtain ⟨nested, hn⟩ := nestedOperand_eq n
      simp [hn, operand, peek, ht]
  | @lit n t value ht =>
      intro v
      obtain ⟨nested, hn⟩ := nestedOperand_eq n
      obtain ⟨hk, hread⟩ := number_iff.mp ht
      simp [hn, operand, peek, hk, hread]
  | @parens n l r u e hl _ hr ih =>
      intro v
      have hsum : sum (nestedOperand n) (u ++ r :: v) = .ok (e, r :: v) :=
        Completes.sum_eq_ok ih ⟨by simp [peek, hr, additive?], by simp [peek, hr, multiplicative?]⟩
      simp [nestedOperand, operand, peek, hl, hsum, expect, hr, Except.map]
  | neg ht _ ih =>
      intro v
      simp [nestedOperand, operand, peek, ht, ih v, Except.map]
  | factor _ ih =>
      intro v
      exact ⟨v, Nat.le_refl _, by simp only [chain, ih v]⟩
  | @multiply n t op u v e f _ hs _ ihu ihv =>
      intro w
      obtain ⟨bound, hbound, hchain⟩ := ihu (t :: (v ++ w))
      obtain ⟨bound', hbound', hstep⟩ :=
        chainFrom_step (e := e) (multiplicative?_eq_some_iff.mpr hs) (ihv w) hbound
      exact ⟨bound', hbound', by rw [← hstep, ← hchain]; simp⟩
  | term _ ih =>
      intro v hv
      exact ⟨v, Nat.le_refl _, by rw [sum, chain, Completes.product_eq_ok ih hv]⟩
  | @add n t op u v e f _ hs _ ihu ihv =>
      intro w hw
      obtain ⟨bound, hbound, hchain⟩ := ihu (t :: (v ++ w)) (multiplicative?_of_sign hs)
      obtain ⟨bound', hbound', hstep⟩ :=
        chainFrom_step (e := e) (additive?_eq_some_iff.mpr hs) (Completes.product_eq_ok ihv hw)
          hbound
      exact ⟨bound', hbound', by rw [← hstep, ← hchain]; simp⟩

theorem expr_eq_ok {u v : List Token} {e : Expr} (h : Derives .sum (nestingLimit - 1) u e)
    (hv : Stops v) : expr (u ++ v) = .ok (e, v) :=
  h.completes.sum_eq_ok hv

end NumberedBasic.Grammar
