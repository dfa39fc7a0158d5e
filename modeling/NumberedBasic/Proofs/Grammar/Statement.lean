import NumberedBasic.Proofs.Grammar.Expr

/-! Reading statements and lines follows the rules, with the expressions of a PRINT cut where no
operator follows. -/
namespace NumberedBasic.Grammar

theorem of_bind_eq_ok {α β : Type} {x : Except SyntaxError α} {f : α → Except SyntaxError β} {b : β}
    (h : x.bind f = .ok b) : ∃ a, x = .ok a ∧ f a = .ok b := by
  cases x with
  | ok a => exact ⟨a, rfl, h⟩
  | error e => cases h

@[simp] theorem ok_bind {α β : Type} (a : α) (f : α → Except SyntaxError β) :
    (Except.ok a >>= f) = f a := rfl

@[simp] theorem ok_map {α β : Type} (a : α) (f : α → β) :
    (Except.ok a : Except SyntaxError α).map f = .ok (f a) := rfl

theorem identifier_eq_ok {tokens rest : List Token} {name : String}
    (h : identifier tokens = .ok (name, rest)) :
    ∃ t, tokens = t :: rest ∧ t.kind = .identifier ∧ name = t.text := by
  obtain ⟨⟨t, ts⟩, ht, heq⟩ := map_eq_ok h
  cases heq
  obtain ⟨htokens, hk⟩ := expect_eq_ok ht (by decide)
  exact ⟨t, htokens, hk, rfl⟩

theorem lineNumber_eq_ok {t : Token} {n : Int} (hk : t.kind = .integer)
    (h : lineNumber t = .ok n) : Number t n := by
  unfold lineNumber at h
  split at h
  · rename_i hread
    cases h
    exact number_iff.mpr ⟨hk, hread⟩
  · cases h

theorem target_eq_ok {tokens rest : List Token} {n : Int} (h : target tokens = .ok (n, rest)) :
    ∃ t, tokens = t :: rest ∧ Number t n := by
  obtain ⟨⟨t, ts⟩, ht, h⟩ := of_bind_eq_ok h
  obtain ⟨v, hv, heq⟩ := of_bind_eq_ok h
  cases heq
  obtain ⟨htokens, hk⟩ := expect_eq_ok ht (by decide)
  exact ⟨t, htokens, lineNumber_eq_ok hk hv⟩

theorem expect_cons {k : Kind} {t : Token} {rest : List Token} (h : t.kind = k) :
    expect k (t :: rest) = .ok (t, rest) := by
  simp [expect, peek, h]

theorem identifier_cons {t : Token} {rest : List Token} (h : t.kind = .identifier) :
    identifier (t :: rest) = .ok (t.text, rest) := by
  rw [identifier, expect_cons h, ok_map]

theorem lineNumber_of_number {t : Token} {n : Int} (h : Number t n) : lineNumber t = .ok n := by
  simp [lineNumber, (number_iff.mp h).2]

theorem target_cons {t : Token} {rest : List Token} {n : Int} (h : Number t n) :
    target (t :: rest) = .ok (n, rest) := by
  simp [target, expect_cons (number_iff.mp h).1, lineNumber_of_number h]

theorem printItem_eq_ok {tokens rest : List Token} {item : PrintItem}
    (h : printItem tokens = .ok (item, rest)) :
    (∃ t, tokens = t :: rest ∧ t.kind = .string ∧ item = .string t.text) ∨
    (∃ t, tokens = t :: rest ∧ t.kind = .symbol .comma ∧ item = .comma) ∨
    (∃ t, tokens = t :: rest ∧ t.kind = .symbol .semicolon ∧ item = .semicolon) ∨
    (∃ e, expr tokens = .ok (e, rest) ∧ item = .expr e) := by
  unfold printItem at h
  dsimp only at h
  split at h
  · rename_i hk
    cases h
    exact .inl ⟨peek tokens, cons_peek_tail (by simp [hk]), hk, rfl⟩
  · rename_i hk
    cases h
    exact .inr (.inl ⟨peek tokens, cons_peek_tail (by simp [hk]), hk, rfl⟩)
  · rename_i hk
    cases h
    exact .inr (.inr (.inl ⟨peek tokens, cons_peek_tail (by simp [hk]), hk, rfl⟩))
  · obtain ⟨⟨e, ts⟩, he, heq⟩ := map_eq_ok h
    cases heq
    exact .inr (.inr (.inr ⟨e, he, rfl⟩))

theorem printItems_sound {bound tokens rest : List Token} {items : List PrintItem}
    (h : printItems bound tokens = .ok (items, rest)) :
    ∃ u, tokens = u ++ rest ∧ Items Separated (nestingLimit - 1) u items := by
  induction bound generalizing tokens items with
  | nil =>
      cases h
      exact ⟨[], rfl, .nil⟩
  | cons b bound ih =>
      rw [printItems] at h
      split at h
      · cases h
        exact ⟨[], rfl, .nil⟩
      · obtain ⟨⟨item, ts⟩, hitem, h⟩ := of_bind_eq_ok h
        obtain ⟨⟨more, ts'⟩, hmore, heq⟩ := of_bind_eq_ok h
        cases heq
        obtain ⟨v, rfl, hv⟩ := ih hmore
        rcases printItem_eq_ok hitem with ⟨t, rfl, ht, rfl⟩ | ⟨t, rfl, ht, rfl⟩ |
          ⟨t, rfl, ht, rfl⟩ | ⟨e, he, rfl⟩
        · exact ⟨t :: v, rfl, .string ht hv⟩
        · exact ⟨t :: v, rfl, .comma ht hv⟩
        · exact ⟨t :: v, rfl, .semicolon ht hv⟩
        · obtain ⟨u, rfl, hu, hstops⟩ := expr_sound he
          exact ⟨u ++ v, by simp, .expr hu hstops.of_append hv⟩

theorem stops_of_eol {v : List Token} (h : (peek v).kind = .eol) : Stops v := by
  simp [Stops, h, additive?, multiplicative?]

theorem Stops.append {u v : List Token} (hu : Stops u) (hv : (peek v).kind = .eol) :
    Stops (u ++ v) := by
  cases u with
  | nil => exact stops_of_eol hv
  | cons t rest => exact hu

theorem printItem_of_begins {t : Token} {tokens : List Token} (h : BeginsOperand t.kind) :
    printItem (t :: tokens) = (expr (t :: tokens)).map fun (e, rest) => (.expr e, rest) := by
  rcases h with h | h | h | h <;> simp [printItem, peek, h]

theorem exists_bound {n : Nat} {bound : List Token} (h : n + 1 ≤ bound.length) :
    ∃ b rest, bound = b :: rest ∧ n ≤ rest.length := by
  cases bound with
  | nil => simp at h
  | cons b rest => exact ⟨b, rest, rfl, by simpa using h⟩

theorem printItems_cons {b : Token} {bound tokens rest rest' : List Token} {item : PrintItem}
    {items : List PrintItem} (hk : (peek tokens).kind ≠ .eol)
    (hitem : printItem tokens = .ok (item, rest))
    (hitems : printItems bound rest = .ok (items, rest')) :
    printItems (b :: bound) tokens = .ok (item :: items, rest') := by
  simp [printItems, hk, hitem, hitems]

theorem Items.eq_ok {u : List Token} {items : List PrintItem}
    (h : Items Separated (nestingLimit - 1) u items) {bound v : List Token}
    (hbound : u.length ≤ bound.length) (hv : (peek v).kind = .eol) :
    printItems bound (u ++ v) = .ok (items, v) := by
  induction h generalizing bound with
  | nil => cases bound <;> simp [printItems, hv]
  | string ht _ ih =>
      obtain ⟨b, bound, rfl, hrest⟩ := exists_bound hbound
      exact printItems_cons (by simp [peek, ht]) (by simp [printItem, peek, ht]) (ih hrest)
  | comma ht _ ih =>
      obtain ⟨b, bound, rfl, hrest⟩ := exists_bound hbound
      exact printItems_cons (by simp [peek, ht]) (by simp [printItem, peek, ht]) (ih hrest)
  | semicolon ht _ ih =>
      obtain ⟨b, bound, rfl, hrest⟩ := exists_bound hbound
      exact printItems_cons (by simp [peek, ht]) (by simp [printItem, peek, ht]) (ih hrest)
  | @expr u w e items he hcut _ ih =>
      obtain ⟨t, ts, rfl, ht⟩ := he.exists_head
      have hread := expr_eq_ok he (hcut.append hv)
      have hlen : w.length + 1 ≤ bound.length := by
        simp only [List.length_append, List.length_cons] at hbound
        omega
      obtain ⟨b, bound, rfl, hrest⟩ := exists_bound hlen
      refine printItems_cons ?_ ?_ (ih hrest)
      · rcases ht with ht | ht | ht | ht <;> simp [peek, ht]
      · rw [List.append_assoc, List.cons_append, printItem_of_begins ht, ← List.cons_append,
          hread, ok_map]

theorem moreNames_sound {bound tokens rest : List Token} {names : List String}
    (h : moreNames bound tokens = .ok (names, rest)) :
    ∃ u, tokens = u ++ rest ∧
      ∀ {t : Token}, t.kind = .identifier → Names (t :: u) (t.text :: names) := by
  induction bound generalizing tokens names with
  | nil =>
      cases h
      exact ⟨[], rfl, .one⟩
  | cons b bound ih =>
      rw [moreNames] at h
      split at h
      · rename_i hk
        obtain ⟨⟨name, ts⟩, hname, h⟩ := of_bind_eq_ok h
        obtain ⟨⟨more, ts'⟩, hmore, heq⟩ := of_bind_eq_ok h
        cases heq
        obtain ⟨x, hx, hxk, rfl⟩ := identifier_eq_ok hname
        obtain ⟨u, rfl, hu⟩ := ih hmore
        refine ⟨peek tokens :: x :: u, ?_, fun ht => .more ht hk (hu hxk)⟩
        rw [List.cons_append, List.cons_append, ← hx]
        exact cons_peek_tail (by simp [hk])
      · cases h
        exact ⟨[], rfl, .one⟩

theorem Names.eq_ok {u : List Token} {names : List String} (h : Names u names) :
    ∃ t rest more, u = t :: rest ∧ t.kind = .identifier ∧ names = t.text :: more ∧
      ∀ {bound v : List Token}, rest.length ≤ bound.length → (peek v).kind = .eol →
        moreNames bound (rest ++ v) = .ok (more, v) := by
  induction h with
  | @one t ht =>
      refine ⟨t, [], [], rfl, ht, rfl, fun {bound v} hbound hv => ?_⟩
      cases bound <;> simp [moreNames, hv]
  | @more t c u names ht hc _ ih =>
      obtain ⟨x, rest, more, rfl, hx, rfl, hread⟩ := ih
      refine ⟨t, c :: x :: rest, x.text :: more, rfl, ht, rfl, fun {bound v} hbound hv => ?_⟩
      obtain ⟨b, bound, rfl, hrest⟩ := exists_bound hbound
      have hlen : rest.length ≤ bound.length := Nat.le_of_succ_le hrest
      simp [moreNames, peek, hc, identifier_cons hx, hread hlen hv]

/-- The commands that are read, with the nesting that expressions are allowed. -/
abbrev Read : List Token → Statement → Prop := Command Separated (nestingLimit - 1)

theorem letStatement_sound {k : Token} {tokens rest : List Token} {s : Statement}
    (hk : k.kind = .keyword .let_) (h : letStatement tokens = .ok (s, rest)) :
    ∃ u, tokens = u ++ rest ∧ Read (k :: u) s := by
  obtain ⟨⟨name, ts⟩, hname, h⟩ := of_bind_eq_ok h
  obtain ⟨⟨sign, ts'⟩, hsign, h⟩ := of_bind_eq_ok h
  obtain ⟨⟨e, ts''⟩, he, heq⟩ := of_bind_eq_ok h
  cases heq
  obtain ⟨x, rfl, hx, rfl⟩ := identifier_eq_ok hname
  obtain ⟨rfl, hs⟩ := expect_eq_ok hsign (by decide)
  obtain ⟨u, rfl, hu, -⟩ := expr_sound he
  exact ⟨x :: sign :: u, rfl, .let_ hk hx hs hu⟩

theorem inputStatement_sound {k : Token} {tokens rest : List Token} {s : Statement}
    (hk : k.kind = .keyword .input) (h : inputStatement tokens = .ok (s, rest)) :
    ∃ u, tokens = u ++ rest ∧ Read (k :: u) s := by
  unfold inputStatement at h
  cases hprompt : inputPrompt tokens with
  | mk prompt tokens' =>
      rw [hprompt] at h
      obtain ⟨⟨name, ts⟩, hname, h⟩ := of_bind_eq_ok h
      obtain ⟨⟨more, ts'⟩, hmore, heq⟩ := of_bind_eq_ok h
      cases heq
      obtain ⟨x, rfl, hx, rfl⟩ := identifier_eq_ok hname
      obtain ⟨u, rfl, hu⟩ := moreNames_sound hmore
      unfold inputPrompt at hprompt
      dsimp only at hprompt
      split at hprompt
      · rename_i hp
        obtain ⟨rfl, htail⟩ := Prod.mk.inj hprompt
        refine ⟨peek tokens :: x :: u, ?_, .prompt hk hp (hu hx)⟩
        rw [List.cons_append, List.cons_append, ← htail]
        exact cons_peek_tail (by simp [hp])
      · obtain ⟨rfl, rfl⟩ := Prod.mk.inj hprompt
        exact ⟨x :: u, rfl, .input hk (hu hx)⟩

theorem forStatement_sound {k : Token} {tokens rest : List Token} {s : Statement}
    (hk : k.kind = .keyword .for_) (h : forStatement tokens = .ok (s, rest)) :
    ∃ u, tokens = u ++ rest ∧ Read (k :: u) s := by
  obtain ⟨⟨name, ts⟩, hname, h⟩ := of_bind_eq_ok h
  obtain ⟨⟨sign, ts1⟩, hsign, h⟩ := of_bind_eq_ok h
  obtain ⟨⟨e, ts2⟩, he, h⟩ := of_bind_eq_ok h
  obtain ⟨⟨m, ts3⟩, hm, h⟩ := of_bind_eq_ok h
  obtain ⟨⟨f, ts4⟩, hf, heq⟩ := of_bind_eq_ok h
  cases heq
  obtain ⟨x, rfl, hx, rfl⟩ := identifier_eq_ok hname
  obtain ⟨rfl, hs⟩ := expect_eq_ok hsign (by decide)
  obtain ⟨u, rfl, hu, -⟩ := expr_sound he
  obtain ⟨rfl, hmk⟩ := expect_eq_ok hm (by decide)
  obtain ⟨v, rfl, hv, -⟩ := expr_sound hf
  exact ⟨x :: sign :: (u ++ m :: v), by simp, .for_ hk hx hs hu hmk hv⟩

theorem condition_sound {tokens rest : List Token} {c : Condition}
    (h : condition tokens = .ok (c, rest)) :
    ∃ u t v, tokens = u ++ t :: (v ++ rest) ∧ Derives .sum (nestingLimit - 1) u c.left ∧
      Comparison t.kind c.op ∧ Derives .sum (nestingLimit - 1) v c.right := by
  obtain ⟨⟨e, ts⟩, he, hrest⟩ := of_bind_eq_ok h
  obtain ⟨u, rfl, hu, -⟩ := expr_sound he
  dsimp only at hrest
  split at hrest
  · rename_i op hop
    obtain ⟨⟨f, ts'⟩, hf, heq⟩ := of_bind_eq_ok hrest
    cases heq
    obtain ⟨v, hv, hd, -⟩ := expr_sound hf
    have hcons : ts = peek ts :: ts.tail := by
      refine cons_peek_tail fun hk => ?_
      rw [hk] at hop
      cases hop
    refine ⟨u, peek ts, v, ?_, hu, relation?_eq_some_iff.mp hop, hd⟩
    rw [← hv, ← hcons]
  · exact absurd hrest refuse_ne_ok

theorem statementWith_sound {body : Parser Statement} (hbody : Sound body Read fun _ => True) :
    Sound (statementWith body) Read fun _ => True := by
  intro tokens s rest h
  unfold statementWith at h
  dsimp only at h
  -- Every command but the empty one begins with its keyword.
  suffices hcommand : (peek tokens).kind ≠ .eol → ∃ u, tokens.tail = u ++ rest ∧
      Read (peek tokens :: u) s by
    by_cases hk : (peek tokens).kind = .eol
    · simp only [hk] at h
      cases h
      exact ⟨[], rfl, .empty, trivial⟩
    · obtain ⟨u, hu, hread⟩ := hcommand hk
      refine ⟨peek tokens :: u, ?_, hread, trivial⟩
      rw [List.cons_append, ← hu]
      exact cons_peek_tail hk
  intro heol
  split at h
  · rename_i hk
    exact absurd hk heol
  · rename_i hk
    exact letStatement_sound hk h
  · rename_i hk
    obtain ⟨⟨items, ts⟩, hitems, heq⟩ := map_eq_ok h
    cases heq
    obtain ⟨u, hu, hd⟩ := printItems_sound hitems
    exact ⟨u, hu, .print hk hd⟩
  · rename_i hk
    exact inputStatement_sound hk h
  · rename_i hk
    exact forStatement_sound hk h
  · rename_i hk
    obtain ⟨⟨name, ts⟩, hname, heq⟩ := map_eq_ok h
    cases heq
    obtain ⟨x, hx, hxk, rfl⟩ := identifier_eq_ok hname
    exact ⟨[x], hx, .next hk hxk⟩
  · rename_i hk
    obtain ⟨⟨c, ts⟩, hc, h⟩ := of_bind_eq_ok h
    obtain ⟨⟨m, ts'⟩, hm, h⟩ := of_bind_eq_ok h
    obtain ⟨⟨inner, ts''⟩, hinner, heq⟩ := of_bind_eq_ok h
    cases heq
    obtain ⟨u, t, v, hu, hdu, ht, hdv⟩ := condition_sound hc
    obtain ⟨rfl, hmk⟩ := expect_eq_ok hm (by decide)
    obtain ⟨w, rfl, hw, -⟩ := hbody hinner
    exact ⟨u ++ t :: (v ++ m :: w), by simpa using hu, .if_ hk hdu ht hdv hmk hw⟩
  · rename_i hk
    obtain ⟨⟨n, ts⟩, hn, heq⟩ := map_eq_ok h
    cases heq
    obtain ⟨t, ht, hnumber⟩ := target_eq_ok hn
    exact ⟨[t], ht, .goto hk hnumber⟩
  · rename_i hk
    obtain ⟨⟨n, ts⟩, hn, heq⟩ := map_eq_ok h
    cases heq
    obtain ⟨t, ht, hnumber⟩ := target_eq_ok hn
    exact ⟨[t], ht, .gosub hk hnumber⟩
  · rename_i hk
    cases h
    exact ⟨[], rfl, .return_ hk⟩
  · rename_i hk
    cases h
    exact ⟨[], rfl, .end_ hk⟩
  · exact absurd h refuse_ne_ok

theorem statementWithin_sound (bound : List Token) :
    Sound (statementWithin bound) Read fun _ => True := by
  induction bound with
  | nil =>
      refine statementWith_sound fun {tokens s rest} h => ?_
      cases h
      exact ⟨[], rfl, .empty, trivial⟩
  | cons b bound ih => exact statementWith_sound ih

theorem stops_cons {t : Token} {v : List Token} {k : Kind} (h : t.kind = k)
    (hsum : additive? k = none) (hproduct : multiplicative? k = none) : Stops (t :: v) := by
  subst h
  exact ⟨hsum, hproduct⟩

theorem stops_of_comparison {t : Token} {v : List Token} {op : Operator}
    (h : Comparison t.kind op) : Stops (t :: v) := by
  generalize hk : t.kind = k at h
  cases h <;> exact stops_cons hk rfl rfl

theorem stops_of_keyword {t : Token} {v : List Token} {k : Keyword} (h : t.kind = .keyword k) :
    Stops (t :: v) :=
  stops_cons h rfl rfl

theorem condition_eq_ok {u v w : List Token} {t : Token} {op : Operator} {e f : Expr}
    (hu : Derives .sum (nestingLimit - 1) u e) (ht : Comparison t.kind op)
    (hv : Derives .sum (nestingLimit - 1) v f) (hw : Stops w) :
    condition (u ++ t :: (v ++ w)) = .ok (⟨op, e, f⟩, w) := by
  have he := expr_eq_ok hu (stops_of_comparison (v := v ++ w) ht)
  simp [condition, he, peek, relation?_eq_some_iff.mpr ht, expr_eq_ok hv hw]

theorem statementWithin_eq (bound : List Token) :
    ∃ body, statementWithin bound = statementWith body := by
  cases bound with
  | nil => exact ⟨_, rfl⟩
  | cons b bound => exact ⟨_, rfl⟩

theorem Command.eq_ok {u : List Token} {s : Statement} (h : Read u s) {bound v : List Token}
    (hbound : u.length ≤ bound.length) (hv : (peek v).kind = .eol) :
    statementWithin bound (u ++ v) = .ok (s, v) := by
  have hstops := stops_of_eol hv
  induction h generalizing bound with
  | empty =>
      obtain ⟨body, hbody⟩ := statementWithin_eq bound
      simp [hbody, statementWith, hv]
  | let_ hk hx hs he =>
      obtain ⟨body, hbody⟩ := statementWithin_eq bound
      simp [hbody, statementWith, peek, hk, letStatement, identifier_cons hx, expect_cons hs,
        expr_eq_ok he hstops]
  | @print k u items hk hitems =>
      obtain ⟨body, hbody⟩ := statementWithin_eq bound
      have hread : printItems (u ++ v) (u ++ v) = .ok (items, v) := hitems.eq_ok (by simp) hv
      simp [hbody, statementWith, peek, hk, hread]
  | input hk hnames =>
      obtain ⟨body, hbody⟩ := statementWithin_eq bound
      obtain ⟨x, rest, more, rfl, hx, rfl, hread⟩ := hnames.eq_ok
      have hread : moreNames (rest ++ v) (rest ++ v) = .ok (more, v) := hread (by simp) hv
      simp [hbody, statementWith, peek, hk, inputStatement, inputPrompt, hx, identifier_cons hx,
        hread]
  | prompt hk hp hnames =>
      obtain ⟨body, hbody⟩ := statementWithin_eq bound
      obtain ⟨x, rest, more, rfl, hx, rfl, hread⟩ := hnames.eq_ok
      have hread : moreNames (rest ++ v) (rest ++ v) = .ok (more, v) := hread (by simp) hv
      simp [hbody, statementWith, peek, hk, inputStatement, inputPrompt, hp, identifier_cons hx,
        hread]
  | @for_ k x s m u w e f hk hx hs hu hm hw =>
      obtain ⟨body, hbody⟩ := statementWithin_eq bound
      have he := expr_eq_ok hu (stops_of_keyword (v := w ++ v) hm)
      simp [hbody, statementWith, peek, hk, forStatement, identifier_cons hx, expect_cons hs, he,
        expect_cons hm, expr_eq_ok hw hstops]
  | next hk hx =>
      obtain ⟨body, hbody⟩ := statementWithin_eq bound
      simp [hbody, statementWith, peek, hk, identifier_cons hx]
  | @if_ k c m u w x op e f s hk hu hc hw hm _ ih =>
      have hcondition := condition_eq_ok hu hc hw (stops_of_keyword (v := x ++ v) hm)
      have hlen : x.length + 1 ≤ bound.length := by
        simp only [List.length_cons, List.length_append] at hbound
        omega
      obtain ⟨b, bound, rfl, hrest⟩ := exists_bound hlen
      simp [statementWithin, statementWith, peek, hk, hcondition, expect_cons hm, ih hrest]
  | goto hk ht =>
      obtain ⟨body, hbody⟩ := statementWithin_eq bound
      simp [hbody, statementWith, peek, hk, target_cons ht]
  | gosub hk ht =>
      obtain ⟨body, hbody⟩ := statementWithin_eq bound
      simp [hbody, statementWith, peek, hk, target_cons ht]
  | return_ hk =>
      obtain ⟨body, hbody⟩ := statementWithin_eq bound
      simp [hbody, statementWith, peek, hk]
  | end_ hk =>
      obtain ⟨body, hbody⟩ := statementWithin_eq bound
      simp [hbody, statementWith, peek, hk]

end NumberedBasic.Grammar
