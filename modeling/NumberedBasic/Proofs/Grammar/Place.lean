import NumberedBasic.Proofs.Token.Spelling

/-! The places of tokens make no difference to what is read. Two lists of tokens with the same
contents are read as the same line, or both are refused for the same cause, each at the token in the
same place. -/
namespace NumberedBasic.Grammar

/-- Tokens with the same contents, the end of the line last. -/
inductive Twins : List Token → List Token → Prop
  | last {t t' : Token} : t.kind = .eol → t.content = t'.content → Twins [t] [t']
  | cons {t t' : Token} {u u' : List Token} :
      t.content = t'.content → Twins u u' → Twins (t :: u) (t' :: u')

/-- Tokens with the same contents, also none at all: lists that bound a recursion run out. -/
def Alike : List Token → List Token → Prop := List.Forall₂ fun t t' => t.content = t'.content

/-- The errors have one cause, and are put down to tokens in the same place of the two lists. -/
inductive Marks : List Token → List Token → SyntaxError → SyntaxError → Prop
  | here {t t' : Token} {u u' : List Token} (cause : SyntaxCause) :
      Marks (t :: u) (t' :: u') (.ofToken t cause) (.ofToken t' cause)
  | later {t t' : Token} {u u' : List Token} {e e' : SyntaxError} :
      Marks u u' e e' → Marks (t :: u) (t' :: u') e e'

/-- The values correspond and twins are left, or the errors are put down to the same place. What is
left lies at the end of the lists, so that its places are theirs. -/
inductive Agrees {α : Type} (V : α → α → Prop) (u u' : List Token) :
    Except SyntaxError (α × List Token) → Except SyntaxError (α × List Token) → Prop
  | ok {a a' : α} {rest rest' : List Token} : V a a' → Twins rest rest' →
      (∀ {e e'}, Marks rest rest' e e' → Marks u u' e e') →
      Agrees V u u' (.ok (a, rest)) (.ok (a', rest'))
  | error {e e' : SyntaxError} : Marks u u' e e' → Agrees V u u' (.error e) (.error e')

/-- The parser reads twins alike. -/
def Steady {α : Type} (p : Parser α) : Prop := ∀ {u u'}, Twins u u' → Agrees Eq u u' (p u) (p u')

section Combinators

variable {α β : Type} {V : α → α → Prop} {W : β → β → Prop} {u u' : List Token}

theorem Twins.content (h : Twins u u') : (peek u).content = (peek u').content := by
  cases h with
  | last _ ht => exact ht
  | cons ht _ => exact ht

theorem Twins.symm (h : Twins u u') : Twins u' u := by
  induction h with
  | last hk ht => exact .last ((congrArg Prod.fst ht).symm.trans hk) ht.symm
  | cons ht _ ih => exact .cons ht.symm ih

theorem Twins.kind (h : Twins u u') : (peek u).kind = (peek u').kind := congrArg Prod.fst h.content

theorem Twins.text (h : Twins u u') : (peek u).text = (peek u').text := congrArg Prod.snd h.content

theorem Twins.alike (h : Twins u u') : Alike u u' := by
  induction h with
  | last _ ht => exact .cons ht .nil
  | cons ht _ ih => exact .cons ht ih

theorem Twins.mark (h : Twins u u') (cause : SyntaxCause) :
    Marks u u' (.ofToken (peek u) cause) (.ofToken (peek u') cause) := by
  cases h with
  | last => exact .here cause
  | cons => exact .here cause

theorem Twins.mark_refused (h : Twins u u') (cause : SyntaxCause) :
    Marks u u'
      (.ofToken (peek u) (if (peek u).kind = .error then .lexical (peek u).text else cause))
      (.ofToken (peek u')
        (if (peek u').kind = .error then .lexical (peek u').text else cause)) := by
  rw [h.kind, h.text]
  exact h.mark _

theorem Twins.refuse (h : Twins u u') (cause : SyntaxCause) :
    Agrees V u u' (refuse u cause) (refuse u' cause) := .error (h.mark_refused cause)

theorem Agrees.done {a a' : α} (ha : V a a') (h : Twins u u') :
    Agrees V u u' (.ok (a, u)) (.ok (a', u')) := .ok ha h id

theorem Agrees.widen {v v' : List Token} {x x' : Except SyntaxError (α × List Token)}
    (h : Agrees V v v' x x') (hmarks : ∀ {e e'}, Marks v v' e e' → Marks u u' e e') :
    Agrees V u u' x x' := by
  cases h with
  | ok ha hrest hwithin => exact .ok ha hrest fun hmark => hmarks (hwithin hmark)
  | error hmark => exact .error (hmarks hmark)

/-- A token that is not the end of the line may be passed. -/
theorem Twins.pass (h : Twins u u') {k : Kind} (hk : (peek u').kind = k) (hne : k ≠ .eol)
    {x x' : Except SyntaxError (α × List Token)}
    (hx : Twins u.tail u'.tail → Agrees V u.tail u'.tail x x') : Agrees V u u' x x' := by
  cases h with
  | last ht hcontent =>
      have hkind := congrArg Prod.fst hcontent
      exact absurd (hk.symm.trans (hkind.symm.trans ht)) hne
  | cons _ hu => exact (hx hu).widen .later

theorem Agrees.bind {x x' : Except SyntaxError (α × List Token)}
    {f f' : α × List Token → Except SyntaxError (β × List Token)} (h : Agrees V u u' x x')
    (hf : ∀ {a a' rest rest'}, V a a' → Twins rest rest' →
      Agrees W rest rest' (f (a, rest)) (f' (a', rest'))) :
    Agrees W u u' (x >>= f) (x' >>= f') := by
  cases h with
  | ok ha hrest hwithin => exact (hf ha hrest).widen hwithin
  | error hmark => exact .error hmark

theorem Agrees.map {x x' : Except SyntaxError (α × List Token)}
    {f f' : α × List Token → β × List Token} (h : Agrees V u u' x x')
    (hf : ∀ {a a' rest rest'}, V a a' → Twins rest rest' →
      Agrees W rest rest' (.ok (f (a, rest))) (.ok (f' (a', rest')))) :
    Agrees W u u' (x.map f) (x'.map f') := by
  cases h with
  | ok ha hrest hwithin => exact (hf ha hrest).widen hwithin
  | error hmark => exact .error hmark

end Combinators

variable {u u' : List Token}

theorem expect_agrees {kind : Kind} (hkind : kind ≠ .eol) (h : Twins u u') :
    Agrees (fun t t' => t.content = t'.content) u u' (expect kind u) (expect kind u') := by
  unfold expect
  dsimp only
  rw [h.kind]
  by_cases hk : (peek u').kind = kind
  · rw [if_pos hk, if_pos hk]
    exact h.pass hk hkind fun hrest => .done h.content hrest
  · rw [if_neg hk, if_neg hk]
    exact h.refuse _

theorem steady_identifier : Steady identifier := by
  intro u u' h
  exact (expect_agrees (by decide) h).map fun ht hrest => .done (congrArg Prod.snd ht) hrest

/-- One and the same value, or errors that are put down to the same place. -/
inductive SameVerdict {γ : Type} (u u' : List Token) :
    Except SyntaxError γ → Except SyntaxError γ → Prop
  | ok (c : γ) : SameVerdict u u' (.ok c) (.ok c)
  | error {e e' : SyntaxError} : Marks u u' e e' → SameVerdict u u' (.error e) (.error e')

theorem lineNumber_sameVerdict (h : Twins u u') :
    SameVerdict u u' (lineNumber (peek u)) (lineNumber (peek u')) := by
  unfold lineNumber
  rw [h.text]
  cases Decimal.read? (peek u').text.toList with
  | some n => exact .ok n
  | none => exact .error (h.mark _)

-- A number out of range is refused at its own token, which is already passed then, so that the two
-- steps are taken together.
theorem steady_target : Steady target := by
  intro u u' h
  unfold target expect
  dsimp only
  rw [h.kind]
  by_cases hk : (peek u').kind = .integer
  · rw [if_pos hk, if_pos hk]
    have hnumber := lineNumber_sameVerdict h
    dsimp only [bind, Except.bind]
    generalize lineNumber (peek u) = x at hnumber
    generalize lineNumber (peek u') = x' at hnumber
    cases hnumber with
    | ok n => exact h.pass hk (by decide) fun hrest => .done rfl hrest
    | error hmark => exact .error hmark
  · rw [if_neg hk, if_neg hk]
    exact h.refuse _

theorem chainFrom_agrees {operator? : Kind → Option Operator} (hend : operator? .eol = none)
    {operand : Parser Expr} (hoperand : Steady operand) {bound bound' : List Token}
    (hbound : Alike bound bound') (left : Expr) (h : Twins u u') :
    Agrees Eq u u' (chainFrom operator? operand bound left u)
      (chainFrom operator? operand bound' left u') := by
  induction hbound generalizing left u u' with
  | nil => exact .done rfl h
  | cons _ _ ih =>
      rw [chainFrom, chainFrom, h.kind]
      cases hop : operator? (peek u').kind with
      | none => exact .done rfl h
      | some op =>
          have hk : (peek u').kind ≠ .eol := by
            intro hk
            rw [hk, hend] at hop
            cases hop
          refine h.pass rfl hk fun htail => ?_
          have hright := hoperand htail
          generalize operand u.tail = x at hright
          generalize operand u'.tail = x' at hright
          cases hright with
          | error hmark => exact .error hmark
          | ok hvalue hrest hwithin =>
              cases hvalue
              exact (ih _ hrest).widen hwithin

theorem steady_chain {operator? : Kind → Option Operator} (hend : operator? .eol = none)
    {operand : Parser Expr} (hoperand : Steady operand) : Steady (chain operator? operand) := by
  intro u u' h
  have hleft := hoperand h
  unfold chain
  generalize operand u = x at hleft
  generalize operand u' = x' at hleft
  cases hleft with
  | error hmark => exact .error hmark
  | ok hvalue hrest hwithin =>
      cases hvalue
      exact (chainFrom_agrees hend hoperand hrest.alike _ hrest).widen hwithin

theorem steady_sum {operand : Parser Expr} (hoperand : Steady operand) : Steady (sum operand) :=
  steady_chain rfl (steady_chain rfl hoperand)

theorem steady_operand {nested : Parser Expr} (hnested : Steady nested) :
    Steady (operand nested) := by
  intro u u' h
  unfold operand
  dsimp only
  rw [h.kind, h.text]
  generalize hk : (peek u').kind = k
  cases k with
  | identifier => exact h.pass hk (by decide) fun htail => .done rfl htail
  | integer =>
      cases Decimal.read? (peek u').text.toList with
      | some n => exact h.pass hk (by decide) fun htail => .done rfl htail
      | none => exact .error (h.mark _)
  | symbol s =>
      cases s with
      | open_ =>
          refine h.pass hk (by decide) fun htail => ?_
          have hinner := steady_sum hnested htail
          dsimp only
          generalize sum nested u.tail = x at hinner
          generalize sum nested u'.tail = x' at hinner
          cases hinner with
          | error hmark => exact .error hmark
          | ok hvalue hrest hwithin =>
              refine Agrees.widen ?_ hwithin
              exact (expect_agrees (by decide) hrest).map fun _ hrest => .done hvalue hrest
      | minus =>
          refine h.pass hk (by decide) fun htail => ?_
          exact (hnested htail).map fun hvalue hrest => .done (by rw [hvalue]) hrest
      | _ => exact h.refuse _
  | _ => exact h.refuse _

theorem steady_nestedOperand (depth : Nat) : Steady (nestedOperand depth) := by
  induction depth with
  | zero => exact steady_operand fun h => h.refuse _
  | succ depth ih => exact steady_operand ih

theorem steady_expr : Steady expr := steady_sum (steady_nestedOperand _)

theorem steady_letStatement : Steady letStatement := by
  intro u u' h
  refine (steady_identifier h).bind fun hname h => ?_
  refine (expect_agrees (by decide) h).bind fun _ h => ?_
  refine (steady_expr h).bind fun hvalue h => ?_
  exact .done (by rw [hname, hvalue]) h

theorem steady_printItem : Steady printItem := by
  intro u u' h
  unfold printItem
  dsimp only
  rw [h.kind, h.text]
  generalize hk : (peek u').kind = k
  cases k with
  | string => exact h.pass hk (by decide) fun htail => .done rfl htail
  | symbol s =>
      cases s with
      | comma => exact h.pass hk (by decide) fun htail => .done rfl htail
      | semicolon => exact h.pass hk (by decide) fun htail => .done rfl htail
      | _ => exact (steady_expr h).map fun hvalue hrest => .done (by rw [hvalue]) hrest
  | _ => exact (steady_expr h).map fun hvalue hrest => .done (by rw [hvalue]) hrest

theorem printItems_agrees {bound bound' : List Token} (hbound : Alike bound bound')
    (h : Twins u u') : Agrees Eq u u' (printItems bound u) (printItems bound' u') := by
  induction hbound generalizing u u' with
  | nil => exact .done rfl h
  | cons _ _ ih =>
      rw [printItems, printItems, h.kind]
      by_cases hk : (peek u').kind = .eol
      · rw [if_pos hk, if_pos hk]
        exact .done rfl h
      · rw [if_neg hk, if_neg hk]
        refine (steady_printItem h).bind fun hitem h => ?_
        refine (ih h).bind fun hitems h => ?_
        exact .done (by rw [hitem, hitems]) h

theorem moreNames_agrees {bound bound' : List Token} (hbound : Alike bound bound')
    (h : Twins u u') : Agrees Eq u u' (moreNames bound u) (moreNames bound' u') := by
  induction hbound generalizing u u' with
  | nil => exact .done rfl h
  | cons _ _ ih =>
      rw [moreNames, moreNames, h.kind]
      by_cases hk : (peek u').kind = .symbol .comma
      · rw [if_pos hk, if_pos hk]
        refine h.pass hk (by decide) fun h => ?_
        refine (steady_identifier h).bind fun hname h => ?_
        refine (ih h).bind fun hnames h => ?_
        exact .done (by rw [hname, hnames]) h
      · rw [if_neg hk, if_neg hk]
        exact .done rfl h

theorem inputPrompt_agrees (h : Twins u u') :
    Agrees Eq u u' (.ok (inputPrompt u)) (.ok (inputPrompt u')) := by
  unfold inputPrompt
  dsimp only
  rw [h.kind, h.text]
  by_cases hk : (peek u').kind = .string
  · rw [if_pos hk, if_pos hk]
    exact h.pass hk (by decide) fun htail => .done rfl htail
  · rw [if_neg hk, if_neg hk]
    exact .done rfl h

theorem steady_inputStatement : Steady inputStatement := by
  intro u u' h
  have hprompt := inputPrompt_agrees h
  unfold inputStatement
  generalize inputPrompt u = x at hprompt
  generalize inputPrompt u' = x' at hprompt
  cases hprompt with
  | ok hvalue hrest hwithin =>
      refine Agrees.widen ?_ hwithin
      refine (steady_identifier hrest).bind fun hname h => ?_
      refine (moreNames_agrees h.alike h).bind fun hnames h => ?_
      exact .done (by rw [hvalue, hname, hnames]) h

theorem steady_forStatement : Steady forStatement := by
  intro u u' h
  refine (steady_identifier h).bind fun hname h => ?_
  refine (expect_agrees (by decide) h).bind fun _ h => ?_
  refine (steady_expr h).bind fun hfirst h => ?_
  refine (expect_agrees (by decide) h).bind fun _ h => ?_
  refine (steady_expr h).bind fun hlast h => ?_
  exact .done (by rw [hname, hfirst, hlast]) h

theorem steady_condition : Steady condition := by
  intro u u' h
  refine (steady_expr h).bind fun {a a' v v'} hleft h => ?_
  dsimp only
  rw [h.kind, h.text]
  cases hop : relation? (peek v').kind with
  | none => exact h.refuse _
  | some op =>
      have hk : (peek v').kind ≠ .eol := by
        intro hk
        rw [hk] at hop
        cases hop
      refine h.pass rfl hk fun h => ?_
      refine (steady_expr h).bind fun hright h => ?_
      exact .done (by rw [hleft, hright]) h

theorem statementWith_agrees {body body' : Parser Statement}
    (hbody : ∀ {v v'}, Twins v v' → Agrees Eq v v' (body v) (body' v')) (h : Twins u u') :
    Agrees Eq u u' (statementWith body u) (statementWith body' u') := by
  unfold statementWith
  dsimp only
  rw [h.kind, h.text]
  generalize hk : (peek u').kind = k
  cases k with
  | eol => exact .done rfl h
  | keyword k =>
      have hpass : ∀ {x x' : Except SyntaxError (Statement × List Token)},
          (Twins u.tail u'.tail → Agrees Eq u.tail u'.tail x x') → Agrees Eq u u' x x' :=
        fun hx => h.pass hk (by simp) hx
      cases k with
      | let_ => exact hpass steady_letStatement
      | print =>
          refine hpass fun h => ?_
          exact (printItems_agrees h.alike h).map fun hitems h => .done (by rw [hitems]) h
      | input => exact hpass steady_inputStatement
      | for_ => exact hpass steady_forStatement
      | next =>
          refine hpass fun h => ?_
          exact (steady_identifier h).map fun hname h => .done (by rw [hname]) h
      | if_ =>
          refine hpass fun h => ?_
          refine (steady_condition h).bind fun hcondition h => ?_
          refine (expect_agrees (by decide) h).bind fun _ h => ?_
          refine (hbody h).bind fun hinner h => ?_
          exact .done (by rw [hcondition, hinner]) h
      | goto =>
          refine hpass fun h => ?_
          exact (steady_target h).map fun hn h => .done (by rw [hn]) h
      | gosub =>
          refine hpass fun h => ?_
          exact (steady_target h).map fun hn h => .done (by rw [hn]) h
      | return_ => exact hpass fun h => .done rfl h
      | end_ => exact hpass fun h => .done rfl h
      | _ => exact h.refuse _
  | _ => exact h.refuse _

theorem statementWithin_agrees {bound bound' : List Token} (hbound : Alike bound bound')
    (h : Twins u u') : Agrees Eq u u' (statementWithin bound u) (statementWithin bound' u') := by
  induction hbound generalizing u u' with
  | nil => exact statementWith_agrees (fun h => .done rfl h) h
  | cons _ _ ih => exact statementWith_agrees ih h

theorem steady_statement : Steady statement := fun h => statementWithin_agrees h.alike h

theorem Twins.withEnd_eq (h : Twins u u') : withEnd u = u := by
  have hlast : ∃ t, u.getLast? = some t ∧ t.kind = .eol := by
    induction h with
    | last ht _ => exact ⟨_, rfl, ht⟩
    | cons _ hu ih =>
        obtain ⟨t, ht, hk⟩ := ih
        exact ⟨t, by rw [List.getLast?_cons, ht]; rfl, hk⟩
  obtain ⟨t, ht, hk⟩ := hlast
  simp [withEnd, ht, hk]

/-- Twins are read as one line, or refused for one cause at the same place. -/
theorem parseLine_sameVerdict (h : Twins u u') :
    SameVerdict u u' (parseLine u) (parseLine u') := by
  unfold parseLine line
  rw [h.withEnd_eq, h.symm.withEnd_eq]
  dsimp only
  rw [h.kind]
  by_cases hk : (peek u').kind = .integer
  · rw [if_pos hk, if_pos hk]
    have hnumber := lineNumber_sameVerdict h
    generalize lineNumber (peek u) = x at hnumber
    generalize lineNumber (peek u') = x' at hnumber
    cases hnumber with
    | error hmark => exact .error hmark
    | ok n =>
        have hread : Agrees Eq u u' (statement u.tail) (statement u'.tail) :=
          h.pass hk (by decide) steady_statement
        dsimp only [bind, Except.bind]
        generalize statement u.tail = y at hread
        generalize statement u'.tail = y' at hread
        cases hread with
        | error hmark => exact .error hmark
        | @ok s _ rest rest' hs hrest hwithin =>
            cases hs
            unfold expect
            dsimp only
            rw [hrest.kind]
            by_cases hend : (peek rest').kind = .eol
            · rw [if_pos hend, if_pos hend]
              exact .ok (Line.mk n s)
            · rw [if_neg hend, if_neg hend]
              exact .error (hwithin (hrest.mark_refused _))
  · rw [if_neg hk, if_neg hk]
    exact .error (h.mark_refused _)

theorem twins_of_map_content (h : EndsOnce u) (heq : u.map Token.content = u'.map Token.content) :
    Twins u u' := by
  obtain ⟨body, last, rfl, hlast, -⟩ := h
  induction body generalizing u' with
  | nil =>
      obtain ⟨t', rfl, ht'⟩ := List.map_eq_singleton_iff.mp heq.symm
      exact .last hlast ht'.symm
  | cons t body ih =>
      obtain ⟨t', v', rfl, ht', hv'⟩ := List.map_eq_cons_iff.mp heq.symm
      exact .cons ht'.symm (ih hv'.symm)

theorem Marks.exists_token {e e' : SyntaxError} (h : Marks u u' e e') :
    ∃ t ∈ u, ∃ cause, e = .ofToken t cause := by
  induction h with
  | here cause => exact ⟨_, List.mem_cons_self, cause, rfl⟩
  | later _ ih =>
      obtain ⟨t, ht, hcause⟩ := ih
      exact ⟨t, List.mem_cons_of_mem _ ht, hcause⟩

end NumberedBasic.Grammar

namespace NumberedBasic
open Grammar

theorem line_of_mem_scan {line : Int} {column : Nat} {cs : List Char} {t : Token}
    (h : t ∈ scan line column cs) : t.line = line := by
  fun_induction scan line column cs with
  | case1 => simp_all [Token.eol]
  | case2 _ _ _ _ ih => exact ih h
  | case3 _ _ _ _ _ ih =>
      rcases List.mem_cons.mp h with rfl | h
      · rfl
      · exact ih h

theorem twins_tokenize (text : String) (i j : Int) : Twins (tokenize text i) (tokenize text j) := by
  apply twins_of_map_content (endsOnce_scan i 0 text.toList)
  unfold tokenize
  rw [map_content_scan, map_content_scan]

/-- The ordinal of a physical line plays no part in how it is read. -/
theorem parseLine_tokenize_ok {text : String} {i : Int} {line : Line}
    (h : parseLine (tokenize text i) = .ok line) (j : Int) :
    parseLine (tokenize text j) = .ok line := by
  have hsame := parseLine_sameVerdict (twins_tokenize text i j)
  rw [h] at hsame
  generalize parseLine (tokenize text j) = x at hsame
  cases hsame with
  | ok => rfl

/-- An error names the ordinal of its physical line. -/
theorem line_of_parseLine_tokenize {text : String} {i : Int} {e : SyntaxError}
    (h : parseLine (tokenize text i) = .error e) : e.line = i := by
  have hsame := parseLine_sameVerdict (twins_tokenize text i i)
  rw [h] at hsame
  cases hsame with
  | error hmark =>
      obtain ⟨t, ht, cause, rfl⟩ := hmark.exists_token
      exact line_of_mem_scan ht

end NumberedBasic
