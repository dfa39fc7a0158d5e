import NumberedBasic.Grammar.Statement
import NumberedBasic.Proofs.Decimal

/-! The grammar of numbered lines, as rules that derive trees from tokens. -/
namespace NumberedBasic.Grammar

inductive Phrase where
  | operand | product | sum
  deriving DecidableEq

/-- The signs that join the parts of a phrase. -/
inductive Sign : Phrase → Kind → Operator → Prop
  | times : Sign .product (.symbol .times) .mul
  | over : Sign .product (.symbol .div) .div
  | plus : Sign .sum (.symbol .plus) .add
  | minus : Sign .sum (.symbol .minus) .sub

inductive Comparison : Kind → Operator → Prop
  | less : Comparison (.symbol .lt) .lt
  | equal : Comparison (.symbol .eq) .eq
  | greater : Comparison (.symbol .gt) .gt

/-- A token whose text is the numeral of a signed 64-bit integer. -/
inductive Number : Token → Int → Prop
  | mk {t : Token} {v : Int} :
      t.kind = .integer → Decimal.Denotes t.text.toList v → Decimal.InRange v → Number t v

/-- The phrases of an expression, with the tree that each stands for. No token of the phrase lies
inside more parentheses and minus signs than the number says. Products and sums grow at their right
end, so they group to the left. -/
inductive Derives : Phrase → Nat → List Token → Expr → Prop
  | var {n : Nat} {t : Token} : t.kind = .identifier → Derives .operand n [t] (.var t.text)
  | lit {n : Nat} {t : Token} {v : Int} :
      Number t v → Derives .operand n [t] (.lit (Int64.ofInt v))
  | parens {n : Nat} {l r : Token} {u : List Token} {e : Expr} :
      l.kind = .symbol .open_ → Derives .sum n u e → r.kind = .symbol .close →
      Derives .operand (n + 1) (l :: (u ++ [r])) e
  | neg {n : Nat} {t : Token} {u : List Token} {e : Expr} :
      t.kind = .symbol .minus → Derives .operand n u e →
      Derives .operand (n + 1) (t :: u) (.binary .sub (.lit 0) e)
  | factor {n : Nat} {u : List Token} {e : Expr} : Derives .operand n u e → Derives .product n u e
  | multiply {n : Nat} {t : Token} {op : Operator} {u v : List Token} {e f : Expr} :
      Derives .product n u e → Sign .product t.kind op → Derives .operand n v f →
      Derives .product n (u ++ t :: v) (.binary op e f)
  | term {n : Nat} {u : List Token} {e : Expr} : Derives .product n u e → Derives .sum n u e
  | add {n : Nat} {t : Token} {op : Operator} {u v : List Token} {e f : Expr} :
      Derives .sum n u e → Sign .sum t.kind op → Derives .product n v f →
      Derives .sum n (u ++ t :: v) (.binary op e f)

/-- Says of the tokens of an expression, and of those behind it, whether a PRINT may end the
expression between them. -/
abbrev Cut := List Token → List Token → Prop

inductive Items (cut : Cut) (n : Nat) : List Token → List PrintItem → Prop
  | nil : Items cut n [] []
  | string {t : Token} {u : List Token} {items : List PrintItem} :
      t.kind = .string → Items cut n u items → Items cut n (t :: u) (.string t.text :: items)
  | comma {t : Token} {u : List Token} {items : List PrintItem} :
      t.kind = .symbol .comma → Items cut n u items → Items cut n (t :: u) (.comma :: items)
  | semicolon {t : Token} {u : List Token} {items : List PrintItem} :
      t.kind = .symbol .semicolon → Items cut n u items →
      Items cut n (t :: u) (.semicolon :: items)
  | expr {u v : List Token} {e : Expr} {items : List PrintItem} :
      Derives .sum n u e → cut u v → Items cut n v items → Items cut n (u ++ v) (.expr e :: items)

/-- One name or more, with commas between them. -/
inductive Names : List Token → List String → Prop
  | one {t : Token} : t.kind = .identifier → Names [t] [t.text]
  | more {t c : Token} {u : List Token} {names : List String} :
      t.kind = .identifier → c.kind = .symbol .comma → Names u names →
      Names (t :: c :: u) (t.text :: names)

inductive Command (cut : Cut) (n : Nat) : List Token → Statement → Prop
  | empty : Command cut n [] .empty
  | let_ {k x s : Token} {u : List Token} {e : Expr} :
      k.kind = .keyword .let_ → x.kind = .identifier → s.kind = .symbol .eq → Derives .sum n u e →
      Command cut n (k :: x :: s :: u) (.let_ x.text e)
  | print {k : Token} {u : List Token} {items : List PrintItem} :
      k.kind = .keyword .print → Items cut n u items → Command cut n (k :: u) (.print items)
  | input {k : Token} {u : List Token} {names : List String} :
      k.kind = .keyword .input → Names u names → Command cut n (k :: u) (.input none names)
  | prompt {k p : Token} {u : List Token} {names : List String} :
      k.kind = .keyword .input → p.kind = .string → Names u names →
      Command cut n (k :: p :: u) (.input (some p.text) names)
  | for_ {k x s m : Token} {u v : List Token} {e f : Expr} :
      k.kind = .keyword .for_ → x.kind = .identifier → s.kind = .symbol .eq →
      Derives .sum n u e → m.kind = .keyword .to → Derives .sum n v f →
      Command cut n (k :: x :: s :: (u ++ m :: v)) (.for_ x.text e f)
  | next {k x : Token} :
      k.kind = .keyword .next → x.kind = .identifier → Command cut n [k, x] (.next x.text)
  | if_ {k c m : Token} {u v w : List Token} {op : Operator} {e f : Expr} {s : Statement} :
      k.kind = .keyword .if_ → Derives .sum n u e → Comparison c.kind op → Derives .sum n v f →
      m.kind = .keyword .then_ → Command cut n w s →
      Command cut n (k :: (u ++ c :: (v ++ m :: w))) (.if_ ⟨op, e, f⟩ s)
  | goto {k t : Token} {v : Int} :
      k.kind = .keyword .goto → Number t v → Command cut n [k, t] (.goto v)
  | gosub {k t : Token} {v : Int} :
      k.kind = .keyword .gosub → Number t v → Command cut n [k, t] (.gosub v)
  | return_ {k : Token} : k.kind = .keyword .return_ → Command cut n [k] .return_
  | end_ {k : Token} : k.kind = .keyword .end_ → Command cut n [k] .end_

/-- A line number and a command, up to the end of the line. -/
inductive Numbered (cut : Cut) (n : Nat) : List Token → Line → Prop
  | mk {t e : Token} {v : Int} {u : List Token} {s : Statement} :
      Number t v → Command cut n u s → e.kind = .eol →
      Numbered cut n (t :: (u ++ [e])) ⟨v, s⟩

/-- The kinds that a phrase can begin with. -/
def BeginsOperand (k : Kind) : Prop :=
  k = .identifier ∨ k = .integer ∨ k = .symbol .open_ ∨ k = .symbol .minus

theorem Derives.exists_head {p : Phrase} {n : Nat} {u : List Token} {e : Expr}
    (h : Derives p n u e) : ∃ t rest, u = t :: rest ∧ BeginsOperand t.kind := by
  induction h with
  | var ht => exact ⟨_, _, rfl, .inl ht⟩
  | lit ht =>
      cases ht with
      | mk ht => exact ⟨_, _, rfl, .inr (.inl ht)⟩
  | parens hl => exact ⟨_, _, rfl, .inr (.inr (.inl hl))⟩
  | neg ht => exact ⟨_, _, rfl, .inr (.inr (.inr ht))⟩
  | factor _ ih => exact ih
  | term _ ih => exact ih
  | multiply _ _ _ ih =>
      obtain ⟨t, rest, rfl, ht⟩ := ih
      exact ⟨t, _, rfl, ht⟩
  | add _ _ _ ih =>
      obtain ⟨t, rest, rfl, ht⟩ := ih
      exact ⟨t, _, rfl, ht⟩

theorem Derives.mono {p : Phrase} {n m : Nat} {u : List Token} {e : Expr} (h : Derives p n u e)
    (hnm : n ≤ m) : Derives p m u e := by
  induction h generalizing m with
  | var ht => exact .var ht
  | lit ht => exact .lit ht
  | parens hl _ hr ih =>
      obtain ⟨m, rfl⟩ : ∃ k, m = k + 1 := ⟨m - 1, by omega⟩
      exact .parens hl (ih (by omega)) hr
  | neg ht _ ih =>
      obtain ⟨m, rfl⟩ : ∃ k, m = k + 1 := ⟨m - 1, by omega⟩
      exact .neg ht (ih (by omega))
  | factor _ ih => exact .factor (ih hnm)
  | term _ ih => exact .term (ih hnm)
  | multiply _ hs _ ihe ihf => exact .multiply (ihe hnm) hs (ihf hnm)
  | add _ hs _ ihe ihf => exact .add (ihe hnm) hs (ihf hnm)

theorem Items.mono {cut cut' : Cut} {n : Nat} {u : List Token} {items : List PrintItem}
    (h : Items cut n u items) (hcut : ∀ u v, cut u v → cut' u v) : Items cut' n u items := by
  induction h with
  | nil => exact .nil
  | string ht _ ih => exact .string ht ih
  | comma ht _ ih => exact .comma ht ih
  | semicolon ht _ ih => exact .semicolon ht ih
  | expr he hc _ ih => exact .expr he (hcut _ _ hc) ih

end NumberedBasic.Grammar
