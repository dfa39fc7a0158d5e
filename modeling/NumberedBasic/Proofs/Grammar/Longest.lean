import NumberedBasic.Proofs.Grammar.Line

/-! The rules leave open where an expression of a PRINT ends if a minus sign follows. Reading always
takes the longest expression. This never refuses a line that some other cut would derive. -/
namespace NumberedBasic.Grammar

/-- An expression of a PRINT may end anywhere. -/
def Anywhere : Cut := fun _ _ => True

/-- An expression of a PRINT ends only where no longer stretch of tokens is an expression. -/
def Longest : Cut := fun u v =>
  ∀ (m : Nat) (u' v' : List Token) (e : Expr),
    u' ++ v' = u ++ v → Derives .sum m u' e → u'.length ≤ u.length

/-- What has been seen of an expression: whether an operand is due, and how many parentheses are
open. -/
def advance : Bool × Nat → Token → Option (Bool × Nat)
  | (true, depth), t =>
      match t.kind with
      | .identifier | .integer => some (false, depth)
      | .symbol .open_ => some (true, depth + 1)
      | .symbol .minus => some (true, depth)
      | _ => none
  | (false, depth), t =>
      if (additive? t.kind).isSome || (multiplicative? t.kind).isSome then some (true, depth)
      else if t.kind = .symbol .close then (if depth = 0 then none else some (false, depth - 1))
      else none

theorem advance_of_sign {p : Phrase} {t : Token} {op : Operator} (h : Sign p t.kind op)
    (depth : Nat) : advance (false, depth) t = some (true, depth) := by
  generalize hk : t.kind = k at h
  cases h <;> simp [advance, hk, additive?, multiplicative?]

/-- A phrase leads from a place where an operand is due to one where none is. -/
theorem Derives.advances {p : Phrase} {n : Nat} {u : List Token} {e : Expr} (h : Derives p n u e)
    (depth : Nat) : u.foldlM advance (true, depth) = some (false, depth) := by
  induction h generalizing depth with
  | var ht => simp [advance, ht]
  | lit ht => simp [advance, (number_iff.mp ht).1]
  | parens hl _ hr ih => simp [advance, hl, hr, ih, additive?, multiplicative?]
  | neg ht _ ih => simp [advance, ht, ih]
  | factor _ ih => exact ih depth
  | term _ ih => exact ih depth
  | multiply _ hs _ ihu ihv => simp [ihu, advance_of_sign hs, ihv]
  | add _ hs _ ihu ihv => simp [ihu, advance_of_sign hs, ihv]

/-- Behind an expression only an operator can go on with it. -/
theorem Derives.longest {n : Nat} {u v : List Token} {e : Expr} (h : Derives .sum n u e)
    (hv : Stops v) : Longest u v := by
  intro m u' v' e' heq hd
  by_contra hlen
  rcases List.append_eq_append_iff.mp heq with ⟨w, rfl, rfl⟩ | ⟨w, rfl, rfl⟩
  · simp at hlen
  · cases w with
    | nil => simp at hlen
    | cons t w =>
        have hadvance := hd.advances 0
        have ht : advance (false, 0) t = none := by
          have hsum : additive? t.kind = none := hv.1
          have hproduct : multiplicative? t.kind = none := hv.2
          simp [advance, hsum, hproduct]
        simp [h.advances 0, ht] at hadvance

theorem Derives.behind_minus {p : Phrase} {n : Nat} {x : List Token} {f : Expr}
    (h : Derives p n x f) (hp : p ≠ .sum) {t : Token} {w : List Token} (hx : x = t :: w)
    (ht : t.kind = .symbol .minus) : ∃ g, Derives p n w g := by
  induction h generalizing w with
  | var hk =>
      cases hx
      simp [ht] at hk
  | lit hk =>
      cases hx
      simp [(number_iff.mp hk).1] at ht
  | parens hk =>
      cases hx
      simp [ht] at hk
  | neg _ hu =>
      cases hx
      exact ⟨_, hu.mono (by omega)⟩
  | factor _ ih =>
      obtain ⟨g, hg⟩ := ih (by decide) hx
      exact ⟨g, .factor hg⟩
  | multiply hu hs hv ih =>
      obtain ⟨t', u', rfl, -⟩ := hu.exists_head
      cases hx
      obtain ⟨g, hg⟩ := ih (by decide) rfl
      exact ⟨_, .multiply hg hs hv⟩
  | term => exact absurd rfl hp
  | add => exact absurd rfl hp

/-- An expression that begins with a minus sign continues the expression in front of it, with no
deeper nesting. -/
theorem Derives.join {n : Nat} {u x : List Token} {e f : Expr} (hu : Derives .sum n u e)
    (h : Derives .sum n x f) {t : Token} {w : List Token} (hx : x = t :: w)
    (ht : t.kind = .symbol .minus) : ∃ g, Derives .sum n (u ++ x) g := by
  generalize hp : Phrase.sum = p at h
  induction h generalizing w with
  | term hproduct =>
      obtain ⟨g, hg⟩ := hproduct.behind_minus (by decide) hx ht
      have hs : Sign .sum t.kind .sub := ht ▸ .minus
      rw [hx]
      exact ⟨_, .add hu hs hg⟩
  | @add n s op y z e' f' hy hs hz ih =>
      obtain ⟨t', y', rfl, -⟩ := hy.exists_head
      cases hx
      obtain ⟨g, hg⟩ := ih hu rfl hp
      exact ⟨_, by simpa using Derives.add hg hs hz⟩
  | _ => cases hp

theorem Items.of_not_stops {cut : Cut} {n : Nat} {v : List Token} {items : List PrintItem}
    (h : Items cut n v items) (hv : ¬ Stops v) :
    ∃ t w rest e more, v = (t :: w) ++ rest ∧ t.kind = .symbol .minus ∧
      Derives .sum n (t :: w) e ∧ cut (t :: w) rest ∧ Items cut n rest more := by
  cases h with
  | nil => exact absurd ⟨rfl, rfl⟩ hv
  | string ht => exact absurd (stops_cons ht rfl rfl) hv
  | comma ht => exact absurd (stops_cons ht rfl rfl) hv
  | semicolon ht => exact absurd (stops_cons ht rfl rfl) hv
  | expr he hcut hrest =>
      obtain ⟨t, w, rfl, ht⟩ := he.exists_head
      rcases ht with ht | ht | ht | ht
      · exact absurd (stops_cons ht rfl rfl) hv
      · exact absurd (stops_cons ht rfl rfl) hv
      · exact absurd (stops_cons ht rfl rfl) hv
      · exact ⟨t, w, _, _, _, rfl, ht, he, hcut, hrest⟩

/-- However the items are cut, they can be cut where no operator follows. -/
theorem Items.exists_separated {n : Nat} {u : List Token} {items : List PrintItem}
    (h : Items Anywhere n u items) : ∃ items', Items Separated n u items' := by
  induction h with
  | nil => exact ⟨_, .nil⟩
  | string ht _ ih => exact ⟨_, .string ht ih.choose_spec⟩
  | comma ht _ ih => exact ⟨_, .comma ht ih.choose_spec⟩
  | semicolon ht _ ih => exact ⟨_, .semicolon ht ih.choose_spec⟩
  | @expr u v e items he _ _ ih =>
      obtain ⟨items', hitems⟩ := ih
      by_cases hv : Stops v
      · exact ⟨_, .expr he hv hitems⟩
      · obtain ⟨t, w, rest, f, more, rfl, ht, hf, hcut, hrest⟩ := hitems.of_not_stops hv
        obtain ⟨g, hg⟩ := he.join hf rfl ht
        exact ⟨_, by simpa using Items.expr hg hcut hrest⟩

theorem Items.separated_of_longest {n : Nat} {u : List Token} {items : List PrintItem}
    (h : Items Longest n u items) : Items Separated n u items := by
  induction h with
  | nil => exact .nil
  | string ht _ ih => exact .string ht ih
  | comma ht _ ih => exact .comma ht ih
  | semicolon ht _ ih => exact .semicolon ht ih
  | @expr u v e items he hcut hitems ih =>
      refine .expr he ?_ ih
      by_contra hv
      obtain ⟨t, w, rest, f, more, rfl, ht, hf, -⟩ := hitems.of_not_stops hv
      obtain ⟨g, hg⟩ := he.join hf rfl ht
      have hlen := hcut n (u ++ t :: w) rest g (by simp) hg
      rw [List.length_append, List.length_cons] at hlen
      omega

theorem Items.longest_of_separated {n : Nat} {u : List Token} {items : List PrintItem}
    (h : Items Separated n u items) : Items Longest n u items := by
  induction h with
  | nil => exact .nil
  | string ht _ ih => exact .string ht ih
  | comma ht _ ih => exact .comma ht ih
  | semicolon ht _ ih => exact .semicolon ht ih
  | expr he hcut _ ih => exact .expr he (he.longest hcut) ih

theorem Command.recut {cut cut' : Cut} {n : Nat} {u : List Token} {s : Statement}
    (h : Command cut n u s)
    (hitems : ∀ {u items}, Items cut n u items → Items cut' n u items) : Command cut' n u s := by
  induction h with
  | empty => exact .empty
  | let_ hk hx hs he => exact .let_ hk hx hs he
  | print hk h => exact .print hk (hitems h)
  | input hk h => exact .input hk h
  | prompt hk hp h => exact .prompt hk hp h
  | for_ hk hx hs hu hm hv => exact .for_ hk hx hs hu hm hv
  | next hk hx => exact .next hk hx
  | if_ hk hu hc hv hm _ ih => exact .if_ hk hu hc hv hm ih
  | goto hk ht => exact .goto hk ht
  | gosub hk ht => exact .gosub hk ht
  | return_ hk => exact .return_ hk
  | end_ hk => exact .end_ hk

theorem Command.exists_separated {n : Nat} {u : List Token} {s : Statement}
    (h : Command Anywhere n u s) : ∃ s', Command Separated n u s' := by
  induction h with
  | empty => exact ⟨_, .empty⟩
  | let_ hk hx hs he => exact ⟨_, .let_ hk hx hs he⟩
  | print hk h => exact ⟨_, .print hk h.exists_separated.choose_spec⟩
  | input hk h => exact ⟨_, .input hk h⟩
  | prompt hk hp h => exact ⟨_, .prompt hk hp h⟩
  | for_ hk hx hs hu hm hv => exact ⟨_, .for_ hk hx hs hu hm hv⟩
  | next hk hx => exact ⟨_, .next hk hx⟩
  | if_ hk hu hc hv hm _ ih => exact ⟨_, .if_ hk hu hc hv hm ih.choose_spec⟩
  | goto hk ht => exact ⟨_, .goto hk ht⟩
  | gosub hk ht => exact ⟨_, .gosub hk ht⟩
  | return_ hk => exact ⟨_, .return_ hk⟩
  | end_ hk => exact ⟨_, .end_ hk⟩

theorem Numbered.recut {cut cut' : Cut} {n : Nat} {tokens : List Token} {l : Line}
    (h : Numbered cut n tokens l)
    (hitems : ∀ {u items}, Items cut n u items → Items cut' n u items) :
    Numbered cut' n tokens l := by
  cases h with
  | mk ht hs he => exact .mk ht (hs.recut hitems) he

theorem Numbered.exists_separated {n : Nat} {tokens : List Token} {l : Line}
    (h : Numbered Anywhere n tokens l) : ∃ l', Numbered Separated n tokens l' := by
  cases h with
  | mk ht hs he => exact ⟨_, .mk ht hs.exists_separated.choose_spec he⟩

/-- A line is accepted exactly if the rules derive it, however they cut the items of a PRINT, and
the tree is that of the derivation in which each expression goes as far as it can. -/
theorem parseLine_accepts_iff_derives {tokens : List Token} (h : EndsOnce tokens) :
    ((∃ l, parseLine tokens = .ok l) ↔
      ∃ l, Numbered Anywhere (nestingLimit - 1) tokens l) ∧
    ∀ l, parseLine tokens = .ok l ↔ Numbered Longest (nestingLimit - 1) tokens l := by
  refine ⟨⟨?_, ?_⟩, fun l => ⟨?_, ?_⟩⟩
  · rintro ⟨l, hl⟩
    have hread := (parseLine_eq_ok_iff h).mp hl
    exact ⟨l, hread.recut fun hitems => hitems.mono fun _ _ _ => trivial⟩
  · rintro ⟨l, hl⟩
    obtain ⟨l', hl'⟩ := hl.exists_separated
    exact ⟨l', (parseLine_eq_ok_iff h).mpr hl'⟩
  · intro hl
    exact ((parseLine_eq_ok_iff h).mp hl).recut Items.longest_of_separated
  · intro hl
    exact (parseLine_eq_ok_iff h).mpr (hl.recut Items.separated_of_longest)

def minusTokens : List Token :=
  [⟨.integer, "10", 1, 0⟩, ⟨.keyword .print, "print", 1, 3⟩, ⟨.integer, "1", 1, 9⟩,
   ⟨.symbol .minus, "-", 1, 11⟩, ⟨.integer, "2", 1, 12⟩, Token.eol 1 13]

theorem parseLine_accepts_iff_derives_minus :
    EndsOnce minusTokens ∧
      Numbered Longest (nestingLimit - 1) minusTokens
        ⟨10, .print [.expr (.binary .sub (.lit 1) (.lit 2))]⟩ := by
  have h : EndsOnce minusTokens :=
    ⟨minusTokens.dropLast, Token.eol 1 13, rfl, rfl, by decide +kernel⟩
  exact ⟨h, ((parseLine_accepts_iff_derives h).2 _).mp (by rfl)⟩

end NumberedBasic.Grammar
