import NumberedBasic.Listing
import NumberedBasic.Proofs.Token.Spelling

/-! Expressions as they are written. The text of an expression is cut into the tokens that its shape
calls for, these derive the expression again, and an expression that was derived is written with no
deeper nesting than the tokens it came from. -/
namespace NumberedBasic
open Grammar Text Lexeme

/-- The symbol that an operator is written with. -/
def Operator.symbol : Operator → Symbol
  | .add => .plus
  | .sub => .minus
  | .mul => .times
  | .div => .div
  | .lt => .lt
  | .eq => .eq
  | .gt => .gt
  | .other _ => .colon

/-- The tokens of a decimal numeral. A minus sign is one of its own. -/
def numeralContents : Int → List Content
  | .ofNat n => [(.integer, n.repr)]
  | .negSucc n => [Symbol.minus.content, (.integer, (n + 1).repr)]

def bracket (needed : Bool) (inner : List Content) : List Content :=
  if needed then Symbol.open_.content :: (inner ++ [Symbol.close.content]) else inner

/-- Whether the outermost operator binds less tightly than the place asks for. -/
def Expr.isLoose (e : Expr) (least : Nat) : Bool := e.precedence?.any (· < least)

/-- The tokens that an expression is written with. -/
def Expr.contents : Expr → List Content
  | .lit value => numeralContents value.toInt
  | .var name => [(.identifier, name)]
  | .binary op left right =>
      bracket (left.isLoose op.precedence) left.contents ++
        op.symbol.content :: bracket (right.isLoose (op.precedence + 1)) right.contents
  | .missing => []

/-- Names are identifiers and operators compute. -/
def Expr.Writable : Expr → Prop
  | .lit _ => True
  | .var name => Spelled .identifier name
  | .binary op left right => op.precedence ≠ 0 ∧ left.Writable ∧ right.Writable
  | .missing => False

/-- No literal is negative. -/
def Expr.Unsigned : Expr → Prop
  | .lit value => 0 ≤ value.toInt
  | .binary _ left right => left.Unsigned ∧ right.Unsigned
  | _ => True

instance Expr.decidableWritable : (e : Expr) → Decidable e.Writable
  | .lit _ => isTrue trivial
  | .var name => inferInstanceAs (Decidable (Spelled .identifier name))
  | .binary op left right =>
      have := left.decidableWritable
      have := right.decidableWritable
      inferInstanceAs (Decidable (op.precedence ≠ 0 ∧ left.Writable ∧ right.Writable))
  | .missing => isFalse id

instance Expr.decidableUnsigned : (e : Expr) → Decidable e.Unsigned
  | .lit value => inferInstanceAs (Decidable (0 ≤ value.toInt))
  | .var _ => isTrue trivial
  | .binary _ left right =>
      have := left.decidableUnsigned
      have := right.decidableUnsigned
      inferInstanceAs (Decidable (left.Unsigned ∧ right.Unsigned))
  | .missing => isTrue trivial

/-- How many parentheses an expression is written with inside each other. -/
def Expr.nesting : Expr → Nat
  | .binary op left right =>
      max (left.nesting + (left.isLoose op.precedence).toNat)
        (right.nesting + (right.isLoose (op.precedence + 1)).toNat)
  | _ => 0

/-- How many parentheses and minus signs of numerals an expression is written with inside each
other. -/
def Expr.depth : Expr → Nat
  | .lit value => if value.toInt < 0 then 1 else 0
  | .binary op left right =>
      max (left.depth + (left.isLoose op.precedence).toNat)
        (right.depth + (right.isLoose (op.precedence + 1)).toNat)
  | _ => 0

/-- No literal is the least integer, which has no opposite. -/
def Expr.Negatable : Expr → Prop
  | .lit value => -9223372036854775808 < value.toInt
  | .binary _ left right => left.Negatable ∧ right.Negatable
  | _ => True

instance Expr.decidableNegatable : (e : Expr) → Decidable e.Negatable
  | .lit value => inferInstanceAs (Decidable (-9223372036854775808 < value.toInt))
  | .var _ => isTrue trivial
  | .binary _ left right =>
      have := left.decidableNegatable
      have := right.decidableNegatable
      inferInstanceAs (Decidable (left.Negatable ∧ right.Negatable))
  | .missing => isTrue trivial

/-- What the text of an expression is read as. Numerals have no sign, so that a negative literal is
read as a difference from zero. -/
def Expr.asRead : Expr → Expr
  | .lit value => if value.toInt < 0 then .binary .sub (.lit 0) (.lit (-value)) else .lit value
  | .binary op left right => .binary op left.asRead right.asRead
  | e => e

theorem Operator.spelling_eq {op : Operator} (h : op.precedence ≠ 0 ∨ op.isRelational = true) :
    op.spelling = op.symbol.char.toString := by
  cases op with
  | other code => simp [Operator.precedence, Operator.isRelational] at h
  | _ => rfl

theorem spelled_repr (n : Nat) : Spelled .integer n.repr := by
  have h := (Decimal.digits_repr n).all
  cases hlist : n.repr.toList with
  | nil => exact absurd hlist (Decimal.digits_repr n).ne_nil
  | cons c cs =>
      rw [hlist] at h
      rw [← String.ofList_toList (s := n.repr), hlist]
      exact .integer h

theorem scans_write (n : Int) : Scans (Decimal.write n) (numeralContents n) := by
  cases n with
  | ofNat n => exact scans_spelled (spelled_repr n) (by simp)
  | negSucc n =>
      have hdigits : Scans (n + 1).repr _ := scans_spelled (spelled_repr (n + 1)) (by simp)
      exact hdigits.cons_symbol .minus

theorem Scans.bracket {text : String} {inner : List Content} (h : Scans text inner)
    (needed : Bool) :
    Scans (if needed then parenthesize text else text) (bracket needed inner) := by
  cases needed with
  | false => exact h
  | true =>
      have hscan := (h.concat_symbol .close).cons_symbol .open_
      rwa [← String.append_assoc] at hscan

theorem isLoose_succ (e : Expr) (n : Nat) :
    e.precedence?.any (fun q => decide (q ≤ n)) = e.isLoose (n + 1) := by
  simp only [Expr.isLoose, Nat.lt_succ_iff]

theorem Operator.scans_joined {op : Operator} (hop : op.precedence ≠ 0) {a b : String}
    {u v : List Content} (ha : Scans a u) (hb : Scans b v) :
    Scans (a ++ " " ++ op.spelling ++ " " ++ b) (u ++ op.symbol.content :: v) := by
  have hscan := (ha.blank (scans_symbol op.symbol)).blank hb
  rw [Operator.spelling_eq (.inl hop)]
  rwa [List.append_assoc] at hscan

/-- The text of an expression is cut into its tokens. -/
theorem Expr.scans_format {e : Expr} (h : e.Writable) : Scans e.format e.contents := by
  induction e with
  | lit value => exact scans_write value.toInt
  | var name => exact scans_spelled h (by simp)
  | binary op left right ihl ihr =>
      obtain ⟨hop, hl, hr⟩ := h
      have hleft := (ihl hl).bracket (left.isLoose op.precedence)
      have hright := (ihr hr).bracket (right.isLoose (op.precedence + 1))
      rw [Expr.format, isLoose_succ]
      exact Operator.scans_joined hop hleft hright
  | missing => exact h.elim

/-- How tightly an operator has to bind to stand in a phrase without parentheses. -/
def Grammar.Phrase.least : Phrase → Nat
  | .sum => 1
  | .product => 2
  | .operand => 3

theorem Grammar.Derives.of_operand {n : Nat} {u : List Token} {e : Expr}
    (h : Derives .operand n u e) (p : Phrase) : Derives p n u e := by
  cases p with
  | operand => exact h
  | product => exact .factor h
  | sum => exact .term (.factor h)

theorem Grammar.Derives.of_product {n : Nat} {u : List Token} {e : Expr}
    (h : Derives .product n u e) {p : Phrase} (hp : p.least ≤ 2) : Derives p n u e := by
  cases p with
  | operand => exact absurd hp (by decide)
  | product => exact h
  | sum => exact .term h

theorem exists_token {u : List Token} {c : Content} (h : u.map Token.content = [c]) :
    ∃ t, u = [t] ∧ t.kind = c.1 ∧ t.text = c.2 := by
  obtain ⟨t, rfl, ht⟩ := List.map_eq_singleton_iff.mp h
  exact ⟨t, rfl, congrArg Prod.fst ht, congrArg Prod.snd ht⟩

theorem exists_cons {u : List Token} {c : Content} {rest : List Content}
    (h : u.map Token.content = c :: rest) :
    ∃ t v, u = t :: v ∧ t.kind = c.1 ∧ t.text = c.2 ∧ v.map Token.content = rest := by
  obtain ⟨t, v, rfl, ht, hv⟩ := List.map_eq_cons_iff.mp h
  exact ⟨t, v, rfl, congrArg Prod.fst ht, congrArg Prod.snd ht, hv⟩

theorem exists_around {u : List Token} {a b : List Content} {c : Content}
    (h : u.map Token.content = a ++ c :: b) :
    ∃ v t w, u = v ++ t :: w ∧ v.map Token.content = a ∧ t.kind = c.1 ∧
      w.map Token.content = b := by
  obtain ⟨v, x, rfl, hv, hx⟩ := List.map_eq_append_iff.mp h
  obtain ⟨t, w, rfl, ht, -, hw⟩ := exists_cons hx
  exact ⟨v, t, w, rfl, hv, ht, hw⟩

/-- The numbers that a numeral without a sign stands for. -/
def IsNumeral (n : Int) : Prop := 0 ≤ n ∧ Decimal.InRange n

theorem IsNumeral.exists_number {n : Int} (h : IsNumeral n) {u : List Token}
    (hu : u.map Token.content = numeralContents n) : ∃ t, u = [t] ∧ Number t n := by
  obtain ⟨k, rfl⟩ := Int.eq_ofNat_of_zero_le h.1
  obtain ⟨t, rfl, hk, htext⟩ := exists_token hu
  refine ⟨t, rfl, .mk hk ?_ h.2⟩
  rw [htext]
  exact .plain (Decimal.digits_repr k)

theorem derives_lit {n : Nat} {u : List Token} {value : Int64} (hvalue : 0 ≤ value.toInt)
    (h : u.map Token.content = numeralContents value.toInt) :
    Derives .operand n u (.lit value) := by
  obtain ⟨t, rfl, ht⟩ := IsNumeral.exists_number ⟨hvalue, Decimal.inRange_toInt value⟩ h
  have hlit := Derives.lit (n := n) ht
  rwa [Int64.ofInt_toInt] at hlit

theorem toInt_neg_of_negatable {value : Int64} (h : (Expr.lit value).Negatable) :
    (-value).toInt = -value.toInt := by
  have hlow : -9223372036854775808 < value.toInt := h
  have hhigh := value.toInt_lt
  rw [Int64.toInt_neg]
  exact Int.bmod_eq_of_le (by omega) (by omega)

/-- A literal is one numeral, and a minus sign before it if it is negative. -/
theorem derives_signed {n : Nat} {u : List Token} {value : Int64}
    (hvalue : (Expr.lit value).Negatable) (hn : (Expr.lit value).depth ≤ n)
    (hu : u.map Token.content = numeralContents value.toInt) :
    Derives .operand n u (Expr.lit value).asRead := by
  by_cases hneg : value.toInt < 0
  · obtain ⟨k, hk⟩ := Int.eq_negSucc_of_lt_zero hneg
    have hopposite : (-value).toInt = (k + 1 : Nat) := by
      rw [toInt_neg_of_negatable hvalue, hk]
      rfl
    rw [hk] at hu
    rw [Expr.depth, if_pos hneg] at hn
    obtain ⟨m, rfl⟩ : ∃ m, n = m + 1 := ⟨n - 1, by omega⟩
    obtain ⟨s, v, rfl, hs, -, hv⟩ := exists_cons hu
    rw [Expr.asRead, if_pos hneg]
    refine .neg hs (derives_lit (by omega) ?_)
    rw [hopposite]
    exact hv
  · rw [Expr.asRead, if_neg hneg]
    exact derives_lit (by omega) hu

theorem exists_bracketed {u : List Token} {inner : List Content}
    (h : u.map Token.content = bracket true inner) :
    ∃ l v r, u = l :: (v ++ [r]) ∧ l.kind = .symbol .open_ ∧ v.map Token.content = inner ∧
      r.kind = .symbol .close := by
  obtain ⟨l, w, rfl, hl, -, hw⟩ := exists_cons h
  obtain ⟨v, x, rfl, hv, hx⟩ := List.map_eq_append_iff.mp hw
  obtain ⟨r, rfl, hr, -⟩ := exists_token hx
  exact ⟨l, v, r, rfl, hl, hv, hr⟩

theorem derives_bracket {p : Phrase} {n k : Nat} {u : List Token} {inner : List Content} {e : Expr}
    (h : ∀ {n u}, k ≤ n → u.map Token.content = inner → Derives .sum n u e)
    (hn : k + 1 ≤ n) (hu : u.map Token.content = bracket true inner) :
    Derives p n u e := by
  obtain ⟨m, rfl⟩ : ∃ m, n = m + 1 := ⟨n - 1, by omega⟩
  obtain ⟨l, v, r, rfl, hl, hv, hr⟩ := exists_bracketed hu
  exact (Derives.parens hl (h (by omega) hv) hr).of_operand p

theorem Operator.sign {op : Operator} (h : op.precedence ≠ 0) :
    (op.precedence = 1 ∧ Sign .sum (.symbol op.symbol) op) ∨
      (op.precedence = 2 ∧ Sign .product (.symbol op.symbol) op) := by
  cases op with
  | add => exact .inl ⟨rfl, .plus⟩
  | sub => exact .inl ⟨rfl, .minus⟩
  | mul => exact .inr ⟨rfl, .times⟩
  | div => exact .inr ⟨rfl, .over⟩
  | _ => exact absurd rfl h

/-- The tokens that an expression is written with derive what it is read as, wherever it stands. -/
theorem Expr.derives_asRead {e : Expr} (hw : e.Writable) (hl : e.Negatable) {p : Phrase} {n : Nat}
    {u : List Token} (hn : e.depth + (e.isLoose p.least).toNat ≤ n)
    (hu : u.map Token.content = bracket (e.isLoose p.least) e.contents) :
    Derives p n u e.asRead := by
  induction e generalizing p n u with
  | lit value => exact (derives_signed hl hn hu).of_operand p
  | var name =>
      obtain ⟨t, rfl, hk, rfl⟩ := exists_token hu
      exact (Derives.var hk).of_operand p
  | binary op left right ihl ihr =>
      obtain ⟨hop, hwl, hwr⟩ := hw
      obtain ⟨hll, hlr⟩ := hl
      -- Without parentheses around it the expression is a phrase of the kind its operator joins.
      have hplain : ∀ {n : Nat} {u : List Token}, (binary op left right).depth ≤ n →
          u.map Token.content = (binary op left right).contents →
          ∀ {p : Phrase}, p.least ≤ op.precedence →
            Derives p n u (binary op left right).asRead := by
        intro n u hn hu p hp
        obtain ⟨v, t, w, rfl, hv, ht, hw⟩ := exists_around hu
        have ht : t.kind = .symbol op.symbol := ht
        obtain ⟨hnl, hnr⟩ := Nat.max_le.mp hn
        rcases Operator.sign hop with ⟨hprec, hsign⟩ | ⟨hprec, hsign⟩
        · rw [hprec] at hv hw hnl hnr hp
          have hsum := Derives.add (ihl hwl hll (p := .sum) hnl hv) (by rwa [ht])
            (ihr hwr hlr (p := .product) hnr hw)
          cases p with
          | sum => exact hsum
          | product => exact absurd hp (by decide)
          | operand => exact absurd hp (by decide)
        · rw [hprec] at hv hw hnl hnr hp
          exact (Derives.multiply (ihl hwl hll (p := .product) hnl hv) (by rwa [ht])
            (ihr hwr hlr (p := .operand) hnr hw)).of_product hp
      by_cases hloose : op.precedence < p.least
      · have htrue : (binary op left right).isLoose p.least = true := by
          simpa [Expr.isLoose, Expr.precedence?] using hloose
        rw [htrue] at hn hu
        exact derives_bracket
          (fun hn hu => hplain hn hu (Nat.one_le_iff_ne_zero.mpr hop)) hn hu
      · have hfalse : (binary op left right).isLoose p.least = false := by
          simpa [Expr.isLoose, Expr.precedence?] using hloose
        rw [hfalse] at hn hu
        exact hplain hn hu (Nat.le_of_not_lt hloose)
  | missing => exact hw.elim

/-- Every operator binds tightly enough for a sum. -/
theorem Expr.Writable.isLoose_one {e : Expr} (h : e.Writable) : e.isLoose 1 = false := by
  cases e with
  | binary op left right =>
      have hop : op.precedence ≠ 0 := h.1
      simpa [Expr.isLoose, Expr.precedence?] using hop
  | _ => rfl

theorem Expr.derives_sum_asRead {e : Expr} (hw : e.Writable) (hl : e.Negatable) {n : Nat}
    {u : List Token} (hn : e.depth ≤ n) (hu : u.map Token.content = e.contents) :
    Derives .sum n u e.asRead := by
  apply Expr.derives_asRead hw hl
  · rw [Phrase.least, hw.isLoose_one]
    exact hn
  · rw [Phrase.least, hw.isLoose_one]
    exact hu

/-- Where no literal is negative, the text is read as the expression itself. -/
theorem Expr.Unsigned.asRead_and_depth {e : Expr} (hs : e.Unsigned) :
    e.Negatable ∧ e.asRead = e ∧ e.depth = e.nesting := by
  induction e with
  | lit value =>
      have hvalue : 0 ≤ value.toInt := hs
      have hsign : ¬ value.toInt < 0 := by omega
      refine ⟨?_, if_neg hsign, if_neg hsign⟩
      change -9223372036854775808 < value.toInt
      omega
  | var name => exact ⟨trivial, rfl, rfl⟩
  | binary op left right ihl ihr =>
      obtain ⟨hnl, hal, hdl⟩ := ihl hs.1
      obtain ⟨hnr, har, hdr⟩ := ihr hs.2
      refine ⟨⟨hnl, hnr⟩, ?_, ?_⟩
      · rw [Expr.asRead, hal, har]
      · rw [Expr.depth, hdl, hdr, Expr.nesting]
  | missing => exact ⟨trivial, rfl, rfl⟩

theorem Expr.derives_sum {e : Expr} (hw : e.Writable) (hs : e.Unsigned) {n : Nat} {u : List Token}
    (hn : e.nesting ≤ n) (hu : u.map Token.content = e.contents) : Derives .sum n u e := by
  obtain ⟨hnegatable, hread, hdepth⟩ := hs.asRead_and_depth
  rw [← hdepth] at hn
  have hderives := Expr.derives_sum_asRead hw hnegatable hn hu
  rwa [hread] at hderives

theorem Expr.isLoose_mono {e : Expr} {a b : Nat} (h : a ≤ b) :
    (e.isLoose a).toNat ≤ (e.isLoose b).toNat := by
  have himp : e.isLoose a = true → e.isLoose b = true := by
    simp only [Expr.isLoose, Option.any_eq_true, decide_eq_true_eq]
    rintro ⟨q, hq, hlt⟩
    exact ⟨q, hq, by omega⟩
  cases ha : e.isLoose a with
  | false => exact Nat.zero_le _
  | true => rw [himp ha]

theorem Grammar.Sign.precedence {p : Phrase} {k : Kind} {op : Operator} (h : Sign p k op) :
    op.precedence = p.least := by
  cases h <;> rfl

theorem Expr.nesting_binary_le {op : Operator} {left right : Expr} {n : Nat}
    (hl : left.nesting + (left.isLoose op.precedence).toNat ≤ n)
    (hr : right.nesting + (right.isLoose (op.precedence + 1)).toNat ≤ n) :
    (binary op left right).nesting +
      ((binary op left right).isLoose op.precedence).toNat ≤ n := by
  have hloose : (binary op left right).isLoose op.precedence = false := by
    simp [Expr.isLoose, Expr.precedence?]
  rw [hloose]
  exact Nat.max_le.mpr ⟨hl, hr⟩

/-- An expression is written with no deeper nesting than the phrase that it was read from: where it
needs parentheses, there was a pair of them or a minus sign. -/
theorem Grammar.Derives.nesting_le {p : Phrase} {n : Nat} {u : List Token} {e : Expr}
    (h : Derives p n u e) : e.nesting + (e.isLoose p.least).toNat ≤ n := by
  induction h with
  | var => exact Nat.zero_le _
  | lit => exact Nat.zero_le _
  | @parens n l r u e _ _ _ ih =>
      have hbool := Bool.toNat_le (e.isLoose Phrase.operand.least)
      omega
  | @neg n t u e _ _ ih =>
      have hmono : (e.isLoose 2).toNat ≤ (e.isLoose 3).toNat := Expr.isLoose_mono (by decide)
      change max 0 (e.nesting + (e.isLoose 2).toNat) + 1 ≤ n + 1
      change e.nesting + (e.isLoose 3).toNat ≤ n at ih
      omega
  | @factor n u e _ ih =>
      have hmono : (e.isLoose 2).toNat ≤ (e.isLoose 3).toNat := Expr.isLoose_mono (by decide)
      exact Nat.le_trans (Nat.add_le_add_left hmono _) ih
  | @term n u e _ ih =>
      have hmono : (e.isLoose 1).toNat ≤ (e.isLoose 2).toNat := Expr.isLoose_mono (by decide)
      exact Nat.le_trans (Nat.add_le_add_left hmono _) ih
  | multiply _ hs _ ihu ihv =>
      rw [← hs.precedence] at ihu ⊢
      exact Expr.nesting_binary_le ihu (hs.precedence ▸ ihv)
  | add _ hs _ ihu ihv =>
      rw [← hs.precedence] at ihu ⊢
      exact Expr.nesting_binary_le ihu (hs.precedence ▸ ihv)

theorem Grammar.Number.isNumeral {t : Token} {v : Int} (h : Number t v)
    (ht : Spelled t.kind t.text) : IsNumeral v := by
  cases h with
  | mk hk hd hr =>
      refine ⟨?_, hr⟩
      rw [hk] at ht
      generalize t.text = text at hd ht
      cases ht with
      | @integer c cs hcs =>
          rw [String.toList_ofList] at hd
          cases hd with
          | plain => exact Int.natCast_nonneg _
          | plus => exact Int.natCast_nonneg _
          | minus => exact absurd (hcs '-' (by simp)) (by decide)

theorem Grammar.Derives.writable {p : Phrase} {n : Nat} {u : List Token} {e : Expr}
    (h : Derives p n u e) (hu : ∀ t ∈ u, Spelled t.kind t.text) : e.Writable ∧ e.Unsigned := by
  induction h with
  | @var n t hk =>
      have ht := hu t (by simp)
      rw [hk] at ht
      exact ⟨ht, trivial⟩
  | @lit n t v ht =>
      obtain ⟨hv, hrange⟩ := ht.isNumeral (hu t (by simp))
      refine ⟨trivial, ?_⟩
      rw [Expr.Unsigned, Int64.toInt_ofInt_of_le hrange.1 (Int.lt_add_one_of_le hrange.2)]
      exact hv
  | parens _ _ _ ih => exact ih fun t ht => hu t (by simp [ht])
  | neg _ _ ih =>
      obtain ⟨hw, hs⟩ := ih fun t ht => hu t (by simp [ht])
      exact ⟨⟨by decide, trivial, hw⟩, Int.le_refl 0, hs⟩
  | factor _ ih => exact ih hu
  | term _ ih => exact ih hu
  | multiply _ hs _ ihu ihv =>
      obtain ⟨hwu, hsu⟩ := ihu fun t ht => hu t (by simp [ht])
      obtain ⟨hwv, hsv⟩ := ihv fun t ht => hu t (by simp [ht])
      exact ⟨⟨by rw [hs.precedence]; decide, hwu, hwv⟩, hsu, hsv⟩
  | add _ hs _ ihu ihv =>
      obtain ⟨hwu, hsu⟩ := ihu fun t ht => hu t (by simp [ht])
      obtain ⟨hwv, hsv⟩ := ihv fun t ht => hu t (by simp [ht])
      exact ⟨⟨by rw [hs.precedence]; decide, hwu, hwv⟩, hsu, hsv⟩

end NumberedBasic
