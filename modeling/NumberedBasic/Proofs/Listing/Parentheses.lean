import NumberedBasic.Proofs.Listing.Nesting
import NumberedBasic.Proofs.Token.Partition

/-! No parentheses are written that could be left out. Without any one pair of them the text of an
expression is still that of an expression, but of another one: no text stands for an expression with
fewer parentheses than it is written with. -/
namespace NumberedBasic
open Grammar Text

/-- Where the tokens of a text begin an expression, it is this one, and the text ends with it. -/
def ReadsAs (row : Int) (text : String) (e : Expr) : Prop :=
  expr (tokenize text row) = .ok (e, [Token.eol row text.length])

theorem exists_tokenize_of_scans {text : String} {tokens : List Content} (h : Scans text tokens)
    (row : Int) : ∃ u, tokenize text row = u ++ [Token.eol row text.length] ∧
      u.map Token.content = tokens := by
  obtain ⟨u, hu, -⟩ := (scan_tiles row 0 text.toList).ends (Nat.zero_add _)
  have hscan := h.2 [] breaks_nil
  rw [List.append_nil, contents_nil, ← map_content_scan row 0, hu, List.map_append] at hscan
  exact ⟨u, hu, (List.append_inj' hscan rfl).1⟩

theorem readsAs_of_derives {row : Int} {text : String} {u : List Token} {e : Expr}
    (htext : tokenize text row = u ++ [Token.eol row text.length])
    (h : Derives .sum (nestingLimit - 1) u e) : ReadsAs row text e := by
  rw [ReadsAs, htext]
  exact expr_eq_ok h (stops_of_eol rfl)

section Joining

variable {n : Nat} {p q : Phrase} {t : Token} {op : Operator} {u v : List Token} {e f : Expr}

theorem Grammar.Derives.extend (hu : Derives .sum n u e) (ht : Sign p t.kind op)
    (hv : Derives .operand n v f) : ∃ g, Derives .sum n (u ++ t :: v) g := by
  cases p with
  | sum => exact ⟨_, .add hu ht (.factor hv)⟩
  | product =>
      cases hu with
      | term hu => exact ⟨_, .term (.multiply hu ht hv)⟩
      | add hu hs hw =>
          have hsum := Derives.add hu hs (.multiply hw ht hv)
          exact ⟨_, by simpa using hsum⟩
  | operand => cases ht

/-- A sum, an operator and a phrase are a sum, however the operators group its parts anew. -/
theorem Grammar.Derives.splice (hv : Derives q n v f) (hu : Derives .sum n u e)
    (ht : Sign p t.kind op) : ∃ g, Derives .sum n (u ++ t :: v) g := by
  induction hv with
  | var hk => exact hu.extend ht (.var hk)
  | lit hk => exact hu.extend ht (.lit hk)
  | parens hl hin hr => exact hu.extend ht (.parens hl hin hr)
  | neg hk hin => exact hu.extend ht (.neg hk hin)
  | factor _ ih => exact ih hu
  | term _ ih => exact ih hu
  | multiply _ hs hw ih =>
      obtain ⟨g, hg⟩ := ih hu
      obtain ⟨g', hg'⟩ := hg.extend hs hw
      exact ⟨g', by simpa using hg'⟩
  | add _ hs hw ih =>
      obtain ⟨g, hg⟩ := ih hu
      exact ⟨_, by simpa using Derives.add hg hs hw⟩

theorem exists_derives_bracket {k : Nat} {inner : List Content} {needed : Bool}
    (h : ∀ {n u}, k ≤ n → u.map Token.content = inner → ∃ e, Derives .sum n u e)
    (hn : k + needed.toNat ≤ n) (hu : u.map Token.content = bracket needed inner) :
    ∃ e, Derives .sum n u e := by
  cases needed with
  | false => exact h hn hu
  | true =>
      have hn : k + 1 ≤ n := hn
      obtain ⟨m, rfl⟩ : ∃ m, n = m + 1 := ⟨n - 1, by omega⟩
      obtain ⟨l, v, r, rfl, hl, hv, hr⟩ := exists_bracketed hu
      obtain ⟨e, he⟩ := h (Nat.le_of_succ_le_succ hn) hv
      exact ⟨e, (Derives.parens hl he hr).of_operand .sum⟩

end Joining

/-- What a token adds to the parentheses of a text, and what a name or a numeral takes from them. -/
def Kind.worth : Kind → Int
  | .symbol .open_ => 1
  | .identifier | .integer => -1
  | _ => 0

/-- How many more parentheses are opened than there are names and numerals. -/
def surplus : List Content → Int
  | [] => 0
  | c :: rest => c.1.worth + surplus rest

section Counting

variable {a b : List Content}

@[simp] theorem surplus_nil : surplus [] = 0 := rfl

@[simp] theorem surplus_cons (c : Content) : surplus (c :: a) = c.1.worth + surplus a := rfl

@[simp] theorem surplus_append : surplus (a ++ b) = surplus a + surplus b := by
  induction a with
  | nil => exact (Int.zero_add _).symm
  | cons c a ih => rw [List.cons_append, surplus_cons, surplus_cons, ih, Int.add_assoc]

@[simp] theorem worth_operator (op : Operator) : op.symbol.content.1.worth = 0 := by
  cases op <;> rfl

theorem worth_sign {p : Phrase} {k : Kind} {op : Operator} (h : Sign p k op) : k.worth = 0 := by
  cases h <;> rfl

@[simp] theorem surplus_bracket (needed : Bool) :
    surplus (bracket needed a) = surplus a + needed.toNat := by
  cases needed
  · simp [bracket]
  · simp [bracket, Symbol.content, Kind.worth, Int.add_comm]

theorem surplus_numeral (n : Int) : surplus (numeralContents n) = -1 := by
  cases n <;> simp [numeralContents, Symbol.content, Kind.worth]

theorem Expr.surplus_binary (op : Operator) (left right : Expr) :
    surplus (binary op left right).contents =
      surplus left.contents + (left.isLoose op.precedence).toNat +
        (surplus right.contents + (right.isLoose (op.precedence + 1)).toNat) := by
  simp [Expr.contents]

/-- The tokens have the parentheses that the expression is written with where operators have to
bind so tightly. An operand of the expression that is none of the tokens makes up for a pair. -/
def Expr.Warranted (e : Expr) (least : Nat) (tokens : List Content) : Prop :=
  surplus e.contents + (e.isLoose least).toNat ≤ surplus tokens

theorem Expr.Warranted.mono {e : Expr} {m n : Nat} {tokens : List Content}
    (h : e.Warranted n tokens) (hmn : m ≤ n) : e.Warranted m tokens := by
  have hloose := Expr.isLoose_mono (e := e) hmn
  unfold Expr.Warranted at h ⊢
  omega

theorem Expr.Warranted.binary {p : Phrase} {t : Token} {op : Operator} {e f : Expr}
    (he : e.Warranted op.precedence a) (hs : Sign p t.kind op)
    (hf : f.Warranted (op.precedence + 1) b) :
    (Expr.binary op e f).Warranted op.precedence (a ++ t.content :: b) := by
  have htight : (Expr.binary op e f).isLoose op.precedence = false := by
    simp [Expr.isLoose, Expr.precedence?]
  have hsign : t.content.1.worth = 0 := worth_sign hs
  unfold Expr.Warranted at he hf ⊢
  rw [htight, Expr.surplus_binary, surplus_append, surplus_cons, hsign, Bool.toNat_false]
  omega

theorem Expr.Warranted.parens {l r : Token} {e : Expr} {n : Nat} (h : e.Warranted n a)
    (hl : l.kind = .symbol .open_) (hr : r.kind = .symbol .close) (m : Nat) :
    e.Warranted m (l.content :: (a ++ [r.content])) := by
  have hbool := Bool.toNat_le (e.isLoose m)
  have hpair : surplus (l.content :: (a ++ [r.content])) = 1 + surplus a := by
    simp [Token.content, Kind.worth, hl, hr]
  unfold Expr.Warranted at h ⊢
  omega

-- The difference from zero is put in parentheses, and the zero is the operand that makes up for
-- them.
theorem Expr.Warranted.neg {t : Token} {e : Expr} (h : e.Warranted 2 a)
    (ht : t.kind = .symbol .minus) (m : Nat) :
    (Expr.binary .sub (.lit 0) e).Warranted m (t.content :: a) := by
  have hsign : t.content.1.worth = 0 := worth_sign (ht ▸ .minus : Sign .sum t.kind .sub)
  have hzero : surplus (Expr.lit 0).contents = -1 := surplus_numeral (Int64.toInt 0)
  have hbool := Bool.toNat_le ((Expr.binary .sub (.lit 0) e).isLoose m)
  have hbinary : surplus (Expr.binary .sub (.lit 0) e).contents =
      surplus (Expr.lit 0).contents + (0 : Nat) + (surplus e.contents + (e.isLoose 2).toNat) :=
    Expr.surplus_binary .sub (.lit 0) e
  unfold Expr.Warranted at h ⊢
  rw [surplus_cons, hsign]
  omega

end Counting

/-- No text stands for an expression with fewer parentheses than it is written with. -/
theorem Grammar.Derives.warranted {p : Phrase} {n : Nat} {u : List Token} {e : Expr}
    (h : Derives p n u e) : e.Warranted p.least (u.map Token.content) := by
  induction h with
  | @var n t hk =>
      simp [Expr.Warranted, Expr.contents, Expr.isLoose, Expr.precedence?, Token.content,
        Kind.worth, hk]
  | @lit n t v ht =>
      have hk := (number_iff.mp ht).1
      rw [Expr.Warranted, Expr.contents, surplus_numeral]
      simp [Expr.isLoose, Expr.precedence?, Token.content, Kind.worth, hk]
  | parens hl _ hr ih => simpa using ih.parens hl hr _
  | neg ht _ ih => exact (ih.mono (by decide)).neg ht _
  | factor _ ih => exact ih.mono (by decide)
  | term _ ih => exact ih.mono (by decide)
  | multiply _ hs _ ihu ihv =>
      rw [← hs.precedence] at ihu ⊢
      simpa using ihu.binary hs (hs.precedence ▸ ihv)
  | add _ hs _ ihu ihv =>
      rw [← hs.precedence] at ihu ⊢
      simpa using ihu.binary hs (hs.precedence ▸ ihv)

/-- The texts of an expression with one pair of its parentheses left out, and the tokens of such a
text. The expression stands where operators have to bind so tightly. -/
inductive Expr.Sheds : Nat → Expr → String → List Content → Prop
  | own {least : Nat} {e : Expr} : e.isLoose least = true → Sheds least e e.format e.contents
  | left {least : Nat} {op : Operator} {left right : Expr} {text : String}
      {tokens : List Content} : Sheds op.precedence left text tokens →
      Sheds least (.binary op left right)
        (enclose ((binary op left right).isLoose least)
          (text ++ " " ++ op.spelling ++ " " ++ right.written (op.precedence + 1)))
        (bracket ((binary op left right).isLoose least)
          (tokens ++ op.symbol.content ::
            bracket (right.isLoose (op.precedence + 1)) right.contents))
  | right {least : Nat} {op : Operator} {left right : Expr} {text : String}
      {tokens : List Content} : Sheds (op.precedence + 1) right text tokens →
      Sheds least (.binary op left right)
        (enclose ((binary op left right).isLoose least)
          (left.written op.precedence ++ " " ++ op.spelling ++ " " ++ text))
        (bracket ((binary op left right).isLoose least)
          (bracket (left.isLoose op.precedence) left.contents ++ op.symbol.content :: tokens))

section Shedding

variable {least n : Nat} {e : Expr} {text : String} {tokens : List Content} {x y z : List Char}

theorem Expr.scans_written (hw : e.Writable) (least : Nat) :
    Scans (e.written least) (bracket (e.isLoose least) e.contents) :=
  (e.scans_format hw).bracket _

theorem Expr.Sheds.scans (h : e.Sheds least text tokens) (hw : e.Writable) :
    Scans text tokens := by
  induction h with
  | own => exact Expr.scans_format hw
  | left _ ih =>
      obtain ⟨hop, hwl, hwr⟩ := hw
      exact (Operator.scans_joined hop (ih hwl) (Expr.scans_written hwr _)).bracket _
  | right _ ih =>
      obtain ⟨hop, hwl, hwr⟩ := hw
      exact (Operator.scans_joined hop (Expr.scans_written hwl _) (ih hwr)).bracket _

theorem Expr.Sheds.surplus_succ (h : e.Sheds least text tokens) :
    surplus tokens + 1 = surplus e.contents + (e.isLoose least).toNat := by
  induction h with
  | own hloose =>
      rw [hloose]
      rfl
  | left _ ih =>
      simp only [surplus_bracket, surplus_append, surplus_cons, worth_operator, Expr.surplus_binary]
      omega
  | right _ ih =>
      simp only [surplus_bracket, surplus_append, surplus_cons, worth_operator, Expr.surplus_binary]
      omega

theorem exists_derives_joined {op : Operator} (hop : op.precedence ≠ 0) {a b : List Content}
    {u : List Token} (hu : u.map Token.content = a ++ op.symbol.content :: b)
    (ha : ∀ {v}, v.map Token.content = a → ∃ e, Derives .sum n v e)
    (hb : ∀ {v}, v.map Token.content = b → ∃ e, Derives .sum n v e) :
    ∃ e, Derives .sum n u e := by
  obtain ⟨v, t, w, rfl, hv, ht, hw⟩ := exists_around hu
  have ht : t.kind = .symbol op.symbol := ht
  obtain ⟨e, he⟩ := ha hv
  obtain ⟨f, hf⟩ := hb hw
  rcases Operator.sign hop with ⟨-, hsign⟩ | ⟨-, hsign⟩
  · exact hf.splice he (by rwa [ht])
  · exact hf.splice he (by rwa [ht])

theorem Expr.exists_derives (hw : e.Writable) (hs : e.Unsigned) {u : List Token}
    (hn : e.nesting + (e.isLoose least).toNat ≤ n)
    (hu : u.map Token.content = bracket (e.isLoose least) e.contents) :
    ∃ f, Derives .sum n u f :=
  exists_derives_bracket (fun hn hu => ⟨e, Expr.derives_sum hw hs hn hu⟩) hn hu

theorem Expr.Sheds.exists_derives (h : e.Sheds least text tokens) (hw : e.Writable)
    (hs : e.Unsigned) {u : List Token} (hn : e.nesting + (e.isLoose least).toNat ≤ n)
    (hu : u.map Token.content = tokens) : ∃ f, Derives .sum n u f := by
  induction h generalizing n u with
  | own => exact ⟨_, Expr.derives_sum hw hs (Nat.le_of_add_right_le hn) hu⟩
  | left _ ih =>
      obtain ⟨hop, hwl, hwr⟩ := hw
      refine exists_derives_bracket (fun hn hu => ?_) hn hu
      obtain ⟨hnl, hnr⟩ := Nat.max_le.mp hn
      exact exists_derives_joined hop hu (ih hwl hs.1 hnl) (Expr.exists_derives hwr hs.2 hnr)
  | right _ ih =>
      obtain ⟨hop, hwl, hwr⟩ := hw
      refine exists_derives_bracket (fun hn hu => ?_) hn hu
      obtain ⟨hnl, hnr⟩ := Nat.max_le.mp hn
      exact exists_derives_joined hop hu (Expr.exists_derives hwl hs.1 hnl) (ih hwr hs.2 hnr)

theorem Text.Bare.no_pair {cs : List Char} (h : Bare cs) : cs ≠ x ++ '(' :: y := by
  rintro rfl
  exact h.1 (by simp)

/-- Every pair of parentheses of the text was put there around some part of the expression. -/
theorem Expr.exists_sheds (hw : e.Writable) (hy : Balanced y)
    (h : (e.written least).toList = x ++ '(' :: (y ++ ')' :: z)) :
    ∃ text tokens, e.Sheds least text tokens ∧ text.toList = x ++ (y ++ z) := by
  induction e generalizing least x z with
  | lit value => exact absurd h (bare_write value.toInt).no_pair
  | var name => exact absurd h (Spelled.bare hw).no_pair
  | binary op left right ihl ihr =>
      obtain ⟨hop, hwl, hwr⟩ := hw
      have hleft := Expr.balanced_written (Expr.balanced_format hwl) op.precedence
      have hinner := Expr.balanced_format (e := binary op left right) ⟨hop, hwl, hwr⟩
      -- A pair inside is one of the left or of the right operand.
      have hshed : ∀ {x z : List Char},
          (binary op left right).format.toList = x ++ '(' :: (y ++ ')' :: z) →
          ∃ text tokens, (binary op left right).Sheds least
            (enclose ((binary op left right).isLoose least) text) tokens ∧
            text.toList = x ++ (y ++ z) := by
        intro x z h
        rw [Expr.toList_format_binary hop] at h
        rcases hleft.pair_append hy h with ⟨z', hpair, rfl⟩ | ⟨x', hrest, rfl⟩
        · obtain ⟨text, tokens, hsheds, htext⟩ := ihl hwl hpair
          refine ⟨_, _, .left hsheds, ?_⟩
          rw [Operator.toList_joined hop, htext]
          simp
        · rcases op.bare_joint.balanced.pair_append hy hrest with
            ⟨z', hjoint, -⟩ | ⟨x'', hpair, rfl⟩
          · exact absurd hjoint op.bare_joint.no_pair
          · obtain ⟨text, tokens, hsheds, htext⟩ := ihr hwr hpair
            refine ⟨_, _, .right hsheds, ?_⟩
            rw [Operator.toList_joined hop, htext]
            simp
      cases hloose : (binary op left right).isLoose least with
      | false =>
          rw [Expr.written_of_tight hloose] at h
          rw [hloose] at hshed
          exact hshed h
      | true =>
          rw [Expr.written_of_loose hloose, toList_parenthesize] at h
          rw [hloose] at hshed
          rcases hinner.pair_wrap hy h with ⟨rfl, rfl, rfl⟩ | ⟨x', z', hpair, rfl, rfl⟩
          · exact ⟨_, _, .own hloose, by simp⟩
          · obtain ⟨text, tokens, hsheds, htext⟩ := hshed hpair
            refine ⟨_, _, hsheds, ?_⟩
            change (parenthesize text).toList = _
            rw [toList_parenthesize, htext]
            simp
  | missing => exact hw.elim

end Shedding

/-- An expression is read from its text, and each pair of parentheses in the text is needed for it.
Without that one pair the text is read as another expression. -/
theorem Expr.format_parens_needed {e : Expr} (hw : e.Writable) (hs : e.Unsigned)
    (hn : ParensWithin (nestingLimit - 1) e.format.toList) (row : Int) :
    ReadsAs row e.format e ∧
      ∀ x y z : List Char, e.format.toList = x ++ '(' :: (y ++ ')' :: z) → Balanced y →
        ∃ e', ReadsAs row (String.ofList (x ++ (y ++ z))) e' ∧ e' ≠ e := by
  have hnesting := (Expr.parensWithin_format hw _).mp hn
  constructor
  · obtain ⟨u, hu, hcontent⟩ := exists_tokenize_of_scans (e.scans_format hw) row
    exact readsAs_of_derives hu (Expr.derives_sum hw hs hnesting hcontent)
  · intro x y z htext hy
    have htight : e.isLoose 1 = false := hw.isLoose_one
    rw [← Expr.written_of_tight htight] at htext
    obtain ⟨text, tokens, hsheds, hlist⟩ := Expr.exists_sheds hw hy htext
    rw [← hlist, String.ofList_toList]
    obtain ⟨u, hu, hcontent⟩ := exists_tokenize_of_scans (hsheds.scans hw) row
    have hbound : e.nesting + (e.isLoose 1).toNat ≤ nestingLimit - 1 := by
      rw [htight]
      exact hnesting
    obtain ⟨f, hf⟩ := hsheds.exists_derives hw hs hbound hcontent
    refine ⟨f, readsAs_of_derives hu hf, ?_⟩
    -- The text has one pair too few to stand for the expression itself.
    rintro rfl
    have hwarranted := hf.warranted
    have hsurplus := hsheds.surplus_succ
    rw [hcontent] at hwarranted
    change _ + ((f.isLoose 1).toNat : Int) ≤ _ at hwarranted
    omega

def bracketed : Expr :=
  .binary .mul (.var "a") (.binary .sub (.var "b") (.binary .add (.var "c") (.lit 7)))

theorem Expr.format_parens_needed_twice :
    bracketed.Writable ∧ bracketed.Unsigned ∧ bracketed.format = "a * (b - (c + 7))" ∧
      (∃ e, ReadsAs 1 "a * b - (c + 7)" e ∧ e ≠ bracketed) ∧
      ∃ e, ReadsAs 1 "a * (b - c + 7)" e ∧ e ≠ bracketed := by
  have hw : bracketed.Writable := by decide +kernel
  have hs : bracketed.Unsigned := by decide +kernel
  have hn := (Expr.parensWithin_format hw (nestingLimit - 1)).mpr (by decide)
  have hneeded := (Expr.format_parens_needed hw hs hn 1).2
  have hinner : Bare "c + 7".toList := by simp [Bare]
  have houter : Balanced "b - (c + 7)".toList := by
    have hfront : Bare "b - ".toList := by simp [Bare]
    simpa using hfront.balanced.append hinner.balanced.wrap
  refine ⟨hw, hs, by decide +kernel, ?_, ?_⟩
  · exact hneeded "a * ".toList "b - (c + 7)".toList [] (by decide +kernel) houter
  · exact hneeded "a * (b - ".toList "c + 7".toList [')'] (by decide +kernel) hinner.balanced

end NumberedBasic
