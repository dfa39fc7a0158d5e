import NumberedBasic.Proofs.Listing.Line
import NumberedBasic.Proofs.Text.Parens

/-! Parentheses in the text of an expression. They are balanced, and they nest as deep as the shape
of the expression says. So the expressions that can be read from their own text are known by that
text alone. -/
namespace NumberedBasic
open Grammar Text Lexeme

theorem bare_of_isIdentifierPart {cs : List Char} (h : ∀ c ∈ cs, isIdentifierPart c = true) :
    Bare cs := by
  constructor
  · intro hmem
    exact absurd (h '(' hmem) (by decide)
  · intro hmem
    exact absurd (h ')' hmem) (by decide)

theorem Spelled.bare {name : String} (h : Spelled .identifier name) : Bare name.toList := by
  cases h with
  | identifier hc hcs =>
      rw [String.toList_ofList]
      apply bare_of_isIdentifierPart
      exact List.forall_mem_cons.mpr ⟨isIdentifierPart_of_isIdentifierStart hc, hcs⟩

theorem bare_repr (n : Nat) : Bare n.repr.toList := by
  apply bare_of_isIdentifierPart
  intro c hc
  exact isIdentifierPart_of_isAsciiDigit ((Decimal.digits_repr n).all c hc)

theorem bare_write (n : Int) : Bare (Decimal.write n).toList := by
  cases n with
  | ofNat n => exact bare_repr n
  | negSucc n =>
      obtain ⟨hopen, hclose⟩ := bare_repr (n + 1)
      rw [Decimal.write, String.toList_append]
      constructor
      · simpa using hopen
      · simpa using hclose

theorem toList_parenthesize (text : String) :
    (parenthesize text).toList = '(' :: (text.toList ++ [')']) := by
  simp [parenthesize]

def enclose (needed : Bool) (text : String) : String := if needed then parenthesize text else text

/-- The text of an expression in a place where operators have to bind so tightly. -/
def Expr.written (e : Expr) (least : Nat) : String := enclose (e.isLoose least) e.format

theorem Expr.written_of_loose {e : Expr} {least : Nat} (h : e.isLoose least = true) :
    e.written least = parenthesize e.format := if_pos h

theorem Expr.written_of_tight {e : Expr} {least : Nat} (h : e.isLoose least = false) :
    e.written least = e.format := by
  rw [Expr.written, h]
  rfl

theorem Expr.format_binary (op : Operator) (left right : Expr) :
    (binary op left right).format = left.written op.precedence ++ " " ++ op.spelling ++ " " ++
      right.written (op.precedence + 1) := by
  rw [Expr.format, isLoose_succ]
  rfl

/-- An operator with the blanks around it. -/
def Operator.joint (op : Operator) : List Char := [' ', op.symbol.char, ' ']

theorem Operator.bare_joint (op : Operator) : Bare op.joint := by
  cases op <;> simp [Bare, Operator.joint, Operator.symbol, Symbol.char]

theorem Operator.toList_joined {op : Operator} (hop : op.precedence ≠ 0) (a b : String) :
    (a ++ " " ++ op.spelling ++ " " ++ b).toList = a.toList ++ (op.joint ++ b.toList) := by
  rw [Operator.spelling_eq (.inl hop)]
  simp [Operator.joint]

theorem Expr.toList_format_binary {op : Operator} (hop : op.precedence ≠ 0) (left right : Expr) :
    (binary op left right).format.toList =
      (left.written op.precedence).toList ++
        (op.joint ++ (right.written (op.precedence + 1)).toList) := by
  rw [Expr.format_binary, Operator.toList_joined hop]

theorem Expr.balanced_written {e : Expr} (h : Balanced e.format.toList) (least : Nat) :
    Balanced (e.written least).toList := by
  cases hloose : e.isLoose least with
  | false =>
      rw [Expr.written_of_tight hloose]
      exact h
  | true =>
      rw [Expr.written_of_loose hloose, toList_parenthesize]
      exact h.wrap

theorem Expr.balanced_format {e : Expr} (hw : e.Writable) : Balanced e.format.toList := by
  induction e with
  | lit value => exact (bare_write value.toInt).balanced
  | var name => exact (Spelled.bare hw).balanced
  | binary op left right ihl ihr =>
      obtain ⟨hop, hwl, hwr⟩ := hw
      have hleft := Expr.balanced_written (ihl hwl) op.precedence
      have hright := Expr.balanced_written (ihr hwr) (op.precedence + 1)
      rw [Expr.toList_format_binary hop]
      exact hleft.append (op.bare_joint.balanced.append hright)
  | missing => exact hw.elim

theorem Expr.parensWithin_written {e : Expr} (hw : e.Writable)
    (h : ∀ n, ParensWithin n e.format.toList ↔ e.nesting ≤ n) (least n : Nat) :
    ParensWithin n (e.written least).toList ↔ e.nesting + (e.isLoose least).toNat ≤ n := by
  cases hloose : e.isLoose least with
  | false =>
      rw [Expr.written_of_tight hloose]
      exact h n
  | true =>
      rw [Expr.written_of_loose hloose, toList_parenthesize,
        parensWithin_wrap (Expr.balanced_format hw).closed]
      constructor
      · rintro ⟨m, rfl, hm⟩
        exact Nat.succ_le_succ ((h m).mp hm)
      · intro hle
        refine ⟨n - 1, ?_, (h (n - 1)).mpr ?_⟩
        · exact (Nat.sub_add_cancel (Nat.le_of_add_left_le hle)).symm
        · exact Nat.le_sub_one_of_lt hle

/-- The text of an expression has so many parentheses inside each other as its shape calls for. -/
theorem Expr.parensWithin_format {e : Expr} (hw : e.Writable) (n : Nat) :
    ParensWithin n e.format.toList ↔ e.nesting ≤ n := by
  induction e generalizing n with
  | lit value => exact ⟨fun _ => Nat.zero_le n, fun _ => (bare_write value.toInt).parensWithin n⟩
  | var name => exact ⟨fun _ => Nat.zero_le n, fun _ => (Spelled.bare hw).parensWithin n⟩
  | binary op left right ihl ihr =>
      obtain ⟨hop, hwl, hwr⟩ := hw
      have hleft := Expr.balanced_written (Expr.balanced_format hwl) op.precedence
      rw [Expr.toList_format_binary hop, parensWithin_append hleft.closed,
        parensWithin_append op.bare_joint.opened_eq, Expr.parensWithin_written hwl (ihl hwl),
        Expr.parensWithin_written hwr (ihr hwr), Expr.nesting, Nat.max_le]
      exact and_congr_right fun _ => and_iff_right (op.bare_joint.parensWithin n)
  | missing => exact hw.elim

theorem Expr.readable_iff {e : Expr} : e.Readable ↔
    e.Writable ∧ e.Unsigned ∧ ParensWithin (nestingLimit - 1) e.format.toList := by
  constructor
  · intro h
    exact ⟨h.writable, h.unsigned, (Expr.parensWithin_format h.writable _).mpr h.nesting_le⟩
  · rintro ⟨hw, hs, hn⟩
    exact ⟨hw, hs, (Expr.parensWithin_format hw _).mp hn⟩

end NumberedBasic
