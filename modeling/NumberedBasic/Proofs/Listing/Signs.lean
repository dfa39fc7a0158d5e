import NumberedBasic.Expr.Eval
import NumberedBasic.Proofs.Listing.Nesting

/-! Negative literals. An expression that has some is not read from its text as it stands, since
numerals have no sign, but what is read has the same value or the same fault. -/
namespace NumberedBasic
open Grammar Text

namespace Text

/-- One where the text begins with the minus sign of a numeral. -/
def signAhead : List Char → Int
  | '-' :: d :: _ => if isAsciiDigit d then 1 else 0
  | _ => 0

/-- No place of the text lies inside more than so many parentheses and minus signs. A minus sign
right before a digit has the numeral inside it. -/
def NestsWithin (n : Nat) (cs : List Char) : Prop :=
  ∀ front back, cs = front ++ back → opened front + signAhead back ≤ n

theorem nestsWithin_iff_take {n : Nat} {cs : List Char} : NestsWithin n cs ↔
    ∀ i ∈ List.range (cs.length + 1), opened (cs.take i) + signAhead (cs.drop i) ≤ n := by
  constructor
  · intro h i _
    exact h _ _ (List.take_append_drop i cs).symm
  · rintro h front back rfl
    have hlength : front.length < (front ++ back).length + 1 := by
      rw [List.length_append]
      omega
    have hplace := h front.length (List.mem_range.mpr hlength)
    rwa [List.take_left, List.drop_left] at hplace

instance (n : Nat) (cs : List Char) : Decidable (NestsWithin n cs) :=
  decidable_of_iff _ nestsWithin_iff_take.symm

variable {a b : List Char} {n : Nat}

theorem signAhead_nonneg (cs : List Char) : 0 ≤ signAhead cs := by
  unfold signAhead
  split
  · split <;> decide
  · decide

theorem signAhead_append_le (a b : List Char) : signAhead a ≤ signAhead (a ++ b) := by
  unfold signAhead
  split
  · exact Int.le_refl _
  · exact signAhead_nonneg (a ++ b)

theorem NestsWithin.left (h : NestsWithin n (a ++ b)) : NestsWithin n a := by
  rintro front back rfl
  have hplace := h front (back ++ b) (List.append_assoc _ _ _)
  have hsign := signAhead_append_le back b
  omega

theorem NestsWithin.right (ha : opened a = 0) (h : NestsWithin n (a ++ b)) : NestsWithin n b := by
  rintro front back rfl
  have hplace := h (a ++ front) back (List.append_assoc _ _ _).symm
  rwa [opened_append, ha, Int.zero_add] at hplace

theorem NestsWithin.inside (h : NestsWithin n ('(' :: a)) : ∃ m, n = m + 1 ∧ NestsWithin m a := by
  have hplace : ∀ front back, a = front ++ back → opened front + signAhead back + 1 ≤ n := by
    rintro front back rfl
    have hplace := h ('(' :: front) back rfl
    rw [opened_cons_open] at hplace
    omega
  have hstart := hplace [] a rfl
  have hsign := signAhead_nonneg a
  rw [opened_nil] at hstart
  refine ⟨n - 1, by omega, ?_⟩
  intro front back heq
  have hfront := hplace front back heq
  omega

end Text

theorem signAhead_write {value : Int} (h : value < 0) :
    signAhead (Decimal.write value).toList = 1 := by
  obtain ⟨k, rfl⟩ := Int.eq_negSucc_of_lt_zero h
  have hdigits := Decimal.digits_repr (k + 1)
  rw [Decimal.write, String.toList_append]
  cases hlist : (k + 1).repr.toList with
  | nil => exact absurd hlist hdigits.ne_nil
  | cons d rest =>
      have hd : isAsciiDigit d = true := hdigits.all d (by rw [hlist]; exact List.mem_cons_self)
      exact if_pos hd

theorem Expr.depth_written_le {e : Expr} (h : ∀ {n}, NestsWithin n e.format.toList → e.depth ≤ n)
    {least n : Nat} (hn : NestsWithin n (e.written least).toList) :
    e.depth + (e.isLoose least).toNat ≤ n := by
  cases hloose : e.isLoose least with
  | false =>
      rw [Expr.written_of_tight hloose] at hn
      exact h hn
  | true =>
      rw [Expr.written_of_loose hloose, toList_parenthesize] at hn
      obtain ⟨m, rfl, hm⟩ := hn.inside
      exact Nat.succ_le_succ (h hm.left)

/-- The depth of an expression can be seen in its text. -/
theorem Expr.depth_le_of_nestsWithin {e : Expr} (hw : e.Writable) {n : Nat}
    (hn : NestsWithin n e.format.toList) : e.depth ≤ n := by
  induction e generalizing n with
  | lit value =>
      by_cases hneg : value.toInt < 0
      · have hsign := hn [] _ (List.nil_append _).symm
        rw [Expr.format, signAhead_write hneg, opened_nil] at hsign
        rw [Expr.depth, if_pos hneg]
        omega
      · rw [Expr.depth, if_neg hneg]
        exact Nat.zero_le n
  | var name => exact Nat.zero_le n
  | binary op left right ihl ihr =>
      obtain ⟨hop, hwl, hwr⟩ := hw
      have hleft := Expr.balanced_written (Expr.balanced_format hwl) op.precedence
      rw [Expr.toList_format_binary hop] at hn
      apply Nat.max_le.mpr
      constructor
      · exact Expr.depth_written_le (ihl hwl) hn.left
      · exact Expr.depth_written_le (ihr hwr)
          ((hn.right hleft.closed).right op.bare_joint.opened_eq)
  | missing => exact hw.elim

/-- What an expression is read as has its value, or its fault. -/
theorem Expr.eval_asRead (e : Expr) (vars : Store) : e.asRead.eval vars = e.eval vars := by
  induction e with
  | lit value =>
      rw [Expr.asRead]
      split
      · change Except.ok (0 - -value) = Except.ok value
        rw [Int64.sub_neg, Int64.zero_add]
      · rfl
  | var name => rfl
  | binary op left right ihl ihr => rw [Expr.asRead, Expr.eval, Expr.eval, ihl, ihr]
  | missing => rfl

/-- The text of an expression, assigned to a variable on a numbered line, is read as an expression
that has the same value or the same fault in every store. The literals may be negative, as long as
they have opposites. -/
theorem Expr.parseLine_let_format {e : Expr} (hw : e.Writable) (hl : e.Negatable)
    (hn : NestsWithin (nestingLimit - 1) e.format.toList) {number : Int}
    (hnumber : IsNumeral number) {name : String} (hname : Spelled .identifier name) (row : Int) :
    ∃ e' : Expr,
      parseLine (tokenize (Decimal.write number ++ " let " ++ name ++ " = " ++ e.format) row) =
        .ok ⟨number, .let_ name e'⟩ ∧
      ∀ vars : Store, e'.eval vars = e.eval vars := by
  refine ⟨e.asRead, ?_, e.eval_asRead⟩
  have hdepth := Expr.depth_le_of_nestsWithin hw hn
  have hscan := (scans_write number).blank ((scans_keyword .let_).blank
    ((scans_identifier hname).blank ((scans_symbol .eq).blank (e.scans_format hw))))
  apply parseLine_of_scans _ hnumber _ row
  · exact Keyword.let_.content :: (.identifier, name) :: Symbol.eq.content :: e.contents
  · simpa [Scans, Keyword.spelling, Symbol.char] using hscan
  · intro u hu
    obtain ⟨k, v, rfl, hk, -, hv⟩ := exists_cons hu
    obtain ⟨x, w, rfl, hx, rfl, hw'⟩ := exists_cons hv
    obtain ⟨s, y, rfl, hs, -, hy⟩ := exists_cons hw'
    exact .let_ hk hx hs (Expr.derives_sum_asRead hw hl hdepth hy)

def signedProduct : Expr := .binary .mul (.binary .sub (.var "x") (.lit (-3))) (.lit (-4))

theorem Expr.parseLine_let_format_signed :
    signedProduct.format = "(x - -3) * -4" ∧
      ∃ e' : Expr,
        parseLine (tokenize "10 let v = (x - -3) * -4" 1) = .ok ⟨10, .let_ "v" e'⟩ ∧
        e' ≠ signedProduct ∧ ∀ vars : Store, e'.eval vars = signedProduct.eval vars := by
  have hnumber : IsNumeral 10 := ⟨by decide, by decide⟩
  have hname : Spelled .identifier "v" := by decide
  obtain ⟨e', hread, heval⟩ := Expr.parseLine_let_format (e := signedProduct) (by decide)
    (by decide) (by decide +kernel) hnumber hname 1
  have htext : Decimal.write 10 ++ " let " ++ "v" ++ " = " ++ signedProduct.format =
      "10 let v = (x - -3) * -4" := by decide
  rw [htext] at hread
  refine ⟨by decide, e', hread, ?_, heval⟩
  rintro rfl
  exact absurd hread (by decide +kernel)

end NumberedBasic
