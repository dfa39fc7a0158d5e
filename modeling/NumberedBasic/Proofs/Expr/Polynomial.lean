import Mathlib.Algebra.MvPolynomial.Eval
import NumberedBasic.Expr.Eval

/-! Sums, differences and products. Each of them wraps around, but it does not matter where: an
expression has the value that it has over the integers, wrapped around once. So two expressions that
are the same polynomial have the same value. -/
namespace NumberedBasic

/-- The operators that every commutative ring has. -/
def Operator.isRing : Operator → Bool
  | .add | .sub | .mul => true
  | _ => false

/-- What an operator does in a commutative ring. -/
def Operator.applyIn {R : Type*} [CommRing R] : Operator → R → R → R
  | .add, a, b => a + b
  | .sub, a, b => a - b
  | .mul, a, b => a * b
  | _, _, _ => 0

/-- An operation on words that have been wrapped around comes to the same as one on the integers
that is wrapped around afterwards. -/
theorem Operator.apply_wraps {op : Operator} (h : op.isRing = true) {a b : Int64} {x y : Int}
    (ha : a.toInt = x.bmod (2 ^ 64)) (hb : b.toInt = y.bmod (2 ^ 64)) :
    ∃ value, op.apply a b = .ok value ∧ value.toInt = (op.applyIn x y).bmod (2 ^ 64) := by
  cases op with
  | add =>
      refine ⟨a + b, rfl, ?_⟩
      rw [Int64.toInt_add, ha, hb, Int.bmod_add_bmod, Int.add_bmod_bmod]
      rfl
  | sub =>
      refine ⟨a - b, rfl, ?_⟩
      rw [Int64.toInt_sub, ha, hb, Int.bmod_sub_bmod, Int.sub_bmod_bmod]
      rfl
  | mul =>
      refine ⟨a * b, rfl, ?_⟩
      rw [Int64.toInt_mul, ha, hb, Int.bmod_mul_bmod, Int.mul_bmod_bmod]
      rfl
  | _ => cases h

/-- What a variable stands for. -/
def Store.value (vars : Store) (name : String) : Int := ((vars.get? name).getD 0).toInt

namespace Expr

/-- Built from literals and variables by addition, subtraction and multiplication. -/
def isPolynomial : Expr → Bool
  | .lit _ | .var _ => true
  | .binary op left right => op.isRing && left.isPolynomial && right.isPolynomial
  | .missing => false

/-- The variables of an expression. -/
def names : Expr → List String
  | .var name => [name]
  | .binary _ left right => left.names ++ right.names
  | .lit _ | .missing => []

/-- The value of an expression in a commutative ring, where nothing wraps around unless the ring
says so. -/
def evalIn {R : Type*} [CommRing R] (point : String → R) : Expr → R
  | .lit value => (value.toInt : R)
  | .var name => point name
  | .binary op left right => op.applyIn (left.evalIn point) (right.evalIn point)
  | .missing => 0

/-- The expression as a polynomial in its variables, with integer coefficients. -/
noncomputable def polynomial (e : Expr) : MvPolynomial String ℤ := e.evalIn MvPolynomial.X

variable {vars : Store} {e : Expr}

theorem map_evalIn {R S : Type*} [CommRing R] [CommRing S] (f : R →+* S) (point : String → R)
    (e : Expr) : f (e.evalIn point) = e.evalIn (fun name => f (point name)) := by
  induction e with
  | lit value => exact map_intCast f value.toInt
  | var name => rfl
  | binary op left right ihl ihr =>
      rw [evalIn, evalIn, ← ihl, ← ihr]
      cases op with
      | add => exact map_add f _ _
      | sub => exact map_sub f _ _
      | mul => exact map_mul f _ _
      | _ => exact map_zero f
  | missing => exact map_zero f

/-- The polynomial takes the value of the expression at every point. -/
theorem eval_polynomial (e : Expr) (point : String → ℤ) :
    MvPolynomial.eval point e.polynomial = e.evalIn point := by
  rw [polynomial, map_evalIn]
  congr
  funext name
  exact MvPolynomial.eval_X name

theorem eval_wraps (he : e.isPolynomial = true)
    (hnames : ∀ name ∈ e.names, (vars.get? name).isSome) :
    ∃ value, e.eval vars = .ok value ∧ value.toInt = (e.evalIn vars.value).bmod (2 ^ 64) := by
  induction e with
  | lit value => exact ⟨value, rfl, (Int64.toInt_bmod value).symm⟩
  | var name =>
      have hname := hnames name (List.mem_singleton_self name)
      obtain ⟨value, hvalue⟩ := Option.isSome_iff_exists.mp hname
      refine ⟨value, ?_, ?_⟩
      · rw [eval, hvalue]
      · rw [evalIn, Store.value, hvalue]
        exact (Int64.toInt_bmod value).symm
  | binary op left right ihl ihr =>
      rw [isPolynomial, Bool.and_eq_true, Bool.and_eq_true] at he
      obtain ⟨⟨hop, hleft⟩, hright⟩ := he
      obtain ⟨a, heval, ha⟩ := ihl hleft fun name hname =>
        hnames name (List.mem_append_left _ hname)
      obtain ⟨b, heval', hb⟩ := ihr hright fun name hname =>
        hnames name (List.mem_append_right _ hname)
      rw [eval, heval, heval']
      exact Operator.apply_wraps hop ha hb
  | missing => cases he

/-- An expression of sums, differences and products has, in every store that defines its variables,
the value that it has over the integers, reduced to a signed word of 64 bits. Whatever else is the
same polynomial has the same value. -/
theorem eval_eq_of_polynomial (he : e.isPolynomial = true)
    (hnames : ∀ name ∈ e.names, (vars.get? name).isSome) :
    (∃ value, e.eval vars = .ok value ∧ value.toInt = (e.evalIn vars.value).bmod (2 ^ 64)) ∧
    ∀ other : Expr, other.isPolynomial = true →
      (∀ name ∈ other.names, (vars.get? name).isSome) → other.polynomial = e.polynomial →
      other.eval vars = e.eval vars := by
  refine ⟨eval_wraps he hnames, ?_⟩
  intro other hother hnames' hsame
  obtain ⟨value, heval, hvalue⟩ := eval_wraps he hnames
  obtain ⟨value', heval', hvalue'⟩ := eval_wraps hother hnames'
  have hvalues : other.evalIn vars.value = e.evalIn vars.value := by
    rw [← eval_polynomial, ← eval_polynomial, hsame]
  have hword : value' = value := by
    apply Int64.toInt_inj.mp
    rw [hvalue', hvalue, hvalues]
  rw [heval, heval', hword]

/-- The product of the sum and the difference, and the difference of the squares. -/
def sumTimesDifference : Expr :=
  .binary .mul (.binary .add (.var "x") (.var "y")) (.binary .sub (.var "x") (.var "y"))

def differenceOfSquares : Expr :=
  .binary .sub (.binary .mul (.var "x") (.var "x")) (.binary .mul (.var "y") (.var "y"))

/-- The greatest word and the least one. -/
def extremes : Store := ⟨[("x", Int64.maxValue), ("y", Int64.minValue)]⟩

theorem eval_eq_of_polynomial_extremes :
    sumTimesDifference.evalIn extremes.value = 1 - 2 ^ 64 ∧
      sumTimesDifference.eval extremes = .ok 1 ∧
      differenceOfSquares.evalIn extremes.value = 1 - 2 ^ 64 ∧
      differenceOfSquares.eval extremes = sumTimesDifference.eval extremes := by
  have hnames : ∀ name ∈ sumTimesDifference.names, (extremes.get? name).isSome := by decide
  have hnames' : ∀ name ∈ differenceOfSquares.names, (extremes.get? name).isSome := by decide
  have hsame : differenceOfSquares.polynomial = sumTimesDifference.polynomial := by
    simp only [polynomial, differenceOfSquares, sumTimesDifference, evalIn, Operator.applyIn]
    ring
  obtain ⟨⟨value, heval, hvalue⟩, hother⟩ := eval_eq_of_polynomial (by decide) hnames
  have hvalues : sumTimesDifference.evalIn extremes.value = 1 - 2 ^ 64 := by decide
  refine ⟨hvalues, ?_, by decide, hother _ (by decide) hnames' hsame⟩
  have hone : value = 1 := by
    apply Int64.toInt_inj.mp
    rw [hvalue, hvalues]
    decide
  rw [heval, hone]

end Expr

end NumberedBasic
