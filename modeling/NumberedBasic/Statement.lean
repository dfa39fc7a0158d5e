import NumberedBasic.Expr

/-! Statements and numbered lines. What stands between quotes is text of a type of its own: a
program that was read holds characters there, and one that was put together by hand may hold any
bytes. -/
namespace NumberedBasic

inductive PrintItem (τ : Type := String) where
  | string (text : τ)
  | comma
  | semicolon
  | expr (e : Expr)
  /-- An item of a kind that no text gives. -/
  | other (code : Int) (e : Expr)
  deriving DecidableEq, Repr

namespace PrintItem

/-- The item of a kind given by its code, with nothing in it but an expression. -/
def ofCode (code : Int) (e : Expr) : PrintItem :=
  match code with
  | 0 => .string ""
  | 1 => .comma
  | 2 => .semicolon
  | 3 => .expr e
  | _ => .other code e

end PrintItem

inductive Statement (τ : Type := String) where
  | let_ (name : String) (value : Expr)
  | print (items : List (PrintItem τ))
  | input (prompt : Option τ) (names : List String)
  | for_ (name : String) (first last : Expr)
  | next (name : String)
  /-- Runs the inner statement in its own place when the condition holds. -/
  | if_ (condition : Condition) (body : Statement τ)
  | goto (target : Int)
  | gosub (target : Int)
  | return_
  | end_
  | empty
  /-- The place of a statement that is not there. -/
  | missing
  deriving DecidableEq, Inhabited, Repr

def Statement.isEnd : Statement → Bool
  | .end_ => true
  | _ => false

structure Line (τ : Type := String) where
  number : Int
  statement : Statement τ
  deriving DecidableEq, Repr

end NumberedBasic
