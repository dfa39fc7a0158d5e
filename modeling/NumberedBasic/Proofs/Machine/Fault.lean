import NumberedBasic.Proofs.Decimal
import NumberedBasic.Proofs.Machine.Ports

/-! What is wrong with a value, a text or a word of input has nothing to do with lines. Only moving
about in the program raises faults that name one. -/
namespace NumberedBasic

/-- Whether the fault speaks of no line and of no limit. -/
def Fault.isPlain : Fault → Bool
  | .noSuchLine _ | .stepLimit _ | .noLineAfter _ => false
  | _ => true

theorem Operator.isPlain_of_apply {op : Operator} {a b : Int64} {fault : Fault}
    (h : op.apply a b = .error fault) : fault.isPlain = true := by
  cases op with
  | div =>
      rw [apply] at h
      split at h
      · cases h
        rfl
      · cases h
  | lt | eq | gt | other code =>
      cases h
      rfl
  | add | sub | mul => cases h

theorem Expr.isPlain_of_eval {vars : Store} {e : Expr} {fault : Fault}
    (h : e.eval vars = .error fault) : fault.isPlain = true := by
  induction e with
  | lit value => cases h
  | var name =>
      rw [eval] at h
      split at h
      · cases h
      · cases h
        rfl
  | binary op left right ihl ihr =>
      rw [eval] at h
      cases hleft : left.eval vars with
      | error g =>
          rw [hleft] at h
          cases h
          exact ihl hleft
      | ok a =>
          cases hright : right.eval vars with
          | error g =>
              rw [hleft, hright] at h
              cases h
              exact ihr hright
          | ok b =>
              rw [hleft, hright] at h
              exact op.isPlain_of_apply h
  | missing =>
      cases h
      rfl

theorem fault_of_bind {α β : Type} {x : Except Fault α} {k : α → Except Fault β} {fault : Fault}
    (h : x >>= k = .error fault) : x = .error fault ∨ ∃ a, k a = .error fault := by
  cases x with
  | error g =>
      cases h
      exact .inl rfl
  | ok a => exact .inr ⟨a, h⟩

theorem Condition.isPlain_of_eval {vars : Store} {c : Condition} {fault : Fault}
    (h : c.eval vars = .error fault) : fault.isPlain = true := by
  rw [eval] at h
  split at h
  · rcases fault_of_bind h with hleft | ⟨a, h⟩
    · exact c.left.isPlain_of_eval hleft
    · rcases fault_of_bind h with hright | ⟨b, h⟩
      · exact c.right.isPlain_of_eval hright
      · cases hop : c.op <;> rw [hop] at h <;> cases h <;> rfl
  · cases h
    rfl

namespace Machine

theorem isPlain_of_printText {vars : Store} {items : List PrintItem} {fault : Fault}
    (h : printText vars items = .error fault) : fault.isPlain = true := by
  induction items with
  | nil => cases h
  | cons item rest ih =>
      have hmore {text : String}
          (h : (printText vars rest >>= fun more => .ok (text ++ more)) = .error fault) :
          fault.isPlain = true := by
        rcases fault_of_bind h with hrest | ⟨more, h⟩
        · exact ih hrest
        · cases h
      cases item with
      | string text => exact hmore h
      | comma => exact hmore h
      | semicolon => exact hmore h
      | expr e =>
          rcases fault_of_bind h with htext | ⟨text, h⟩
          · cases hvalue : e.eval vars with
            | error g =>
                rw [hvalue] at htext
                cases htext
                exact e.isPlain_of_eval hvalue
            | ok value =>
                rw [hvalue] at htext
                cases htext
          · exact hmore h
      | other code e =>
          cases h
          rfl

theorem isPlain_of_accept {r : Request} {word : Except ReadError Word} {fault : Fault}
    (h : accept r word = .error fault) : fault.isPlain = true := by
  cases word with
  | error e =>
      cases e <;> cases h <;> rfl
  | ok word =>
      rw [accept] at h
      split at h
      · cases h
      · cases h
        rfl

theorem isPlain_of_readInteger {r : Request} {s : State} {fault : Fault}
    (h : (readInteger r s).2 = .error fault) : fault.isPlain = true := by
  rw [readInteger_eq] at h
  exact isPlain_of_accept h

end Machine

/-- No other fault is reported in the words for a line that is not there. -/
theorem Fault.message_eq_noSuchLine_iff {fault : Fault} {number : Int} :
    fault.message = "line " ++ Decimal.write number ++ " does not exist" ↔
      fault = .noSuchLine number := by
  constructor
  · intro h
    cases fault with
    | noSuchLine other =>
        have hwrite := (String.append_right_inj _).mp ((String.append_left_inj _).mp h)
        rw [Decimal.write_injective hwrite]
    | _ =>
        -- The texts differ in their first letters.
        delta message at h
        simp [String.ext_iff] at h
  · rintro rfl
    rfl

end NumberedBasic
