import Mathlib.Data.List.Forall2
import NumberedBasic.Proofs.Machine.Follow

/-! A statement under an IF runs in its own place. A line whose statement is put under an IF that
always holds does what it did before, and so does an empty line that is given anything at all under
an IF that never holds. -/
namespace NumberedBasic

/-- Whether no variable occurs in the expression. -/
def Expr.isClosed : Expr → Bool
  | .var _ => false
  | .binary _ left right => left.isClosed && right.isClosed
  | _ => true

def Condition.isClosed (c : Condition) : Bool := c.left.isClosed && c.right.isClosed

theorem Expr.eval_of_isClosed {e : Expr} (h : e.isClosed = true) (vars vars' : Store) :
    e.eval vars = e.eval vars' := by
  induction e with
  | lit value => rfl
  | var name => cases h
  | binary op left right ihl ihr =>
      rw [isClosed, Bool.and_eq_true] at h
      rw [eval, eval, ihl h.1, ihr h.2]
  | missing => rfl

theorem Condition.eval_of_isClosed {c : Condition} (h : c.isClosed = true) (vars vars' : Store) :
    c.eval vars = c.eval vars' := by
  rw [isClosed, Bool.and_eq_true] at h
  rw [eval, eval, c.left.eval_of_isClosed h.1 vars vars', c.right.eval_of_isClosed h.2 vars vars']

/-- What may stand in the place of a statement. The conditions hold no variables, so they come to
the same whenever they are tested. -/
inductive Statement.Guarded : Statement → Statement → Prop
  | plain (stmt : Statement) : Guarded stmt stmt
  | held {c : Condition} (stmt : Statement) : c.isClosed = true → c.eval .empty = .ok true →
      Guarded stmt (.if_ c stmt)
  | barred {c : Condition} (body : Statement) : c.isClosed = true → c.eval .empty = .ok false →
      Guarded .empty (.if_ c body)

structure Line.Guarded (a b : Line) : Prop where
  number : b.number = a.number
  statement : a.statement.Guarded b.statement

/-- The second program has the lines of the first, any of them guarded. -/
def Program.Guarded (p q : Program) : Prop := List.Forall₂ Line.Guarded p.lines q.lines

namespace Program

theorem find?_guarded {as bs : List Line} (h : List.Forall₂ Line.Guarded as bs)
    (test : Int → Bool) :
    Option.Rel Line.Guarded (as.find? fun line => test line.number)
      (bs.find? fun line => test line.number) := by
  induction h with
  | nil => exact .none
  | @cons a b as bs hab _ ih =>
      rw [List.find?_cons, List.find?_cons, hab.number]
      cases test a.number with
      | true => exact .some hab
      | false => exact ih

variable {p q : Program}

theorem Guarded.get?_rel (h : p.Guarded q) (n : Int) :
    Option.Rel Line.Guarded (p.get? n) (q.get? n) := find?_guarded h (· == n)

theorem Guarded.after?_eq (h : p.Guarded q) (n : Int) : q.after? n = p.after? n := by
  have hrel := find?_guarded h (n < ·)
  unfold after?
  generalize p.lines.find? _ = a at hrel
  generalize q.lines.find? _ = b at hrel
  cases hrel with
  | some hab => exact congrArg some hab.number
  | none => rfl

theorem Guarded.first?_eq (h : p.Guarded q) : q.first? = p.first? := by
  unfold Guarded at h
  unfold first?
  generalize p.lines = as at h
  generalize q.lines = bs at h
  cases h with
  | nil => rfl
  | cons hab _ => exact congrArg some hab.number

end Program

namespace Machine

/-- Guarding a statement makes no difference to what it does. -/
theorem exec_guarded {stmt stmt' : Statement} (h : stmt.Guarded stmt') (m : Machine) (s : State) :
    m.exec s stmt' = m.exec s stmt := by
  cases h with
  | plain => rfl
  | held _ hclosed hholds => rw [exec, Condition.eval_of_isClosed hclosed s.vars .empty, hholds]
  | barred body hclosed hfails =>
      rw [exec, Condition.eval_of_isClosed hclosed s.vars .empty, hfails, exec]

theorem parallel_guarded {p q : Program} (h : p.Guarded q) (streaming : Bool) :
    Parallel ⟨p, 0, streaming⟩ ⟨q, 0, streaming⟩ Eq where
  streaming := rfl
  after := by
    intro number
    dsimp only
    rw [h.after?_eq]
    cases p.after? number with
    | some line => exact .some rfl
    | none => exact .none

/-- An END stops the machine where it is fetched, and a guarded one where it is carried out. -/
theorem step_guarded_end {m : Machine} {t : State} {line : Line} {stmt : Statement}
    (hm : m.limit = 0) (hfound : m.program.get? t.cursor = some line)
    (h : stmt.Guarded line.statement) (hend : stmt.isEnd = true) :
    ∃ u, m.step t = .stopped u none ∧ SameEnd t u := by
  cases hend' : line.statement.isEnd with
  | true => exact ⟨t, Fetches.step_eq (.ended hfound hend'), rfl, rfl, rfl, rfl⟩
  | false =>
      have hstep := step_of_found hm hfound hend'
      rw [exec_guarded h] at hstep
      cases stmt with
      | end_ => exact ⟨_, hstep, rfl, rfl, rfl, rfl⟩
      | _ => cases hend

theorem isEnd_of_guarded {stmt stmt' : Statement} (h : stmt.Guarded stmt')
    (hend : stmt.isEnd = false) : stmt'.isEnd = false := by
  cases h with
  | plain => exact hend
  | held => rfl
  | barred => rfl

theorem step_guarded {p q : Program} (h : p.Guarded q) (streaming : Bool) {s t : State}
    (hst : Level p Eq s t) :
    Follows (Level p Eq) (step ⟨p, 0, streaming⟩ s) (step ⟨q, 0, streaming⟩ t) := by
  have hget := h.get?_rel s.cursor
  generalize hfound : p.get? s.cursor = found at hget
  generalize hfound' : q.get? s.cursor = found' at hget
  rw [hst.cursor] at hfound'
  cases hget with
  | none =>
      rw [Fetches.step_eq (.astray hfound), Fetches.step_eq (.astray hfound')]
      exact hst.astray_follows hst.cursor (Program.get?_eq_none_iff.mp hfound)
  | @some a b hab =>
      cases hend : a.statement.isEnd with
      | true =>
          obtain ⟨u, hstep, hsame⟩ := step_guarded_end (m := ⟨q, 0, streaming⟩) rfl hfound'
            hab.statement hend
          rw [Fetches.step_eq (.ended hfound hend), hstep]
          exact .stopped (hst.sameEnd.trans hsame)
      | false =>
          have hend' := isEnd_of_guarded hab.statement hend
          rw [step_of_found rfl hfound hend, step_of_found rfl hfound' hend',
            exec_guarded hab.statement, hab.number]
          exact (parallel_guarded h streaming).exec_follows hst a.number fun _ _ => rfl

end Machine

/-- Guarding any lines of a program, each by a condition of its own, makes no difference to how it
runs. -/
theorem Program.guarded_runsAs {p q : Program} (h : p.Guarded q) : p.RunsAs q := by
  apply runsAs_of_follows (R := Machine.Level p Eq)
  · intro streaming s t hst
    refine ⟨0, ?_⟩
    rw [Machine.run_one]
    exact Machine.step_guarded h streaming hst
  · intro input
    rw [h.first?_eq]
    exact ⟨rfl, rfl, .inl rfl⟩

def rounds : Program :=
  .ofLines [⟨10, .for_ "i" (.lit 1) (.lit 2)⟩, ⟨20, .gosub 70⟩, ⟨30, .next "i"⟩, ⟨40, .goto 50⟩,
    ⟨50, .empty⟩, ⟨60, .end_⟩, ⟨70, .print [.expr (.var "i")]⟩,
    ⟨80, .if_ ⟨.lt, .var "i", .lit 9⟩ .return_⟩]

def always : Condition := ⟨.lt, .lit 1, .lit 2⟩

def never : Condition := ⟨.gt, .lit 1, .lit 2⟩

/-- The empty line now holds a jump that leads nowhere. -/
def guardedRounds : Program :=
  .ofLines [⟨10, .if_ always (.for_ "i" (.lit 1) (.lit 2))⟩, ⟨20, .if_ always (.gosub 70)⟩,
    ⟨30, .if_ always (.next "i")⟩, ⟨40, .if_ always (.goto 50)⟩, ⟨50, .if_ never (.goto 99)⟩,
    ⟨60, .if_ always .end_⟩, ⟨70, .print [.expr (.var "i")]⟩,
    ⟨80, .if_ always (.if_ ⟨.lt, .var "i", .lit 9⟩ .return_)⟩]

theorem guarded_runsAs_rounds :
    rounds.Guarded guardedRounds ∧
      (Session.run (.new ⟨guardedRounds, 0, false⟩ .empty) 13).map (·.2) =
        some ⟨[⟨"1", true⟩, ⟨"2", true⟩], [], none⟩ ∧
      ∃ t, Session.Ends (.new ⟨rounds, 0, false⟩ .empty) t
        ⟨[⟨"1", true⟩, ⟨"2", true⟩], [], none⟩ := by
  have halways : ∀ n stmt, Line.Guarded ⟨n, stmt⟩ ⟨n, .if_ always stmt⟩ :=
    fun _ stmt => ⟨rfl, .held stmt rfl (by decide)⟩
  have hguarded : rounds.Guarded guardedRounds :=
    .cons (halways _ _) <| .cons (halways _ _) <| .cons (halways _ _) <| .cons (halways _ _) <|
      .cons ⟨rfl, .barred _ rfl (by decide)⟩ <| .cons (halways _ _) <| .cons ⟨rfl, .plain _⟩ <|
        .cons (halways _ _) .nil
  have hrun : (Session.run (.new ⟨guardedRounds, 0, false⟩ .empty) 13).map (·.2) =
      some ⟨[⟨"1", true⟩, ⟨"2", true⟩], [], none⟩ := by decide +kernel
  refine ⟨hguarded, hrun, ?_⟩
  obtain ⟨⟨u, r⟩, hsome, rfl⟩ := Option.map_eq_some_iff.mp hrun
  obtain ⟨t, hends, -⟩ := (Program.guarded_runsAs hguarded).ends ⟨13, hsome⟩
  exact ⟨t, hends⟩

end NumberedBasic
