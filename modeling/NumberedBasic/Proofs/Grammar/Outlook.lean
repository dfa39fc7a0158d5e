import NumberedBasic.Proofs.Grammar.Line

/-! What may follow the tokens of a line that have been seen so far. Each token either narrows this
outlook or is refused, and as long as none is refused the line can still be completed. -/
namespace NumberedBasic.Grammar

/-- A part of a line that is due. -/
inductive Goal where
  | name | equals | close | to | then_ | relation
  /-- A line number. -/
  | number
  | operand
  /-- Further operands behind multiplication signs, or none. -/
  | factors
  /-- Further products behind addition signs, or none. -/
  | terms
  /-- The prompt of an INPUT, or none. -/
  | prompt
  /-- Further names behind commas, or none. -/
  | names
  deriving DecidableEq, Repr

/-- What may stand before the end of the line, when nothing is due any more. -/
inductive Ending where
  | command | items | nothing
  deriving DecidableEq, Repr

inductive Outlook where
  | pending (goals : List Goal) (ending : Ending)
  /-- The end of the line has been seen. -/
  | closed
  deriving DecidableEq, Repr

/-- An expression is due. -/
def exprGoals : List Goal := [.operand, .factors, .terms]

/-- What an operand that begins with the token still needs. -/
def operandGoals (t : Token) : Option (List Goal) :=
  match t.kind with
  | .identifier => some []
  | .integer => if (Decimal.read? t.text.toList).isSome then some [] else none
  | .symbol .open_ => some (exprGoals ++ [.close])
  | .symbol .minus => some [.operand]
  | _ => none

namespace Goal

/-- The kind of a goal that any token of that kind meets. -/
def kind? : Goal → Option Kind
  | .name => some .identifier
  | .equals => some (.symbol .eq)
  | .close => some (.symbol .close)
  | .to => some (.keyword .to)
  | .then_ => some (.keyword .then_)
  | _ => none

def onlyIf (b : Bool) (goals : List Goal) : Option (List Goal) := if b then some goals else none

/-- What is still due of the goal behind the token, if the goal can begin with it. -/
def accept (t : Token) : Goal → Option (List Goal)
  | .relation => onlyIf (relation? t.kind).isSome []
  | .number => onlyIf (t.kind == .integer && (Decimal.read? t.text.toList).isSome) []
  | .operand => operandGoals t
  | .factors => onlyIf (multiplicative? t.kind).isSome [.operand, .factors]
  | .terms => onlyIf (additive? t.kind).isSome [.operand, .factors, .terms]
  | .prompt => onlyIf (t.kind == .string) []
  | .names => onlyIf (t.kind == .symbol .comma) [.name, .names]
  | g => onlyIf (some t.kind == g.kind?) []

def isOptional : Goal → Bool
  | .factors | .terms | .prompt | .names => true
  | _ => false

end Goal

/-- What is due behind a token that stands before the end of the line. -/
def Ending.accept (t : Token) : Ending → Option Outlook
  | .command =>
      match t.kind with
      | .keyword .let_ => some (.pending (.name :: .equals :: exprGoals) .nothing)
      | .keyword .print => some (.pending [] .items)
      | .keyword .input => some (.pending [.prompt, .name, .names] .nothing)
      | .keyword .for_ =>
          some (.pending (.name :: .equals :: exprGoals ++ .to :: exprGoals) .nothing)
      | .keyword .next => some (.pending [.name] .nothing)
      | .keyword .if_ =>
          some (.pending (exprGoals ++ .relation :: exprGoals ++ [.then_]) .command)
      | .keyword .goto | .keyword .gosub => some (.pending [.number] .nothing)
      | .keyword .return_ | .keyword .end_ => some (.pending [] .nothing)
      | _ => none
  | .items =>
      match t.kind with
      | .string | .symbol .comma | .symbol .semicolon => some (.pending [] .items)
      | _ => (operandGoals t).map fun goals => .pending (goals ++ [.factors, .terms]) .items
  | .nothing => none

namespace Outlook

/-- The first goal takes the token; one that can be left out makes way for the next. -/
def stepPending (t : Token) (ending : Ending) : List Goal → Option Outlook
  | [] => if t.kind = .eol then some .closed else ending.accept t
  | g :: goals =>
      match g.accept t with
      | some more => some (.pending (more ++ goals) ending)
      | none => if g.isOptional then stepPending t ending goals else none

def step : Outlook → Token → Option Outlook
  | .pending goals ending, t => stepPending t ending goals
  | .closed, _ => none

def run (o : Outlook) (tokens : List Token) : Option Outlook := tokens.foldlM step o

/-- At the beginning of a line. -/
def start : Outlook := .pending [.number] .command

variable {a b c o : Outlook} {t : Token} {u v : List Token} {goals : List Goal} {ending : Ending}

theorem run_cons (o : Outlook) (t : Token) (u : List Token) :
    o.run (t :: u) = (o.step t).bind fun o => o.run u := rfl

theorem run_append (o : Outlook) (u v : List Token) :
    o.run (u ++ v) = (o.run u).bind fun o => o.run v := List.foldlM_append

theorem run_append_of_run (h : a.run u = some b) (v : List Token) : a.run (u ++ v) = b.run v := by
  rw [run_append, h]
  rfl

theorem run_of_step_eq (h : a.step t = b.step t) (u : List Token) :
    a.run (t :: u) = b.run (t :: u) := by
  rw [run_cons, run_cons, h]

theorem step_of_accept {g : Goal} {more : List Goal} (h : g.accept t = some more) :
    (pending (g :: goals) ending).step t = some (pending (more ++ goals) ending) := by
  simp only [step, stepPending, h]

theorem step_of_optional {g : Goal} (hg : g.isOptional = true) (h : g.accept t = none) :
    (pending (g :: goals) ending).step t = (pending goals ending).step t := by
  simp only [step, stepPending, h, hg, if_true]

theorem step_of_required {g : Goal} (hg : g.isOptional = false) (h : g.accept t = none) :
    (pending (g :: goals) ending).step t = none := by
  simp [step, stepPending, h, hg]

end Outlook

/-- A token that stands for an error, or a numeral that denotes no signed 64-bit integer. -/
def IsFlawed (t : Token) : Prop :=
  t.kind = .error ∨ t.kind = .integer ∧ Decimal.read? t.text.toList = none

theorem IsFlawed.operandGoals_eq {t : Token} (h : IsFlawed t) : operandGoals t = none := by
  rcases h with hk | ⟨hk, hread⟩
  · simp [operandGoals, hk]
  · simp [operandGoals, hk, hread]

theorem IsFlawed.accept_eq {t : Token} (h : IsFlawed t) (g : Goal) : g.accept t = none := by
  have hoperand := h.operandGoals_eq
  rcases h with hk | ⟨hk, hread⟩
  · cases g with
    | operand => exact hoperand
    | _ => simp [Goal.accept, Goal.onlyIf, Goal.kind?, hk, relation?, multiplicative?, additive?]
  · cases g with
    | operand => exact hoperand
    | number => simp [Goal.accept, Goal.onlyIf, hread]
    | _ => simp [Goal.accept, Goal.onlyIf, Goal.kind?, hk, relation?, multiplicative?, additive?]

/-- No outlook takes a flawed token. -/
theorem IsFlawed.step_eq {t : Token} (h : IsFlawed t) (o : Outlook) : o.step t = none := by
  cases o with
  | closed => rfl
  | pending goals ending =>
      induction goals with
      | nil =>
          have hoperand := h.operandGoals_eq
          have hk : t.kind = .error ∨ t.kind = .integer := h.imp_right And.left
          rcases hk with hk | hk <;> cases ending <;>
            simp [Outlook.step, Outlook.stepPending, Ending.accept, hk, hoperand]
      | cons g goals ih =>
          cases hg : g.isOptional with
          | true =>
              rw [Outlook.step_of_optional hg (h.accept_eq g)]
              exact ih
          | false => exact Outlook.step_of_required hg (h.accept_eq g)

namespace Outlook

variable {o : Outlook} {t : Token} {u : List Token} {goals : List Goal} {ending : Ending}

/-- Only the end of the line closes an outlook. -/
theorem eol_of_step_closed (h : o.step t = some .closed) : t.kind = .eol := by
  cases o with
  | closed => cases h
  | pending goals ending =>
      induction goals with
      | nil =>
          simp only [step, stepPending] at h
          split at h
          · assumption
          · unfold Ending.accept at h
            split at h
            · split at h <;> cases h
            · split at h
              · cases h
              · cases h
              · cases h
              · obtain ⟨goals, -, heq⟩ := Option.map_eq_some_iff.mp h
                cases heq
            · cases h
      | cons g goals ih =>
          cases haccept : g.accept t with
          | some more =>
              rw [step_of_accept haccept] at h
              cases h
          | none =>
              cases hg : g.isOptional with
              | true =>
                  rw [step_of_optional hg haccept] at h
                  exact ih h
              | false =>
                  rw [step_of_required hg haccept] at h
                  cases h

theorem run_pending (hu : ∀ t ∈ u, t.kind ≠ .eol) (h : (pending goals ending).run u = some o) :
    ∃ goals' ending', o = pending goals' ending' := by
  induction u generalizing goals ending with
  | nil =>
      cases h
      exact ⟨goals, ending, rfl⟩
  | cons t u ih =>
      obtain ⟨ht, hu⟩ := List.forall_mem_cons.mp hu
      rw [run_cons] at h
      obtain ⟨o', hstep, hrun⟩ := Option.bind_eq_some_iff.mp h
      cases o' with
      | closed => exact absurd (eol_of_step_closed hstep) ht
      | pending goals' ending' => exact ih hu hrun

end Outlook

/-- Tokens that meet the goal, if it cannot be left out. -/
def Goal.filler : Goal → List Token
  | .name | .operand => [⟨.identifier, "x", 0, 0⟩]
  | .equals | .relation => [⟨.symbol .eq, "=", 0, 0⟩]
  | .close => [⟨.symbol .close, ")", 0, 0⟩]
  | .to => [⟨.keyword .to, "to", 0, 0⟩]
  | .then_ => [⟨.keyword .then_, "then", 0, 0⟩]
  | .number => [⟨.integer, "1", 0, 0⟩]
  | .factors | .terms | .prompt | .names => []

/-- Tokens with which a line can end. -/
def completion (goals : List Goal) : List Token := goals.flatMap Goal.filler ++ [Token.eol 0 0]

/-- No goal that can be left out begins with such a token. -/
def IsPlain (t : Token) : Prop := ∀ g : Goal, g.isOptional = true → g.accept t = none

theorem isPlain_of_kind {t : Token} (hsum : additive? t.kind = none)
    (hproduct : multiplicative? t.kind = none) (hstring : t.kind ≠ .string)
    (hcomma : t.kind ≠ .symbol .comma) : IsPlain t := by
  intro g hg
  cases g with
  | factors => simp [Goal.accept, Goal.onlyIf, hproduct]
  | terms => simp [Goal.accept, Goal.onlyIf, hsum]
  | prompt => simp [Goal.accept, Goal.onlyIf, hstring]
  | names => simp [Goal.accept, Goal.onlyIf, hcomma]
  | _ => cases hg

theorem Goal.filler_of_required {g : Goal} (h : g.isOptional = false) :
    ∃ t, g.filler = [t] ∧ g.accept t = some [] ∧ IsPlain t := by
  cases g with
  | factors => cases h
  | terms => cases h
  | prompt => cases h
  | names => cases h
  | _ => exact ⟨_, rfl, by decide +kernel, isPlain_of_kind rfl rfl (by decide) (by decide)⟩

theorem Goal.filler_of_optional {g : Goal} (h : g.isOptional = true) : g.filler = [] := by
  cases g with
  | factors => rfl
  | terms => rfl
  | prompt => rfl
  | names => rfl
  | _ => cases h

theorem completion_cons (g : Goal) (goals : List Goal) :
    completion (g :: goals) = g.filler ++ completion goals := by
  simp [completion]

theorem exists_completion_head (goals : List Goal) :
    ∃ t rest, completion goals = t :: rest ∧ IsPlain t := by
  induction goals with
  | nil => exact ⟨_, _, rfl, isPlain_of_kind rfl rfl (by decide) (by decide)⟩
  | cons g goals ih =>
      rw [completion_cons]
      cases hg : g.isOptional with
      | true =>
          rw [Goal.filler_of_optional hg]
          exact ih
      | false =>
          obtain ⟨t, hfiller, -, ht⟩ := Goal.filler_of_required hg
          rw [hfiller]
          exact ⟨t, _, rfl, ht⟩

/-- Whatever is due, it can be met. -/
theorem Outlook.run_completion (goals : List Goal) (ending : Ending) :
    (pending goals ending).run (completion goals) = some .closed := by
  induction goals with
  | nil => rfl
  | cons g goals ih =>
      rw [completion_cons]
      cases hg : g.isOptional with
      | true =>
          obtain ⟨t, rest, hcompletion, ht⟩ := exists_completion_head goals
          rw [Goal.filler_of_optional hg, List.nil_append, hcompletion,
            run_of_step_eq (step_of_optional hg (ht g hg)), ← hcompletion]
          exact ih
      | false =>
          obtain ⟨t, hfiller, haccept, -⟩ := Goal.filler_of_required hg
          rw [hfiller, List.singleton_append, run_cons, step_of_accept haccept]
          exact ih

/-- A sign that nests what follows it. -/
def nests (t : Token) : Bool := t.kind == .symbol .open_ || t.kind == .symbol .minus

/-- How many signs nest something. -/
def nestings (tokens : List Token) : Nat := tokens.countP nests

theorem nestings_append (u v : List Token) : nestings (u ++ v) = nestings u + nestings v :=
  List.countP_append

theorem Goal.filler_kind {g : Goal} {t : Token} (h : t ∈ g.filler) :
    t.kind ≠ .eol ∧ nests t = false := by
  cases g with
  | factors => cases h
  | terms => cases h
  | prompt => cases h
  | names => cases h
  | _ =>
      rw [List.mem_singleton.mp h]
      decide

/-- A completion nests nothing, and ends with the only end of a line in it. -/
theorem completion_eq (goals : List Goal) :
    ∃ u e, completion goals = u ++ [e] ∧ e.kind = .eol ∧ (∀ t ∈ u, t.kind ≠ .eol) ∧
      nestings (completion goals) = 0 := by
  have hfiller : ∀ t ∈ goals.flatMap Goal.filler, t.kind ≠ .eol ∧ nests t = false := by
    intro t ht
    obtain ⟨g, -, hg⟩ := List.mem_flatMap.mp ht
    exact Goal.filler_kind hg
  refine ⟨_, _, rfl, rfl, fun t ht => (hfiller t ht).1, ?_⟩
  rw [completion, nestings_append, Nat.add_eq_zero_iff]
  exact ⟨List.countP_eq_zero.mpr fun t ht => by simp [(hfiller t ht).2], rfl⟩

end NumberedBasic.Grammar
