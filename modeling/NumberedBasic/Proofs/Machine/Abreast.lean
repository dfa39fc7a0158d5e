import NumberedBasic.Proofs.Machine.Step

/-! Two runs of one program that differ in what goes in and out. Whatever emitting a record and
reading an integer keep up between the runs holds throughout. -/
namespace NumberedBasic

namespace Machine

/-- The states are the same but for their ports, which stand in the relation. -/
structure Alike (R : Ports → Ports → Prop) (s t : State) : Prop where
  ports : R s.ports t.ports
  rest : t = s.withPorts t.ports

/-- The same result, with states that are alike. -/
structure Match {α : Type} (R : Ports → Ports → Prop) (a b : State × α) : Prop where
  state : Alike R a.1 b.1
  result : a.2 = b.2

/-- The machines run the same program under the same limit, and what they emit and read keeps up the
relation between the ports. -/
structure InStep (m m' : Machine) (R : Ports → Ports → Prop) : Prop where
  program : m.program = m'.program
  limit : m.limit = m'.limit
  emit : ∀ {s t : State}, R s.ports t.ports → ∀ out,
    R (m.emit s out).ports (m'.emit t out).ports
  read : ∀ {s t : State}, R s.ports t.ports → ∀ r,
    R (readInteger r s).1.ports (readInteger r t).1.ports ∧
      (readInteger r s).2 = (readInteger r t).2

variable {R : Ports → Ports → Prop} {m m' : Machine} {s t : State}

theorem Alike.exists_ports (h : Alike R s t) : ∃ p, t = s.withPorts p ∧ R s.ports p :=
  ⟨t.ports, h.rest, h.ports⟩

theorem Alike.of_ports (h : Alike R s t) {s' t' : State} (hs : s' = s.withPorts s'.ports)
    (ht : t' = t.withPorts t'.ports) (hports : R s'.ports t'.ports) : Alike R s' t' := by
  refine ⟨hports, ?_⟩
  generalize s'.ports = p at hs
  subst hs
  rw [h.rest] at ht
  exact ht

theorem InStep.emit_alike (hm : InStep m m' R) (h : Alike R s t) (out : Output) :
    Alike R (m.emit s out) (m'.emit t out) :=
  h.of_ports (m.emit_eq_withPorts s out) (m'.emit_eq_withPorts t out) (hm.emit h.ports out)

theorem InStep.read_match (hm : InStep m m' R) (h : Alike R s t) (r : Request) :
    Match R (readInteger r s) (readInteger r t) := by
  obtain ⟨hports, hresult⟩ := hm.read h.ports r
  refine ⟨h.of_ports ?_ ?_ hports, hresult⟩
  · rw [readInteger_eq]
    rfl
  · rw [readInteger_eq]
    rfl

theorem InStep.change_alike (hm : InStep m m' R) (h : Alike R s t) (c : Change) :
    Alike R (m.change s c) (m'.change t c) := by
  obtain ⟨p, rfl, hp⟩ := h.exists_ports
  cases c with
  | emit out => exact hm.emit_alike h out
  | assign name value => exact ⟨hp, rfl⟩
  | openLoop name first last => exact ⟨hp, rfl⟩
  | closeLoop => exact ⟨hp, rfl⟩
  | call => exact ⟨hp, rfl⟩
  | leave => exact ⟨hp, rfl⟩

theorem InStep.changes_alike (hm : InStep m m' R) (h : Alike R s t) (changes : List Change) :
    Alike R (changes.foldl m.change s) (changes.foldl m'.change t) :=
  List.foldl_rel h fun c _ _ _ hst => hm.change_alike hst c

theorem InStep.readAll_match (hm : InStep m m' R) (prompt : String) (names : List String)
    (h : Alike R s t) : Match R (readAll prompt names s) (readAll prompt names t) := by
  induction names generalizing s t with
  | nil => exact ⟨h, rfl⟩
  | cons name names ih =>
      have hcurrent : s.current = t.current := by rw [h.rest]; rfl
      have hread := hm.read_match h ⟨t.current, name, prompt⟩
      rw [readAll, readAll, hcurrent]
      generalize readInteger ⟨t.current, name, prompt⟩ s = a at hread
      generalize readInteger ⟨t.current, name, prompt⟩ t = b at hread
      obtain ⟨s', a⟩ := a
      obtain ⟨t', b⟩ := b
      cases hread.result
      cases a with
      | ok value => exact ih (hm.change_alike hread.state (.assign name value))
      | error f => exact ⟨hread.state, rfl⟩

theorem InStep.jumpAfter_match (hm : InStep m m' R) (h : Alike R s t) (number : Int) :
    Match R (m.jumpAfter s number) (m'.jumpAfter t number) := by
  unfold jumpAfter
  rw [hm.program]
  cases m'.program.after? number with
  | some line => exact ⟨h, rfl⟩
  | none => exact ⟨h, rfl⟩

theorem InStep.turn_match (hm : InStep m m' R) (h : Alike R s t) (turn : Turn) :
    Match R (m.turn s turn) (m'.turn t turn) := by
  cases turn with
  | give result => exact ⟨h, rfl⟩
  | after number => exact hm.jumpAfter_match h number
  | read prompt names => exact hm.readAll_match prompt names h

/-- Whatever a statement does, it does in both runs. -/
theorem InStep.exec_match (hm : InStep m m' R) (h : Alike R s t) (stmt : Statement) :
    Match R (m.exec s stmt) (m'.exec t stmt) := by
  obtain ⟨p, rfl, hp⟩ := h.exists_ports
  rw [exec_eq_perform, exec_eq_perform]
  exact hm.turn_match (hm.changes_alike h _) _

/-- Both runs go on, or both have stopped for the same reason. -/
inductive Abreast (R : Ports → Ports → Prop) : Progress → Progress → Prop
  | running {s t : State} : Alike R s t → Abreast R (.running s) (.running t)
  | stopped {s t : State} {error : Option LineFault} :
      Alike R s t → Abreast R (.stopped s error) (.stopped t error)

theorem Alike.fail_abreast (h : Alike R s t) (fault : Fault) :
    Abreast R (fail s fault) (fail t fault) := by
  obtain ⟨p, rfl, hp⟩ := h.exists_ports
  exact .stopped h

theorem InStep.proceed_abreast (hm : InStep m m' R) {a b : Outcome} (h : Match R a b) :
    Abreast R (m.proceed a) (m'.proceed b) := by
  obtain ⟨s, a⟩ := a
  obtain ⟨t, b⟩ := b
  obtain ⟨hst, hresult⟩ := h
  cases hresult
  obtain ⟨p, rfl, hp⟩ := hst.exists_ports
  cases a with
  | error f => exact hst.fail_abreast f
  | ok flow =>
      cases flow with
      | halt => exact .stopped hst
      | jump line => exact .running ⟨hp, rfl⟩
      | next =>
          simp only [proceed, hm.program, State.withPorts_current]
          cases m'.program.after? s.current with
          | some line => exact .running ⟨hp, rfl⟩
          | none => exact hst.fail_abreast _

theorem InStep.step_abreast (hm : InStep m m' R) (h : Alike R s t) :
    Abreast R (m.step s) (m'.step t) := by
  obtain ⟨p, rfl, hp⟩ := h.exists_ports
  simp only [step, hm.program, hm.limit, State.withPorts_cursor, State.withPorts_steps]
  cases m'.program.get? s.cursor with
  | none => exact h.fail_abreast _
  | some line =>
      dsimp only
      by_cases hend : line.statement.isEnd = true
      · rw [if_pos hend, if_pos hend]
        exact .stopped h
      · rw [if_neg hend, if_neg hend]
        by_cases hlimit : m'.limit ≠ 0 ∧ m'.limit ≤ s.steps
        · rw [if_pos hlimit, if_pos hlimit]
          exact Alike.fail_abreast ⟨hp, rfl⟩ _
        · rw [if_neg hlimit, if_neg hlimit]
          exact hm.proceed_abreast (hm.exec_match ⟨hp, rfl⟩ line.statement)

theorem InStep.run_abreast (hm : InStep m m' R) (h : Alike R s t) (fuel : Nat) :
    Abreast R (m.run fuel s) (m'.run fuel t) := by
  induction fuel generalizing s t with
  | zero => exact .running h
  | succ fuel ih =>
      have hstep := hm.step_abreast h
      rw [run, run]
      generalize m.step s = a at hstep
      generalize m'.step t = b at hstep
      cases hstep with
      | running h => exact ih h
      | stopped h => exact .stopped h

end Machine

namespace Session

def portsAfter (s : Session) (r : Report) : Ports :=
  ⟨s.input, r.outputs.reverse, r.signals.reverse⟩

/-- The same variables and the same error, with ports that stand in the relation. -/
structure Agree (R : Ports → Ports → Prop) (s t : Session) (r q : Report) : Prop where
  vars : s.vars = t.vars
  error : r.error = q.error
  ports : R (s.portsAfter r) (t.portsAfter q)

theorem run_agree {a b : Session} {R : Ports → Ports → Prop}
    (hm : Machine.InStep a.machine b.machine R) (h : Machine.Alike R a.initial b.initial)
    (fuel : Nat) :
    (a.run fuel = none ∧ b.run fuel = none) ∨
      ∃ s r t q, a.run fuel = some (s, r) ∧ b.run fuel = some (t, q) ∧ Agree R s t r q := by
  have habreast := hm.run_abreast h fuel
  unfold run
  generalize a.machine.run fuel a.initial = x at habreast
  generalize b.machine.run fuel b.initial = y at habreast
  cases habreast with
  | running _ => exact .inl ⟨rfl, rfl⟩
  | @stopped s t error halike =>
      have hvars : s.vars = t.vars := by rw [halike.rest]; rfl
      refine .inr ⟨_, _, _, _, rfl, rfl, hvars, rfl, ?_⟩
      simpa [portsAfter, State.ports] using halike.ports

/-- Of two sessions that run in step, both go on for ever or both come to an end. -/
theorem ends_agree {a b : Session} {R : Ports → Ports → Prop}
    (hm : Machine.InStep a.machine b.machine R) (h : Machine.Alike R a.initial b.initial) :
    ((∀ s r, ¬ a.Ends s r) ∧ ∀ t q, ¬ b.Ends t q) ∨
      ∃ s r t q, a.Ends s r ∧ b.Ends t q ∧ Agree R s t r q := by
  by_cases hends : ∃ fuel s r t q,
      a.run fuel = some (s, r) ∧ b.run fuel = some (t, q) ∧ Agree R s t r q
  · obtain ⟨fuel, s, r, t, q, ha, hb, hagree⟩ := hends
    exact .inr ⟨s, r, t, q, ⟨fuel, ha⟩, ⟨fuel, hb⟩, hagree⟩
  · have hnone : ∀ fuel, a.run fuel = none ∧ b.run fuel = none := fun fuel =>
      (run_agree hm h fuel).resolve_right fun hsome => hends ⟨fuel, hsome⟩
    refine .inl ⟨?_, ?_⟩
    · rintro s r ⟨fuel, hrun⟩
      rw [(hnone fuel).1] at hrun
      cases hrun
    · rintro t q ⟨fuel, hrun⟩
      rw [(hnone fuel).2] at hrun
      cases hrun

end Session

end NumberedBasic
