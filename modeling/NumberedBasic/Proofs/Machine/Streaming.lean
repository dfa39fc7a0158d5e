import NumberedBasic.Proofs.Input.Chunks
import NumberedBasic.Proofs.Machine.Abreast
import NumberedBasic.Proofs.Machine.Traffic

/-! A run that sends its output out at once and a run that collects it take the same steps. What the
one sends is what the other collects. -/
namespace NumberedBasic

/-- The provider answers for itself. The one that has to write the output before it asks would know
the two runs apart, for only output that is sent out is ever waiting to be written. -/
def Input.Unblocked (i : Input) : Prop := ∀ p ∈ i.provider, p.blocked = none

namespace Input

variable {i : Input}

theorem take_of_unblocked (h : i.Unblocked) (unwritten unwritten' : Bool) :
    i.take unwritten = i.take unwritten' := by
  obtain ⟨queue, provider⟩ := i
  cases queue with
  | cons word more => cases provider <;> rfl
  | nil =>
      cases provider with
      | none => rfl
      | some p =>
          have hp := h p rfl
          simp only [take, hp]

theorem Unblocked.take (h : i.Unblocked) (unwritten : Bool) :
    (i.take unwritten).2.1.Unblocked := by
  obtain ⟨queue, provider⟩ := i
  cases queue with
  | cons word more => cases provider <;> exact h
  | nil =>
      cases provider with
      | none => exact h
      | some p =>
          have hp := h p rfl
          simp only [Input.take, hp]
          rintro q ⟨⟩
          rfl

end Input

namespace Machine

/-- The first run has collected what the second one has sent out. Otherwise they have the same to
show: the first has sent out no record, the second has collected none, and the requests and the
input are the same. -/
structure Recorded (p q : Ports) : Prop where
  input : p.input = q.input
  unblocked : p.input.Unblocked
  records : p.outputs = q.sent.filterMap Signal.output?
  requests : requestsOf p.sent = requestsOf q.sent
  unsent : p.sent.filterMap Signal.output? = []
  uncollected : q.outputs = []

theorem inStep_recorded (program : Program) (limit : Nat) :
    InStep ⟨program, limit, false⟩ ⟨program, limit, true⟩ Recorded where
  program := rfl
  limit := rfl
  emit := by
    intro s t h out
    refine ⟨h.input, h.unblocked, congrArg (out :: ·) h.records, ?_, h.unsent, h.uncollected⟩
    have hout : requestsOf (.output out :: t.sent) = requestsOf t.sent := by simp [requestsOf]
    exact h.requests.trans hout.symm
  read := by
    intro s t h r
    -- Only here do the runs look at different things, and an unblocked provider does not care.
    have htake : s.input.take s.hasWritten = t.input.take t.hasWritten := by
      rw [show t.input = s.input from h.input.symm]
      exact Input.take_of_unblocked h.unblocked _ _
    have hs := filterMap_output?_replicate (s.input.take s.hasWritten).2.2 r s.sent
    have ht := filterMap_output?_replicate (t.input.take t.hasWritten).2.2 r t.sent
    rw [readInteger_eq, readInteger_eq]
    refine ⟨⟨?_, h.unblocked.take _, h.records.trans ht.symm, ?_, hs.trans h.unsent,
      h.uncollected⟩, ?_⟩
    · exact congrArg (·.2.1) htake
    · change requestsOf (_ ++ s.sent) = requestsOf (_ ++ t.sent)
      rw [requestsOf_append, requestsOf_append, htake]
      exact congrArg (· ++ _) h.requests
    · exact congrArg (fun taken => accept r taken.1) htake

variable {m m' : Machine} {R : Ports → Ports → Prop} {s t : State}

theorem InStep.due?_eq (hm : InStep m m' R) (h : Alike R s t) : m.due? s = m'.due? t := by
  obtain ⟨p, rfl, -⟩ := h.exists_ports
  simp only [due?, hm.program, hm.limit, State.withPorts_cursor, State.withPorts_steps]

/-- Two runs in step carry out the same lines. -/
theorem InStep.executed_eq (hm : InStep m m' R) (h : Alike R s t) (fuel : Nat) :
    m.executed fuel s = m'.executed fuel t := by
  induction fuel generalizing s t with
  | zero => rfl
  | succ fuel ih =>
      have hstep := hm.step_abreast h
      rw [executed, executed, hm.due?_eq h]
      generalize m.step s = a at hstep
      generalize m'.step t = b at hstep
      cases m'.due? t with
      | none => rfl
      | some line =>
          cases hstep with
          | running h => exact congrArg (line :: ·) (ih h)
          | stopped h => rfl

end Machine

namespace Session

theorem streamed_eq_reverse (outputs : List Output) (sent : List Signal)
    (error : Option LineFault) :
    Report.streamed ⟨outputs, sent.reverse, error⟩ = (sent.filterMap Signal.output?).reverse :=
  List.filterMap_reverse

/-- Whether a run streams its output or collects it, it takes the same steps and comes to the same
end. The records that are streamed are those that would be collected, in order, and none of them is
collected besides. All else that the run leaves is the same. -/
theorem setStreaming_agrees (s : Session) (h : s.input.Unblocked) (fuel : Nat) :
    let collecting := s.setStreaming false
    let streaming := s.setStreaming true
    streaming.machine.executed fuel streaming.initial =
        collecting.machine.executed fuel collecting.initial ∧
      Machine.Abreast Machine.Recorded (collecting.machine.run fuel collecting.initial)
        (streaming.machine.run fuel streaming.initial) ∧
      ((collecting.run fuel = none ∧ streaming.run fuel = none) ∨
        ∃ t r q sent, collecting.run fuel = some (t, r) ∧
          streaming.run fuel = some ({ t.setStreaming true with outputs := [], sent }, q) ∧
          q.streamed = r.outputs ∧ q.outputs = [] ∧ r.streamed = [] ∧
          q.requests = r.requests ∧ q.error = r.error) := by
  intro collecting streaming
  have hports : Machine.Recorded collecting.initial.ports streaming.initial.ports :=
    ⟨rfl, h, rfl, rfl, rfl, rfl⟩
  have halike : Machine.Alike Machine.Recorded collecting.initial streaming.initial :=
    ⟨hports, rfl⟩
  have hstep : Machine.InStep collecting.machine streaming.machine Machine.Recorded :=
    Machine.inStep_recorded s.program s.limit
  have habreast := hstep.run_abreast halike fuel
  refine ⟨(hstep.executed_eq halike fuel).symm, habreast, ?_⟩
  unfold run
  generalize collecting.machine.run fuel collecting.initial = x at habreast
  generalize streaming.machine.run fuel streaming.initial = y at habreast
  cases habreast with
  | running _ => exact .inl ⟨rfl, rfl⟩
  | @stopped u v error hend =>
      have hinput : v.input = u.input := hend.ports.input.symm
      have houtputs : v.outputs = [] := hend.ports.uncollected
      have hleft : v = { u with outputs := [], sent := v.sent } := by
        calc v = { u with input := v.input, outputs := v.outputs, sent := v.sent } := hend.rest
          _ = { u with outputs := [], sent := v.sent } := by rw [hinput, houtputs]
      refine .inr ⟨_, _, ⟨v.outputs.reverse, v.sent.reverse, error⟩, v.sent, rfl, ?_, ?_, ?_, ?_,
        ?_, rfl⟩
      · change some ((⟨streaming.machine, v⟩ : Session), _) =
          some (⟨streaming.machine, { u with outputs := [], sent := v.sent }⟩, _)
        rw [← hleft]
      · rw [streamed_eq_reverse]
        exact congrArg List.reverse hend.ports.records.symm
      · exact congrArg List.reverse hend.ports.uncollected
      · rw [streamed_eq_reverse]
        exact congrArg List.reverse hend.ports.unsent
      · exact hend.ports.requests.symm

/-- The prompt and the sum go out, then the run ends for want of input. -/
def asking : Session :=
  .new ⟨.ofLines [⟨10, .input (some "two") ["a", "b"]⟩,
    ⟨20, .print [.expr (.binary .add (.var "a") (.var "b"))]⟩, ⟨30, .goto 10⟩], 0, false⟩
    ⟨[], some ⟨[⟨Text.Glyph.ofString "1", none⟩, ⟨Text.Glyph.ofString "2", none⟩],
      .endOfInput, none⟩⟩

theorem setStreaming_agrees_asking :
    asking.input.Unblocked ∧
      ((asking.setStreaming true).run 4).map (fun (_, q) => (q.streamed, q.error)) =
        some ([⟨"two", false⟩, ⟨"3", true⟩, ⟨"two", false⟩], some ⟨10, .endOfInput⟩) ∧
      ∃ t r q sent, (asking.setStreaming false).run 4 = some (t, r) ∧
        (asking.setStreaming true).run 4 =
          some ({ t.setStreaming true with outputs := [], sent }, q) ∧
        q.streamed = r.outputs ∧ q.outputs = [] ∧ r.streamed = [] ∧
        q.requests = r.requests ∧ q.error = r.error := by
  have hunblocked : asking.input.Unblocked := by
    rintro p ⟨⟩
    rfl
  have hrun : ((asking.setStreaming true).run 4).map (fun (_, q) => (q.streamed, q.error)) =
      some ([⟨"two", false⟩, ⟨"3", true⟩, ⟨"two", false⟩], some ⟨10, .endOfInput⟩) := by
    decide +kernel
  obtain ⟨⟨t, q⟩, hsome, -⟩ := Option.map_eq_some_iff.mp hrun
  refine ⟨hunblocked, hrun, (setStreaming_agrees asking hunblocked 4).2.2.resolve_left ?_⟩
  rintro ⟨-, hnone⟩
  rw [hsome] at hnone
  cases hnone

end Session

end NumberedBasic
