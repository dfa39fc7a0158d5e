import Mathlib.Data.List.Basic
import NumberedBasic.Proofs.Machine.Traffic
import NumberedBasic.Proofs.Text.Words

/-! A session from its beginning: words come in and are taken across runs, and apart from them and
the settings no run knows of an earlier one. -/
namespace NumberedBasic.Session

/-- What is done with a session. -/
inductive Action where
  | enqueue (texts : List (List Text.Glyph))
  | provide (provider : Option Provider)
  | limit (n : Int)
  | stream (on : Bool)
  /-- A run that comes to its end within so many steps. -/
  | run (fuel : Nat)
  deriving DecidableEq, Repr

def act (s : Session) : Action → Option (Session × List Traffic)
  | .enqueue texts => some (s.enqueueAll texts, texts.map .enqueue)
  | .provide provider => some (s.setProvider provider, [])
  | .limit n => some (s.setLimit n, [])
  | .stream on => some (s.setStreaming on, [])
  | .run fuel => (s.run fuel).map fun (t, _) => (t, s.machine.runLog fuel s.initial)

/-- Does one thing after the other, and logs the traffic of the queue. -/
def perform : Session → List Action → Option (Session × List Traffic)
  | s, [] => some (s, [])
  | s, action :: rest =>
      match s.act action with
      | none => none
      | some (t, log) => (t.perform rest).map fun (u, more) => (u, log ++ more)

/-- Gives a session the words, the provider and the settings of another one. -/
def equipAs (fresh s : Session) : Session :=
  (((fresh.enqueueAll s.input.queue).setProvider s.input.provider).setLimit s.limit).setStreaming
    s.streaming

variable {s t u : Session} {log : List Traffic} {actions : List Action}

theorem enqueueAll_eq (s : Session) (texts : List (List Text.Glyph)) :
    s.enqueueAll texts =
      { s with input := { s.input with queue := s.input.queue ++ texts.flatMap Text.fields } } := by
  induction texts generalizing s with
  | nil =>
      rw [List.flatMap_nil, List.append_nil]
      rfl
  | cons text texts ih =>
      change (s.enqueue text).enqueueAll texts = _
      rw [ih, List.flatMap_cons, ← List.append_assoc]
      rfl

theorem flows_enqueueAll (s : Session) (texts : List (List Text.Glyph)) :
    Traffic.Flows s.input.queue (texts.map .enqueue) (s.enqueueAll texts).input.queue := by
  induction texts generalizing s with
  | nil => exact .done _
  | cons text texts ih => exact .enqueue (ih (s.enqueue text))

theorem run_logged {fuel : Nat} {r : Report} (h : s.run fuel = some (t, r)) :
    Traffic.Flows s.input.queue (s.machine.runLog fuel s.initial) t.input.queue ∧
      r.requests = Traffic.requested (s.machine.runLog fuel s.initial) := by
  obtain ⟨u, error, hrun, rfl, rfl⟩ := run_eq_some h
  have hlogged := s.machine.logged_run fuel s.initial
  rw [hrun] at hlogged
  exact ⟨hlogged.flows, hlogged.requests⟩

/-- Every action keeps the program, and its traffic is logged. -/
theorem act_flows {action : Action} (h : s.act action = some (t, log)) :
    t.program = s.program ∧ Traffic.Flows s.input.queue log t.input.queue := by
  cases action with
  | enqueue texts =>
      cases h
      refine ⟨?_, flows_enqueueAll s texts⟩
      rw [enqueueAll_eq]
  | provide provider =>
      cases h
      exact ⟨rfl, .done _⟩
  | limit n =>
      cases h
      exact ⟨rfl, .done _⟩
  | stream on =>
      cases h
      exact ⟨rfl, .done _⟩
  | run fuel =>
      obtain ⟨⟨t', r⟩, hrun, heq⟩ := Option.map_eq_some_iff.mp h
      cases heq
      refine ⟨?_, (run_logged hrun).1⟩
      obtain ⟨u, error, -, rfl, -⟩ := run_eq_some hrun
      rfl

theorem perform_cons {action : Action} (h : s.perform (action :: actions) = some (u, log)) :
    ∃ t front back, s.act action = some (t, front) ∧ t.perform actions = some (u, back) ∧
      log = front ++ back := by
  rw [perform] at h
  split at h
  · cases h
  · rename_i t front hact
    obtain ⟨⟨u', back⟩, hrest, heq⟩ := Option.map_eq_some_iff.mp h
    cases heq
    exact ⟨t, front, back, hact, hrest, rfl⟩

theorem perform_flows (h : s.perform actions = some (t, log)) :
    t.program = s.program ∧ Traffic.Flows s.input.queue log t.input.queue := by
  induction actions generalizing s log with
  | nil =>
      cases h
      exact ⟨rfl, .done _⟩
  | cons action actions ih =>
      obtain ⟨u, front, back, hact, hrest, rfl⟩ := perform_cons h
      obtain ⟨hprogram, hfront⟩ := act_flows hact
      obtain ⟨hprogram', hback⟩ := ih hrest
      exact ⟨hprogram'.trans hprogram, hfront.append hback⟩

/-- Whatever comes later, the actions before it have been done. -/
theorem perform_append {before after : List Action}
    (h : s.perform (before ++ after) = some (u, log)) :
    ∃ t front back, s.perform before = some (t, front) ∧ t.perform after = some (u, back) ∧
      log = front ++ back := by
  induction before generalizing s log with
  | nil => exact ⟨s, [], log, rfl, h, rfl⟩
  | cons action before ih =>
      obtain ⟨t, front, back, hact, hrest, rfl⟩ := perform_cons h
      obtain ⟨v, middle, last, hbefore, hafter, rfl⟩ := ih hrest
      refine ⟨v, front ++ middle, last, ?_, hafter, (List.append_assoc ..).symm⟩
      rw [perform, hact]
      dsimp only
      rw [hbefore]
      rfl

/-- The words that wait are words that came in. -/
theorem fields_of_mem_queue (h : Traffic.Flows [] log s.input.queue) {word : Word}
    (hword : word ∈ s.input.queue) : Text.fields word = [word] := by
  have hconserves := h.conserves
  have harrived : word ∈ Traffic.arrived log := by
    rw [List.nil_append] at hconserves
    rw [hconserves]
    exact List.mem_append_right _ hword
  obtain ⟨event, -, hevent⟩ := List.mem_flatMap.mp harrived
  cases event with
  | enqueue text => exact Text.words_of_mem_words hevent
  | ask r reply => exact Text.words_of_mem_words hevent
  | take word => cases hevent

/-- A fresh session that is given the words and the settings of another one differs from it only in
what the last run left behind. -/
theorem equipAs_eq {program : Program} (h : ofProgram program = .ok s)
    (hperform : s.perform actions = some (t, log)) : s.equipAs t = .new t.machine t.input := by
  obtain ⟨hprogram, hflows⟩ := perform_flows hperform
  rw [ofProgram_eq_ok h] at hflows hprogram ⊢
  have hqueue : t.input.queue.flatMap Text.fields = t.input.queue := by
    calc t.input.queue.flatMap Text.fields
        = t.input.queue.flatMap fun word => [word] :=
          List.flatMap_congr fun word hword => fields_of_mem_queue hflows hword
      _ = t.input.queue := List.flatMap_singleton' _
  rw [equipAs, enqueueAll_eq, hqueue]
  obtain ⟨⟨_, limit, streaming⟩, left⟩ := t
  cases hprogram
  rfl

/-- What the last run has left but for the input is cleared. -/
theorem run_new (s : Session) (fuel : Nat) : (new s.machine s.input).run fuel = s.run fuel := by
  have hinitial : (new s.machine s.input).initial = s.initial := rfl
  rw [run, run, hinitial]
  rfl

/-- In a session no word is lost, comes twice or is overtaken, the provider is asked only when every
word has been taken, and a run does what it would do as the first one of a session that is given the
same words and the same settings. -/
theorem perform_lossless {program : Program} {fresh : Session}
    (hfresh : ofProgram program = .ok fresh) (h : fresh.perform actions = some (t, log)) :
    Traffic.taken log ++ t.input.queue = Traffic.arrived log ∧
      (∀ front r reply back, log = front ++ .ask r reply :: back →
        Traffic.taken front = Traffic.arrived front) ∧
      ∀ before fuel after, actions = before ++ .run fuel :: after →
        ∃ s earlier u report, fresh.perform before = some (s, earlier) ∧
          s.run fuel = some (u, report) ∧
          (fresh.equipAs s).run fuel = some (u, report) ∧
          report.requests = Traffic.requested (s.machine.runLog fuel s.initial) := by
  obtain ⟨-, hflows⟩ := perform_flows h
  have hempty : fresh.input.queue = [] := by
    rw [ofProgram_eq_ok hfresh]
    rfl
  rw [hempty] at hflows
  refine ⟨hflows.conserves.symm, ?_, ?_⟩
  · rintro front r reply back rfl
    exact hflows.taken_of_ask.symm
  · rintro before fuel after rfl
    obtain ⟨s, earlier, back, hbefore, hafter, -⟩ := perform_append h
    obtain ⟨u, own, rest, hact, -, -⟩ := perform_cons hafter
    obtain ⟨⟨v, report⟩, hrun, heq⟩ := Option.map_eq_some_iff.mp hact
    refine ⟨s, earlier, v, report, hbefore, hrun, ?_, (run_logged hrun).2⟩
    rw [equipAs_eq hfresh hbefore, run_new]
    exact hrun

def pairs : Program := .ofLines [⟨10, .input none ["a", "b"]⟩, ⟨20, .goto 10⟩]

def freshPairs : Session := .new ⟨pairs, 0, false⟩ .empty

/-- The first run ends in the middle of its second INPUT, the other one at a word that is no number,
with a word left behind. -/
def pairActions : List Action :=
  [.enqueue [Text.Glyph.ofString "1 2", Text.Glyph.ofString " 3"], .run 3,
    .provide (some ⟨[⟨[], none⟩, ⟨Text.Glyph.ofString "4 x 5", some .endOfInput⟩],
      .endOfInput, none⟩),
    .stream true, .limit 7, .run 1]

theorem perform_lossless_pairs :
    ofProgram pairs = .ok freshPairs ∧
      ∃ t log, freshPairs.perform pairActions = some (t, log) ∧
        Traffic.taken log = ["1", "2", "3", "4", "x"].map Text.Glyph.ofString ∧
        t.input.queue = [Text.Glyph.ofString "5"] ∧
        Traffic.taken log ++ t.input.queue = Traffic.arrived log := by
  have hfresh : ofProgram pairs = .ok freshPairs := rfl
  have hperform : (freshPairs.perform pairActions).map
      (fun (t, log) => (Traffic.taken log, t.input.queue)) =
      some (["1", "2", "3", "4", "x"].map Text.Glyph.ofString, [Text.Glyph.ofString "5"]) := by
    decide +kernel
  obtain ⟨⟨t, log⟩, hsome, heq⟩ := Option.map_eq_some_iff.mp hperform
  obtain ⟨htaken, hqueue⟩ := Prod.mk.inj heq
  exact ⟨hfresh, t, log, hsome, htaken, hqueue, (perform_lossless hfresh hsome).1⟩

end NumberedBasic.Session
