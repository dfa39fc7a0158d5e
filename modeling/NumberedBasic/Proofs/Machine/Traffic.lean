import NumberedBasic.Proofs.Input.Traffic

/-! The traffic of a run: what each INPUT asks for and takes, in order. -/
namespace NumberedBasic.Machine

/-- What an INPUT asks for and takes while it reads its variables. -/
def readLog (prompt : String) : List String → State → List Traffic
  | [], _ => []
  | name :: rest, s =>
      s.input.takeLog ⟨s.current, name, prompt⟩ s.hasWritten ++
        match readInteger ⟨s.current, name, prompt⟩ s with
        | (t, .ok value) => readLog prompt rest (t.assign name value)
        | (_, .error _) => []

/-- Only an INPUT asks for anything, be it under IFs. -/
def execLog (m : Machine) (s : State) (stmt : Statement) : List Traffic :=
  match stmt.unwrap s.vars with
  | .input prompt names => readLog (prompt.getD "") names (m.prompted prompt s)
  | _ => []

def stepLog (m : Machine) (s : State) : List Traffic :=
  match m.due? s with
  | none => []
  | some line =>
      m.execLog { s with current := line.number, steps := s.steps + 1 } line.statement

def runLog (m : Machine) : Nat → State → List Traffic
  | 0, _ => []
  | fuel + 1, s =>
      m.stepLog s ++
        match m.step s with
        | .running t => m.runLog fuel t
        | .stopped _ _ => []

/-- The requests among the signals that went out, in order. -/
def requestsOf (sent : List Signal) : List Request :=
  sent.reverse.filterMap fun
    | .output _ => none
    | .request r => some r

theorem requestsOf_append (sent more : List Signal) :
    requestsOf (more ++ sent) = requestsOf sent ++ requestsOf more := by
  simp [requestsOf]

theorem requestsOf_replicate (n : Nat) (r : Request) :
    requestsOf (List.replicate n (.request r)) = List.replicate n r := by
  simp [requestsOf]

/-- The log tells how one state's queue became the other's, and which requests went out between
them. -/
structure Logged (s : State) (log : List Traffic) (t : State) : Prop where
  flows : Traffic.Flows s.input.queue log t.input.queue
  requests : requestsOf t.sent = requestsOf s.sent ++ Traffic.requested log

variable {m : Machine} {s t u : State} {log more : List Traffic}

theorem Logged.append (h : Logged s log t) (h' : Logged t more u) : Logged s (log ++ more) u := by
  refine ⟨h.flows.append h'.flows, ?_⟩
  rw [h'.requests, h.requests, Traffic.requested_append, List.append_assoc]

/-- Nothing to log where the input is left alone and no request goes out. -/
theorem Logged.silent (hinput : t.input = s.input) (hsent : requestsOf t.sent = requestsOf s.sent) :
    Logged s [] t := by
  refine ⟨?_, ?_⟩
  · rw [hinput]
    exact .done _
  · rw [hsent]
    exact (List.append_nil _).symm

theorem logged_emit (m : Machine) (s : State) (out : Output) : Logged s [] (m.emit s out) := by
  unfold emit
  split
  · refine .silent rfl ?_
    simp [requestsOf]
  · exact .silent rfl rfl

theorem logged_readInteger (r : Request) (s : State) :
    Logged s (s.input.takeLog r s.hasWritten) (readInteger r s).1 := by
  rw [readInteger_eq]
  refine ⟨(Input.take_reads r s.input s.hasWritten).flows, ?_⟩
  rw [Input.requested_takeLog, ← requestsOf_replicate, ← requestsOf_append]
  rfl

theorem logged_readAll (prompt : String) (names : List String) (s : State) :
    Logged s (readLog prompt names s) (readAll prompt names s).1 := by
  induction names generalizing s with
  | nil => exact .silent rfl rfl
  | cons name names ih =>
      have hread := logged_readInteger ⟨s.current, name, prompt⟩ s
      rw [readLog, readAll]
      generalize readInteger ⟨s.current, name, prompt⟩ s = a at hread
      obtain ⟨t, a⟩ := a
      cases a with
      | error fault =>
          rw [List.append_nil]
          exact hread
      | ok value =>
          have hassign : Logged t [] (t.assign name value) := .silent rfl rfl
          exact hread.append (hassign.append (ih (t.assign name value)))

theorem logged_changes (m : Machine) (s : State) (changes : List Change) :
    Logged s [] (changes.foldl m.change s) := by
  induction changes generalizing s with
  | nil => exact .silent rfl rfl
  | cons c changes ih =>
      have hchange : Logged s [] (m.change s c) := by
        cases c with
        | emit out => exact logged_emit m s out
        | _ => exact .silent rfl rfl
      exact hchange.append (ih (m.change s c))

theorem logged_prompted (m : Machine) (prompt : Option String) (s : State) :
    Logged s [] (m.prompted prompt s) := by
  cases prompt with
  | none => exact .silent rfl rfl
  | some text => exact logged_emit m s ⟨text, false⟩

theorem logged_exec (m : Machine) (s : State) (stmt : Statement) :
    Logged s (m.execLog s stmt) (m.exec s stmt).1 := by
  have hdoes := deed_does s.vars s.loops s.calls stmt
  rw [exec_eq_perform, execLog]
  generalize stmt.deed s.vars s.loops s.calls = d at hdoes
  generalize stmt.unwrap s.vars = stmt' at hdoes
  cases hdoes with
  | stays hlocal hother =>
      split
      · exact absurd rfl (hother _ _)
      · exact .silent rfl rfl
  | @reads prompt names =>
      rw [perform_reads]
      exact (logged_prompted m prompt s).append (logged_readAll _ names _)
  | repeats | returns =>
      rw [perform, turn, jumpAfter_state]
      exact logged_changes m s _
  | assigns | prints | opens | closes | goes | calls => exact logged_changes m s _

/-- Going on from a statement leaves the input alone. -/
theorem logged_proceed (m : Machine) (a : Outcome) : Logged a.1 [] (m.proceed a).state := by
  obtain ⟨s, a⟩ := a
  cases a with
  | error fault => exact .silent rfl rfl
  | ok flow =>
      cases flow with
      | halt => exact .silent rfl rfl
      | jump line => exact .silent rfl rfl
      | next =>
          rw [proceed]
          cases m.program.after? s.current with
          | some line => exact .silent rfl rfl
          | none => exact .silent rfl rfl

theorem logged_step (m : Machine) (s : State) : Logged s (m.stepLog s) (m.step s).state := by
  have hfetch := fetches m s
  unfold stepLog
  generalize m.due? s = line at hfetch
  generalize m.step s = p at hfetch
  cases hfetch with
  | astray hfound => exact .silent rfl rfl
  | ended hfound hend => exact .silent rfl rfl
  | cut hfound hend hlimit => exact .silent rfl rfl
  | @due line hfound hend hlimit =>
      have hstart : Logged s [] { s with current := line.number, steps := s.steps + 1 } :=
        .silent rfl rfl
      have hall := (hstart.append (logged_exec m _ line.statement)).append (logged_proceed m _)
      rw [List.append_nil] at hall
      exact hall

theorem logged_run (m : Machine) (fuel : Nat) (s : State) :
    Logged s (m.runLog fuel s) (m.run fuel s).state := by
  induction fuel generalizing s with
  | zero => exact .silent rfl rfl
  | succ fuel ih =>
      have hstep := logged_step m s
      rw [runLog, run]
      generalize m.step s = p at hstep
      cases p with
      | running t => exact hstep.append (ih t)
      | stopped t error =>
          rw [List.append_nil]
          exact hstep

end NumberedBasic.Machine
