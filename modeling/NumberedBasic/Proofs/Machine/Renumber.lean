import NumberedBasic.Proofs.Machine.Flow
import NumberedBasic.Proofs.Program.Renumber

/-! A program that is given new numbers runs as before, with the new numbers in the place of the old
ones. Jumps and the order of lines are looked up in the table, and nothing else is done with a
number. -/
namespace NumberedBasic

section Renumber

variable (f : Int → Int)

/-- The fault with the number in it replaced, where it names one. -/
def Fault.renumber : Fault → Fault
  | .noSuchLine number => .noSuchLine (f number)
  | .noLineAfter number => .noLineAfter (f number)
  | fault => fault

def LineFault.renumber (e : LineFault) : LineFault := ⟨f e.line, e.fault.renumber f⟩

def Request.renumber (r : Request) : Request := { r with line := f r.line }

def Signal.renumber : Signal → Signal
  | .output out => .output out
  | .request r => .request (r.renumber f)

def Loop.renumber (loop : Loop) : Loop := { loop with line := f loop.line }

@[simps] def State.renumber (s : State) : State :=
  { s with
    loops := s.loops.map (Loop.renumber f)
    calls := s.calls.map f
    cursor := f s.cursor
    current := f s.current
    sent := s.sent.map (Signal.renumber f) }

def Machine.Flow.renumber : Machine.Flow → Machine.Flow
  | .jump line => .jump (f line)
  | flow => flow

/-- Only jumps are changed, as faults that a statement raises itself speak of no line. -/
def Machine.Turn.renumber : Machine.Turn → Machine.Turn
  | .give result => .give (result.map (Machine.Flow.renumber f))
  | .after number => .after (f number)
  | .read prompt names => .read prompt names

def Machine.Deed.renumber (d : Machine.Deed) : Machine.Deed := { d with turn := d.turn.renumber f }

def Machine.Outcome.renumber : Machine.Outcome → Machine.Outcome
  | (s, .ok flow) => (s.renumber f, .ok (flow.renumber f))
  | (s, .error fault) => (s.renumber f, .error (fault.renumber f))

def Machine.Progress.renumber : Machine.Progress → Machine.Progress
  | .running s => .running (s.renumber f)
  | .stopped s error => .stopped (s.renumber f) (error.map (LineFault.renumber f))

@[simps] def Machine.renumber (m : Machine) : Machine :=
  { m with program := m.program.renumber f }

def Session.renumber (s : Session) : Session := ⟨s.machine.renumber f, s.state.renumber f⟩

def Report.renumber (r : Report) : Report :=
  { r with
    signals := r.signals.map (Signal.renumber f)
    error := r.error.map (LineFault.renumber f) }

theorem Fault.renumber_of_isPlain {fault : Fault} (h : fault.isPlain = true) :
    fault.renumber f = fault := by
  cases fault with
  | noSuchLine number => cases h
  | noLineAfter number => cases h
  | _ => rfl

namespace Machine

theorem hasWritten_renumber (s : State) : (s.renumber f).hasWritten = s.hasWritten := by
  rw [State.hasWritten, State.renumber_sent, List.any_map, State.hasWritten]
  congr 1
  funext signal
  cases signal with
  | output out => rfl
  | request r => rfl

theorem emit_renumber (m : Machine) (s : State) (out : Output) :
    (m.renumber f).emit (s.renumber f) out = (m.emit s out).renumber f := by
  unfold emit
  cases hstreaming : m.streaming with
  | true => simp only [renumber_streaming, hstreaming, if_true]; rfl
  | false => simp only [renumber_streaming, hstreaming, Bool.false_eq_true, if_false]; rfl

theorem accept_renumber (r : Request) (word : Except ReadError Word) :
    accept (r.renumber f) word = accept r word := by
  cases word with
  | error e => cases e <;> rfl
  | ok word => rfl

theorem portsTaken_renumber (r : Request) (s : State) :
    (s.renumber f).withPorts ((s.renumber f).portsTaken (r.renumber f)) =
      (s.withPorts (s.portsTaken r)).renumber f := by
  have hsent : ∀ n, List.replicate n (Signal.request (r.renumber f)) ++
      s.sent.map (Signal.renumber f) =
      (List.replicate n (Signal.request r) ++ s.sent).map (Signal.renumber f) := by
    intro n
    rw [List.map_append, List.map_replicate]
    rfl
  unfold State.portsTaken
  rw [hasWritten_renumber, State.renumber_sent, State.renumber_input, hsent]
  rfl

theorem readInteger_renumber (r : Request) (s : State) :
    readInteger (r.renumber f) (s.renumber f) =
      ((readInteger r s).1.renumber f, (readInteger r s).2) := by
  rw [readInteger_eq, readInteger_eq, hasWritten_renumber, accept_renumber, portsTaken_renumber]
  rfl

theorem readAll_renumber (prompt : String) (names : List String) (s : State) :
    readAll prompt names (s.renumber f) = Outcome.renumber f (readAll prompt names s) := by
  induction names generalizing s with
  | nil => rfl
  | cons name names ih =>
      have hread : readInteger ⟨f s.current, name, prompt⟩ (s.renumber f) = _ :=
        readInteger_renumber f ⟨s.current, name, prompt⟩ s
      have hfault : ∀ fault, (readInteger ⟨s.current, name, prompt⟩ s).2 = .error fault →
          fault.renumber f = fault := by
        intro fault h
        exact Fault.renumber_of_isPlain f (isPlain_of_readInteger h)
      rw [readAll, readAll, State.renumber_current, hread]
      generalize readInteger ⟨s.current, name, prompt⟩ s = a at hfault
      obtain ⟨t, a⟩ := a
      cases a with
      | ok value => exact ih (t.assign name value)
      | error fault =>
          change _ = (t.renumber f, Except.error (fault.renumber f))
          rw [hfault fault rfl]

variable {f} {m : Machine} {s : State}

theorem jumpAfter_renumber (hf : StrictMonoOn f m.program.numbers) (s : State) {number : Int}
    (hnumber : number ∈ m.program.numbers) :
    (m.renumber f).jumpAfter (s.renumber f) (f number) =
      (m.jumpAfter s number).renumber f := by
  unfold jumpAfter
  rw [renumber_program, Program.after?_renumber hf hnumber]
  cases m.program.after? number with
  | some line => rfl
  | none => rfl

/-- All the numbers that a state holds belong to the set. -/
structure On (S : Set Int) (s : State) : Prop where
  current : s.current ∈ S
  loops : ∀ loop ∈ s.loops, loop.line ∈ S
  calls : ∀ line ∈ s.calls, line ∈ S

/-- The turn speaks of no line outside the set but for one that it chooses itself. -/
def Turn.On (S : Set Int) : Turn → Prop
  | .give (.error fault) => fault.isPlain = true
  | .after number => number ∈ S
  | _ => True

theorem Does.turn_on {S : Set Int} {stmt : Statement} {d : Deed} (h : Does s.loops s.calls stmt d)
    (hs : On S s) : d.turn.On S := by
  cases h with
  | @stays _ result hlocal =>
      cases result with
      | error fault => exact hlocal
      | ok flow => trivial
  | repeats hloops => exact hs.loops _ (hloops ▸ List.mem_cons_self)
  | returns hcalls => exact hs.calls _ (hcalls ▸ List.mem_cons_self)
  | assigns | prints | reads | opens | closes | goes | calls => trivial

theorem with_renumber {α : Type} (value : Except Fault α) (k : α → Deed) :
    (Deed.with_ value k).renumber f = .with_ value fun a => (k a).renumber f := by
  cases value with
  | ok a => rfl
  | error fault => rfl

theorem ofNext_renumber (vars : Store) (name : String) (loops : List Loop) :
    Deed.ofNext vars name (loops.map (Loop.renumber f)) =
      (Deed.ofNext vars name loops).renumber f := by
  cases loops with
  | nil => rfl
  | cons loop outer =>
      simp only [List.map_cons, Deed.ofNext, Loop.renumber]
      by_cases hname : loop.name = name
      · rw [if_pos hname, if_pos hname]
        cases vars.get? loop.name with
        | none => rfl
        | some counter =>
            dsimp only
            by_cases hlast : loop.last ≤ counter
            · rw [if_pos hlast, if_pos hlast]
              rfl
            · rw [if_neg hlast, if_neg hlast]
              rfl
      · rw [if_neg hname, if_neg hname]
        rfl

theorem deed_renumber (vars : Store) (loops : List Loop) (calls : List Int) (stmt : Statement) :
    (stmt.renumber f).deed vars (loops.map (Loop.renumber f)) (calls.map f) =
      (stmt.deed vars loops calls).renumber f := by
  induction stmt with
  | let_ name value | print items | for_ name first last =>
      simp only [Statement.renumber, Statement.deed, with_renumber]
      rfl
  | next name => exact ofNext_renumber vars name loops
  | if_ c body ih =>
      simp only [Statement.renumber, Statement.deed, with_renumber, ih]
      congr 1
      funext holds
      cases holds with
      | true => rfl
      | false => rfl
  | return_ => cases calls <;> rfl
  | input prompt names => rfl
  | goto target | gosub target | end_ | empty | missing => rfl

theorem changes_renumber (m : Machine) (s : State) (changes : List Change) :
    changes.foldl (m.renumber f).change (s.renumber f) =
      (changes.foldl m.change s).renumber f := by
  have hchange : ∀ (s : State) (c : Change),
      (m.renumber f).change (s.renumber f) c = (m.change s c).renumber f := by
    intro s c
    cases c with
    | emit out => exact emit_renumber f m s out
    | closeLoop => simp [change, State.renumber, List.map_tail]
    | leave => simp [change, State.renumber, List.map_tail]
    | assign name value => rfl
    | openLoop name first last => rfl
    | call => rfl
  exact List.foldl_hom (State.renumber f) hchange

theorem turn_renumber (hf : StrictMonoOn f m.program.numbers) (s : State) {turn : Turn}
    (hturn : turn.On m.program.numbers) :
    (m.renumber f).turn (s.renumber f) (turn.renumber f) = (m.turn s turn).renumber f := by
  cases turn with
  | give result =>
      cases result with
      | ok flow => rfl
      | error fault =>
          change _ = (s.renumber f, Except.error (fault.renumber f))
          rw [Fault.renumber_of_isPlain f hturn]
          rfl
  | after number => exact jumpAfter_renumber hf s hturn
  | read prompt names => exact readAll_renumber f prompt names s

theorem exec_renumber (hf : StrictMonoOn f m.program.numbers) (hs : On m.program.numbers s)
    (stmt : Statement) :
    (m.renumber f).exec (s.renumber f) (stmt.renumber f) = (m.exec s stmt).renumber f := by
  have hturn := (deed_does s.vars s.loops s.calls stmt).turn_on hs
  have hdeed := deed_renumber (f := f) s.vars s.loops s.calls stmt
  rw [exec_eq_perform, exec_eq_perform, State.renumber_vars, State.renumber_loops,
    State.renumber_calls, hdeed]
  generalize stmt.deed s.vars s.loops s.calls = d at hturn
  change (m.renumber f).turn (d.changes.foldl _ _) (d.turn.renumber f) = _
  rw [changes_renumber, turn_renumber hf _ hturn]
  rfl

theorem Update.on {S : Set Int} {t : State} (h : Update m s t) (hs : On S s) : On S t := by
  cases h with
  | change c =>
      cases c with
      | emit out =>
          rw [Machine.change, emit_eq_withPorts]
          exact ⟨hs.current, hs.loops, hs.calls⟩
      | assign name value => exact ⟨hs.current, hs.loops, hs.calls⟩
      | openLoop name first last =>
          exact ⟨hs.current, List.forall_mem_cons.mpr ⟨hs.current, hs.loops⟩, hs.calls⟩
      | closeLoop =>
          exact ⟨hs.current, fun loop hloop => hs.loops loop (List.mem_of_mem_tail hloop), hs.calls⟩
      | call => exact ⟨hs.current, hs.loops, List.forall_mem_cons.mpr ⟨hs.current, hs.calls⟩⟩
      | leave =>
          exact ⟨hs.current, hs.loops, fun line hline => hs.calls line (List.mem_of_mem_tail hline)⟩
  | read r =>
      rw [readInteger_eq]
      exact ⟨hs.current, hs.loops, hs.calls⟩

theorem exec_on {S : Set Int} (hs : On S s) (stmt : Statement) : On S (m.exec s stmt).1 :=
  exec_invariant Update.on hs stmt

theorem proceed_renumber (hf : StrictMonoOn f m.program.numbers) {a : Outcome}
    (ha : a.1.current ∈ m.program.numbers) :
    (m.renumber f).proceed (a.renumber f) = (m.proceed a).renumber f := by
  obtain ⟨s, a⟩ := a
  cases a with
  | error fault => rfl
  | ok flow =>
      cases flow with
      | halt => rfl
      | jump line => rfl
      | next =>
          change (m.renumber f).proceed (s.renumber f, .ok .next) = _
          rw [proceed, proceed, renumber_program, State.renumber_current,
            Program.after?_renumber hf ha]
          cases m.program.after? s.current with
          | some line => rfl
          | none => rfl

/-- The two machines take the same step. -/
theorem fetches_renumber (hf : StrictMonoOn f m.program.numbers) (hs : On m.program.numbers s)
    (hcursor : s.cursor ∈ m.program.numbers) :
    Fetches (m.renumber f) (s.renumber f) ((m.due? s).map (Line.renumber f))
      ((m.step s).renumber f) := by
  have hget : (m.renumber f).program.get? (s.renumber f).cursor =
      (m.program.get? s.cursor).map (Line.renumber f) := Program.get?_renumber hf hcursor
  have hfetch := fetches m s
  generalize m.due? s = line at hfetch
  generalize m.step s = p at hfetch
  cases hfetch with
  | astray hfound =>
      rw [hfound] at hget
      exact .astray hget
  | @ended line hfound hend =>
      rw [hfound] at hget
      rw [← line.statement.isEnd_renumber f] at hend
      exact .ended hget hend
  | @cut line hfound hend hlimit =>
      rw [hfound] at hget
      rw [← line.statement.isEnd_renumber f] at hend
      exact .cut hget hend hlimit
  | @due line hfound hend hlimit =>
      rw [hfound] at hget
      rw [← line.statement.isEnd_renumber f] at hend
      have hdue := Fetches.due hget hend hlimit
      have hnumber := Program.number_mem (Program.mem_of_get? hfound)
      have hon : On m.program.numbers { s with current := line.number, steps := s.steps + 1 } :=
        ⟨hnumber, hs.loops, hs.calls⟩
      have hexec := exec_renumber hf hon line.statement
      have hproceed := proceed_renumber hf (exec_on (m := m) hon line.statement).current
      rw [← hproceed, ← hexec]
      exact hdue

theorem step_on {t : State} (hs : On m.program.numbers s) (h : m.step s = .running t) :
    On m.program.numbers t ∧ t.cursor ∈ m.program.numbers := by
  obtain ⟨line, hdue, hcursor⟩ := step_cursor h
  have hline := mem_of_due hdue
  have hon : On m.program.numbers { s with current := line.number, steps := s.steps + 1 } :=
    ⟨Program.number_mem hline, hs.loops, hs.calls⟩
  have hafter := exec_on (m := m) hon line.statement
  rw [step_of_due hdue] at h
  constructor
  · rcases proceed_running h with ⟨target, -, rfl⟩ | ⟨number, -, -, rfl⟩
    · exact ⟨hafter.current, hafter.loops, hafter.calls⟩
    · exact ⟨hafter.current, hafter.loops, hafter.calls⟩
  · rcases hcursor with htarget | ⟨number, hnumber⟩
    · exact Program.target_mem hline htarget.mem_targets
    · exact Program.after?_mem hnumber

theorem run_renumber (hf : StrictMonoOn f m.program.numbers) (hs : On m.program.numbers s)
    (hcursor : s.cursor ∈ m.program.numbers) (fuel : Nat) :
    (m.renumber f).run fuel (s.renumber f) = (m.run fuel s).renumber f := by
  induction fuel generalizing s with
  | zero => rfl
  | succ fuel ih =>
      rw [run, run, (fetches_renumber hf hs hcursor).step_eq]
      cases hstep : m.step s with
      | stopped t error => rfl
      | running t =>
          obtain ⟨ht, hcursor⟩ := step_on hs hstep
          exact ih ht hcursor

end Machine

end Renumber

namespace Session

theorem initial_renumber {s : Session} {f : Int → Int} (hne : s.program.lines ≠ [])
    (hf : StrictMonoOn f s.program.numbers) :
    (s.renumber f).initial = s.initial.renumber f ∧ s.initial.cursor ∈ s.program.numbers := by
  obtain ⟨first, hfirst⟩ := Program.exists_first? hne
  have hfirst' : (s.renumber f).program.first? = some (f first) := by
    change (s.program.renumber f).first? = _
    rw [Program.first?_renumber hf, hfirst]
    rfl
  constructor
  · rw [initial_eq, initial_eq, hfirst, hfirst']
    rfl
  · rw [initial_eq, hfirst]
    exact Program.first?_mem hfirst

/-- A program whose numbers are replaced by others in the same order runs step by step as before,
and so does every run of it as a whole. -/
theorem renumber_runs_alike (s : Session) (hne : s.program.lines ≠ []) {f : Int → Int}
    (hf : StrictMonoOn f s.program.numbers) (fuel : Nat) :
    (s.renumber f).machine.run fuel (s.renumber f).initial =
        (s.machine.run fuel s.initial).renumber f ∧
      (s.renumber f).run fuel =
        (s.run fuel).map fun (t, r) => (t.renumber f, r.renumber f) := by
  obtain ⟨hinitial, hcursor⟩ := initial_renumber hne hf
  have hon : Machine.On s.program.numbers s.initial := by
    refine ⟨hcursor, ?_, ?_⟩
    · intro loop hloop
      cases hloop
    · intro line hline
      cases hline
  have hrun : (s.renumber f).machine.run fuel (s.renumber f).initial =
      (s.machine.run fuel s.initial).renumber f := by
    rw [hinitial]
    exact Machine.run_renumber (m := s.machine) hf hon hcursor fuel
  refine ⟨hrun, ?_⟩
  rw [run, hrun, run]
  cases s.machine.run fuel s.initial with
  | running t => rfl
  | stopped t error =>
      simp [Machine.Progress.renumber, Report.renumber, Session.renumber]

/-- The last jump goes nowhere. -/
def astray : Session :=
  .new ⟨.ofLines [⟨10, .gosub 30⟩, ⟨20, .if_ ⟨.lt, .lit 1, .lit 2⟩ (.goto 99)⟩,
    ⟨30, .input none ["a"]⟩, ⟨40, .return_⟩], 0, true⟩
    ⟨[], some ⟨[⟨Text.Glyph.ofString "7", none⟩], .endOfInput, none⟩⟩

theorem square_strictMonoOn : StrictMonoOn (fun n : Int => n * n) astray.program.numbers := by
  have hnonneg : ∀ n ∈ astray.program.numbers, 0 ≤ n := by
    rintro n ⟨line, hline, hn⟩
    have hall : ∀ line ∈ astray.program.lines,
        0 ≤ line.number ∧ ∀ n ∈ line.statement.targets, 0 ≤ n := by decide
    rcases hn with rfl | hn
    · exact (hall line hline).1
    · exact (hall line hline).2 n hn
  intro a ha b hb hlt
  exact Int.mul_self_lt_mul_self (hnonneg a ha) hlt

theorem renumber_runs_alike_astray :
    astray.program.lines ≠ [] ∧
      StrictMonoOn (fun n : Int => n * n) astray.program.numbers ∧
      (astray.run 9).map (·.2) =
        some ⟨[], [.request ⟨30, "a", ""⟩], some ⟨20, .noSuchLine 99⟩⟩ ∧
      ((astray.renumber fun n => n * n).run 9).map (·.2) =
        some ⟨[], [.request ⟨900, "a", ""⟩], some ⟨400, .noSuchLine 9801⟩⟩ := by
  have hne : astray.program.lines ≠ [] := by decide
  have hrun : (astray.run 9).map (·.2) =
      some ⟨[], [.request ⟨30, "a", ""⟩], some ⟨20, .noSuchLine 99⟩⟩ := by decide +kernel
  refine ⟨hne, square_strictMonoOn, hrun, ?_⟩
  obtain ⟨⟨t, r⟩, hsome, hreport⟩ := Option.map_eq_some_iff.mp hrun
  cases hreport
  rw [(renumber_runs_alike astray hne square_strictMonoOn 9).2, hsome]
  rfl

end Session

end NumberedBasic
