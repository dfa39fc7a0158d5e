import NumberedBasic.Proofs.Machine.Fault
import NumberedBasic.Proofs.Program.Table

/-! What statements do, all in one place. Once its expressions have been evaluated and the open
loops and calls have been looked at, a statement comes to a few changes of the state and a way to go
on. Whatever holds of these holds of all statements. -/
namespace NumberedBasic

namespace Machine

/-- Something that a statement does to the state. -/
inductive Change where
  | assign (name : String) (value : Int64)
  | emit (out : Output)
  | openLoop (name : String) (first last : Int64)
  /-- The innermost loop is closed. -/
  | closeLoop
  | call
  /-- The innermost call is left. -/
  | leave
  deriving DecidableEq, Repr

/-- How a statement goes on after its changes. -/
inductive Turn where
  | give (result : Except Fault Flow)
  /-- A jump to the line after the given one. -/
  | after (number : Int)
  | read (prompt : String) (names : List String)

/-- What a statement comes to. -/
structure Deed where
  changes : List Change
  turn : Turn

namespace Deed

/-- Nothing is changed. -/
def still (result : Except Fault Flow) : Deed := ⟨[], .give result⟩

/-- Changes after which the program goes on with the next line. -/
def then_ (changes : List Change) : Deed := ⟨changes, .give (.ok .next)⟩

/-- Nothing is changed if there is no value to go on with. -/
def with_ {α : Type} (value : Except Fault α) (k : α → Deed) : Deed :=
  match value with
  | .ok a => k a
  | .error fault => still (.error fault)

/-- What a NEXT comes to. -/
def ofNext (vars : Store) (name : String) : List Loop → Deed
  | [] => still (.error .forNesting)
  | loop :: _ =>
      if loop.name = name then
        match vars.get? loop.name with
        | none => still (.error (.undefined loop.name))
        | some counter =>
            if loop.last ≤ counter then then_ [.closeLoop]
            else ⟨[.assign loop.name (counter + 1)], .after loop.line⟩
      else still (.error .forNesting)

/-- What a RETURN comes to. -/
def ofReturn : List Int → Deed
  | [] => still (.error .noGosub)
  | caller :: _ => ⟨[.leave], .after caller⟩

end Deed

def change (m : Machine) (s : State) : Change → State
  | .assign name value => s.assign name value
  | .emit out => m.emit s out
  | .openLoop name first last => { s with loops := ⟨name, s.current, first, last⟩ :: s.loops }
  | .closeLoop => { s with loops := s.loops.tail }
  | .call => { s with calls := s.current :: s.calls }
  | .leave => { s with calls := s.calls.tail }

def turn (m : Machine) (s : State) : Turn → Outcome
  | .give result => (s, result)
  | .after number => m.jumpAfter s number
  | .read prompt names => readAll prompt names s

def perform (m : Machine) (s : State) (d : Deed) : Outcome :=
  m.turn (d.changes.foldl m.change s) d.turn

/-- The state once the prompt, if there is one, has been put out. -/
def prompted (m : Machine) (prompt : Option String) (s : State) : State :=
  prompt.elim s fun text => m.emit s ⟨text, false⟩

theorem perform_closes (m : Machine) {s : State} {loop : Loop} {outer : List Loop}
    (h : s.loops = loop :: outer) :
    m.perform s (.then_ [.closeLoop]) = ({ s with loops := outer }, .ok .next) := by
  simp [perform, Deed.then_, turn, change, h]

theorem perform_returns (m : Machine) {s : State} {caller : Int} {outer : List Int}
    (h : s.calls = caller :: outer) :
    m.perform s ⟨[.leave], .after caller⟩ = m.jumpAfter { s with calls := outer } caller := by
  simp [perform, turn, change, h]

theorem perform_reads (m : Machine) (s : State) (prompt : Option String) (names : List String) :
    m.perform s ⟨prompt.toList.map fun text => .emit ⟨text, false⟩, .read (prompt.getD "") names⟩ =
      readAll (prompt.getD "") names (m.prompted prompt s) := by
  cases prompt with
  | none => rfl
  | some text => rfl

end Machine

namespace Statement
open Machine

/-- What a statement comes to where the variables have these values and these loops and calls are
open. -/
def deed (vars : Store) (loops : List Loop) (calls : List Int) : Statement → Deed
  | .let_ name value => .with_ (value.eval vars) fun v => .then_ [.assign name v]
  | .print items => .with_ (printText vars items) fun text => .then_ [.emit ⟨text, true⟩]
  | .input prompt names =>
      ⟨prompt.toList.map fun text => .emit ⟨text, false⟩, .read (prompt.getD "") names⟩
  | .for_ name first last =>
      .with_ (first.eval vars) fun a => .with_ (last.eval vars) fun b =>
        .then_ [.assign name a, .openLoop name a b]
  | .next name => .ofNext vars name loops
  | .if_ c body =>
      .with_ (c.eval vars) fun holds => if holds then body.deed vars loops calls else .then_ []
  | .goto target => .still (.ok (.jump target))
  | .gosub target => ⟨[.call], .give (.ok (.jump target))⟩
  | .return_ => .ofReturn calls
  | .end_ => .still (.ok .halt)
  | .empty => .then_ []
  | .missing => .still (.error .missingStatement)

/-- What is left of a statement when the IFs whose conditions hold are taken off. -/
def unwrap (vars : Store) : Statement → Statement
  | .if_ c body =>
      match c.eval vars with
      | .ok true => body.unwrap vars
      | _ => .if_ c body
  | stmt => stmt

/-- The statement is a GOTO or a GOSUB to the line, alone or under IFs whose conditions hold. -/
def JumpsTo (vars : Store) (stmt : Statement) (target : Int) : Prop :=
  stmt.unwrap vars = .goto target ∨ stmt.unwrap vars = .gosub target

theorem JumpsTo.mem_targets {vars : Store} {stmt : Statement} {target : Int}
    (h : stmt.JumpsTo vars target) : target ∈ stmt.targets := by
  have htargets : (stmt.unwrap vars).targets = stmt.targets := by
    induction stmt with
    | if_ c body ih =>
        simp only [JumpsTo, unwrap] at h ⊢
        split at h
        · exact ih h
        · rfl
    | _ => rfl
  rw [← htargets]
  rcases h with h | h
  · rw [h]
    exact List.mem_cons_self
  · rw [h]
    exact List.mem_cons_self

end Statement

namespace Machine

variable {vars : Store} {loops : List Loop} {calls : List Int}

/-- Carrying out a statement is carrying out what its IFs leave of it. -/
theorem exec_unwrap (m : Machine) (s : State) (stmt : Statement) :
    m.exec s (stmt.unwrap s.vars) = m.exec s stmt := by
  induction stmt with
  | if_ c body ih =>
      rw [Statement.unwrap]
      split
      · rename_i hholds
        rw [exec, hholds]
        exact ih
      · rfl
  | _ => rfl

theorem closeLoop_eq_perform (m : Machine) (s : State) (name : String) :
    m.closeLoop s name = m.perform s (.ofNext s.vars name s.loops) := by
  unfold closeLoop
  cases hloops : s.loops with
  | nil => rfl
  | cons loop outer =>
      dsimp only [Deed.ofNext]
      split
      · cases s.vars.get? loop.name with
        | none => rfl
        | some counter =>
            dsimp only
            split
            · exact (m.perform_closes hloops).symm
            · rfl
      · rfl

theorem exec_eq_perform (m : Machine) (s : State) (stmt : Statement) :
    m.exec s stmt = m.perform s (stmt.deed s.vars s.loops s.calls) := by
  induction stmt with
  | let_ name value =>
      rw [exec, Statement.deed]
      cases value.eval s.vars <;> rfl
  | print items =>
      rw [exec, Statement.deed]
      cases printText s.vars items <;> rfl
  | input prompt names => cases prompt <;> rfl
  | for_ name first last =>
      rw [exec, Statement.deed]
      cases first.eval s.vars with
      | error fault => rfl
      | ok a => cases last.eval s.vars <;> rfl
  | next name => exact closeLoop_eq_perform m s name
  | if_ c body ih =>
      rw [exec, Statement.deed]
      cases c.eval s.vars with
      | error fault => rfl
      | ok holds =>
          cases holds with
          | true => exact ih
          | false => rfl
  | return_ =>
      rw [exec, Statement.deed]
      cases hcalls : s.calls with
      | nil => rfl
      | cons caller outer => exact (m.perform_returns hcalls).symm
  | goto target | gosub target | end_ | empty | missing => rfl

/-- The result neither jumps nor speaks of a line. -/
def Local : Except Fault Flow → Prop
  | .ok (.jump _) => False
  | .ok _ => True
  | .error fault => fault.isPlain = true

/-- Everything that a statement without IFs to take off can come to. -/
inductive Does (loops : List Loop) (calls : List Int) : Statement → Deed → Prop
  | stays {stmt : Statement} {result : Except Fault Flow} : Local result →
      (∀ prompt names, stmt ≠ .input prompt names) → Does loops calls stmt (.still result)
  | assigns {name : String} {value : Expr} {v : Int64} :
      Does loops calls (.let_ name value) (.then_ [.assign name v])
  | prints {items : List PrintItem} {text : String} :
      Does loops calls (.print items) (.then_ [.emit ⟨text, true⟩])
  | reads {prompt : Option String} {names : List String} :
      Does loops calls (.input prompt names)
        ⟨prompt.toList.map fun text => .emit ⟨text, false⟩, .read (prompt.getD "") names⟩
  | opens {name : String} {first last : Expr} {a b : Int64} :
      Does loops calls (.for_ name first last) (.then_ [.assign name a, .openLoop name a b])
  | closes {loop : Loop} {outer : List Loop} : loops = loop :: outer →
      Does loops calls (.next loop.name) (.then_ [.closeLoop])
  | repeats {loop : Loop} {outer : List Loop} {value : Int64} : loops = loop :: outer →
      Does loops calls (.next loop.name) ⟨[.assign loop.name value], .after loop.line⟩
  | goes {target : Int} : Does loops calls (.goto target) (.still (.ok (.jump target)))
  | calls {target : Int} :
      Does loops calls (.gosub target) ⟨[.call], .give (.ok (.jump target))⟩
  | returns {caller : Int} {outer : List Int} : calls = caller :: outer →
      Does loops calls .return_ ⟨[.leave], .after caller⟩

theorem ofNext_does (vars : Store) (loops : List Loop) (calls : List Int) (name : String) :
    Does loops calls (.next name) (.ofNext vars name loops) := by
  cases loops with
  | nil => exact .stays rfl (by simp)
  | cons loop outer =>
      rw [Deed.ofNext]
      split
      · rename_i hname
        subst hname
        cases vars.get? loop.name with
        | none => exact .stays rfl (by simp)
        | some counter =>
            dsimp only
            split
            · exact .closes rfl
            · exact .repeats rfl
      · exact .stays rfl (by simp)

theorem deed_does (vars : Store) (loops : List Loop) (calls : List Int) (stmt : Statement) :
    Does loops calls (stmt.unwrap vars) (stmt.deed vars loops calls) := by
  induction stmt with
  | let_ name value =>
      rw [Statement.deed]
      cases hvalue : value.eval vars with
      | ok v => exact .assigns
      | error fault => exact .stays (value.isPlain_of_eval hvalue) (by simp [Statement.unwrap])
  | print items =>
      rw [Statement.deed]
      cases htext : printText vars items with
      | ok text => exact .prints
      | error fault => exact .stays (isPlain_of_printText htext) (by simp [Statement.unwrap])
  | input prompt names => exact .reads
  | for_ name first last =>
      rw [Statement.deed]
      cases hfirst : first.eval vars with
      | error fault => exact .stays (first.isPlain_of_eval hfirst) (by simp [Statement.unwrap])
      | ok a =>
          cases hlast : last.eval vars with
          | error fault => exact .stays (last.isPlain_of_eval hlast) (by simp [Statement.unwrap])
          | ok b => exact .opens
  | next name => exact ofNext_does vars loops calls name
  | if_ c body ih =>
      rw [Statement.deed, Statement.unwrap]
      cases hholds : c.eval vars with
      | error fault => exact .stays (c.isPlain_of_eval hholds) (by simp)
      | ok holds =>
          cases holds with
          | true => exact ih
          | false => exact .stays trivial (by simp)
  | goto target => exact .goes
  | gosub target => exact .calls
  | return_ =>
      cases calls with
      | nil => exact .stays rfl (by simp [Statement.unwrap])
      | cons caller outer => exact .returns rfl
  | end_ => exact .stays trivial (by simp [Statement.unwrap])
  | empty => exact .stays trivial (by simp [Statement.unwrap])
  | missing => exact .stays rfl (by simp [Statement.unwrap])

/-- Only a GOTO or a GOSUB jumps to a line of its own choice. -/
theorem Does.jumpsTo {stmt : Statement} {d : Deed} {target : Int} (h : Does loops calls stmt d)
    (hturn : d.turn = .give (.ok (.jump target))) :
    stmt = .goto target ∨ stmt = .gosub target := by
  cases h with
  | stays hlocal =>
      cases hturn
      exact hlocal.elim
  | goes =>
      cases hturn
      exact .inl rfl
  | calls =>
      cases hturn
      exact .inr rfl
  | assigns | prints | reads | opens | closes | repeats | returns => cases hturn

end Machine

end NumberedBasic
