import NumberedBasic.Screen.Stage
import NumberedBasic.Proofs.Screen.Restart
import NumberedBasic.Proofs.Screen.Transcript

/-! The stage delivers at once what a scene leaves to its time. Whatever is done to a stage, there
are acts that bring a scene to the same screen, and where the stage delivers events these acts are a
play. -/
namespace NumberedBasic
open Dialogue

namespace Dialogue

variable {fuel n : Nat} {source : String} {steps : Int} {answers : List Answer} {u v : List Event}

/-- A run that has come to its end sends nothing more. -/
theorem eventsWithin_of_ended (h : events fuel source steps answers = some u) (extra : Nat) :
    eventsWithin (fuel + extra) source steps answers = u := by
  have hmore : events (fuel + extra) source steps answers = some u := by
    unfold events at h ⊢
    cases hloaded : Session.ofSource source with
    | error e =>
        rw [hloaded] at h
        exact h
    | ok session =>
        rw [hloaded] at h
        obtain ⟨⟨after, report⟩, hrun, rfl⟩ := Option.map_eq_some_iff.mp h
        obtain ⟨t, error, hstopped, rfl, rfl⟩ := Session.run_eq_some hrun
        dsimp only
        rw [Session.run_of_stopped (Machine.run_add_of_stopped hstopped extra)]
        rfl
  exact eventsWithin_of_events hmore

/-- What was heard of a run at any time is among the events that it has sent. -/
theorem prefix_of_eventsSoFar (h : eventsSoFar fuel source steps answers = some u)
    (hv : v <+: heardSoFar n source steps answers) : v <+: u := by
  obtain ⟨all, hall, rfl⟩ := Option.map_eq_some_iff.mp h
  have hmore := heardSoFar_grows n fuel source steps answers []
  rw [List.append_nil, Nat.add_comm, heardSoFar, heardSoFar, eventsWithin_of_ended hall] at hmore
  exact hv.trans hmore

/-- Nothing follows the report of the end. -/
theorem eq_nil_of_isDone {e : Event} (he : e ∈ u) (hdone : e.isDone = true)
    (h : u ++ v <+: heardSoFar fuel source steps answers) : v = [] := by
  have hwithin : u ++ v <+: eventsWithin fuel source steps answers := h.trans (uptoPrompt_le _ _)
  have hmem : e ∈ eventsWithin fuel source steps answers :=
    hwithin.subset (List.mem_append_left v he)
  obtain ⟨-, front, failure, hall, hfront⟩ := events_of_isDone hmem hdone
  rw [hall] at hwithin
  have hu : u = front ++ [.done failure] :=
    eq_of_prefix_of_isDone ((List.prefix_append u v).trans hwithin) he hdone hfront
  rw [hu] at hwithin
  have hlength := hwithin.length_le
  rw [List.length_append] at hlength
  exact List.eq_nil_of_length_eq_zero (by omega)

end Dialogue

/-- The errands that come of an effect. -/
def Screen.Effect.errands : Screen.Effect → List Errand
  | .await run => [.await run]
  | .start => [.start]
  | _ => []

namespace Scene

theorem perform_errands (s : Scene) (effect : Screen.Effect) :
    (s.perform effect).errands = s.errands ++ effect.errands := by
  cases effect with
  | await run => rfl
  | start => rfl
  | quit => exact (List.append_nil _).symm
  | answer channel answer => cases channel <;> exact (List.append_nil _).symm

theorem handle_errands (s : Scene) (message : Screen.Message) :
    (s.handle message).errands =
      s.errands ++ (s.screen.update message).2.flatMap Screen.Effect.errands := by
  have hfold : ∀ (effects : List Screen.Effect) (s : Scene),
      (effects.foldl perform s).errands = s.errands ++ effects.flatMap Screen.Effect.errands := by
    intro effects
    induction effects with
    | nil => simp
    | cons effect effects ih =>
        intro s
        rw [List.foldl_cons, ih, perform_errands, List.flatMap_cons, List.append_assoc]
  exact hfold _ _

theorem enact_of_play {s s' : Scene} {acts : List Act} {typed : List String}
    (h : s.play acts = some (typed, s')) : s.enact acts = some s' := by
  induction acts generalizing s typed with
  | nil =>
      cases h
      rfl
  | cons a acts ih =>
      rw [play] at h
      split at h
      · cases h
      · obtain ⟨next, hnext, h⟩ := Option.bind_eq_some_iff.mp h
        obtain ⟨⟨rest, final⟩, hrest, h⟩ := Option.bind_eq_some_iff.mp h
        cases h
        rw [enact, List.foldlM_cons, hnext]
        exact ih hrest

/-- An act that presses no key takes the play on. -/
theorem play_cons {s next : Scene} {a : Act} (hact : s.act a = some next) (ha : ∀ k, a ≠ .key k)
    (hdone : s.screen.done = false) (rest : List Act) :
    s.play (a :: rest) = next.play rest := by
  have hsafe : a.isInterrupt = false := by
    cases a with
    | key k => exact absurd rfl (ha k)
    | _ => rfl
  rw [play, hdone, hsafe, hact, typedBy_of_ne_key ha]
  change (next.play rest).bind (fun final => some ([] ++ final.1, final.2)) = _
  cases next.play rest with
  | none => rfl
  | some final => rfl

end Scene

namespace Stage

variable {t : Stage} {s : Scene} {past : List Thread} {sent : List Event} {calls : Nat}

theorem deliver_output (t : Stage) (out : Output) :
    t.deliver (.output out) =
      { t.deliverUnseen out with screen := (t.deliverUnseen out).screen.refresh } := by
  have hawaits : ∀ (x : Screen) (u : Stage), x.awaiting.foldl perform u = u := by
    intro x u
    rw [Screen.awaiting]
    cases x.source with
    | none => rfl
    | some run => rfl
  exact hawaits t.screen _

theorem pending_deliverUnseen (t : Stage) (out : Output) :
    (t.deliverUnseen out).screen.pending = t.screen.pending := by
  unfold deliverUnseen Screen.write
  split <;> rfl

theorem deliver_output_refresh (t : Stage) (out : Output) :
    { t with screen := t.screen.refresh }.deliver (.output out) = t.deliver (.output out) := by
  rw [deliver_output, deliver_output]
  simp only [deliverUnseen, Screen.refresh_write_refresh]

/-- What the screen showed before an output does not matter. -/
theorem deliverAll_refresh (hpending : t.screen.pending = none) (out : Output)
    (rest : List Event) :
    { t with screen := t.screen.refresh }.deliverAll (.output out :: rest) =
      t.deliverAll (.output out :: rest) := by
  have hpending' : t.screen.refresh.pending = none := hpending
  induction rest generalizing t out with
  | nil => simp [deliverAll, hpending, hpending', deliver_output_refresh]
  | cons e rest ih =>
      cases e with
      | prompt r => simp [deliverAll, hpending, hpending', deliver_output_refresh]
      | done failure => simp [deliverAll, hpending, hpending', deliver_output_refresh]
      | output next =>
          -- Neither stage shows this output: both agree once the next one is shown.
          have hlater : ∀ u : Stage, u.screen.pending = none →
              (u.deliverUnseen out).deliverAll (.output next :: rest) =
                (u.deliver (.output out)).deliverAll (.output next :: rest) := by
            intro u hu
            have hunseen := (u.pending_deliverUnseen out).trans hu
            rw [deliver_output, ih hunseen next hunseen]
          simp only [deliverAll, hpending, hpending', Option.isSome_none, Bool.false_eq_true,
            if_false]
          rw [hlater t hpending, hlater { t with screen := t.screen.refresh } hpending,
            deliver_output_refresh]

/-- An output that is not shown at once is shown with the next one. -/
theorem deliverAll_cons (hpending : t.screen.pending = none) (e : Event) (rest : List Event) :
    t.deliverAll (e :: rest) = (t.deliver e).deliverAll rest := by
  rw [deliverAll.eq_def]
  simp only [hpending, Option.isSome_none, Bool.false_eq_true, if_false]
  split
  · rename_i out next more
    have hunseen := (t.pending_deliverUnseen out).trans hpending
    rw [deliver_output, deliverAll_refresh hunseen]
  · rfl

/-- The run that the stage shows is the last one of the scene, and the screen has been told of all
that it has sent. -/
structure Matches (t : Stage) (s : Scene) (past : List Thread) (sent : List Event) : Prop where
  source_eq : s.source = t.source
  steps_eq : s.steps = t.steps
  screen : s.screen = t.screen
  runs : t.runs = past.length + 1
  threads : s.threads = past ++ [⟨t.answers, sent, t.delivered⟩]
  delivered : t.delivered = sent.length
  prompted : t.prompted = prompts sent
  heard : ∃ fuel, sent <+: heardSoFar fuel t.source t.steps t.answers

/-- What the screen waits for: the shown run, an answer, or the start of another run. Runs that were
asked for and that nobody has started are left aside. -/
inductive Stands (screen : Screen) (errands : List Errand) (run calls : Nat) (sent : List Event) :
    Prop
  | going : screen.running = true → screen.done = false → screen.pending = none →
      errands = List.replicate calls .start ++ [.await run] →
      Stands screen errands run calls sent
  | asking {p : Pending} : screen.running = true → screen.done = false →
      screen.pending = some p → errands = List.replicate calls .start →
      Stands screen errands run calls sent
  | ended {e : Event} : screen.running = false → screen.pending = none →
      (screen.done = false → 0 < calls) → e ∈ sent → e.isDone = true →
      errands = List.replicate calls .start → Stands screen errands run calls sent

/-- The scene stands where the stage stands. -/
structure Mirrors (t : Stage) (s : Scene) (past : List Thread) (sent : List Event) (calls : Nat) :
    Prop extends Matches t s past sent where
  shown : t.screen.source = some past.length
  stands : Stands t.screen s.errands past.length calls sent

theorem modify_concat {α : Type} (l : List α) (x : α) (i : Nat) (f : α → α) :
    (l ++ [x]).modify i f = l.modify i f ++ [if i = l.length then f x else x] := by
  induction l generalizing i with
  | nil => cases i <;> simp
  | cons y l ih =>
      cases i with
      | zero => simp
      | succ i => simp [ih]

/-- An answer reaches the shown run on the stage if and only if it does so in the scene. -/
theorem Matches.answer (h : Matches t s past sent) (channel : Channel) (answer : Answer) :
    ∃ past', past'.length = past.length ∧
      Matches (t.takeAnswer channel answer) (s.perform (.answer channel answer)) past' sent := by
  cases channel with
  | direct id =>
      refine ⟨past, rfl, ?_⟩
      rw [takeAnswer]
      split
      · exact ⟨h.source_eq, h.steps_eq, h.screen, h.runs, h.threads, h.delivered, h.prompted,
          h.heard⟩
      · exact h
  | run id ordinal =>
      refine ⟨past.modify id (·.answer ordinal answer), List.length_modify _ _ _, ?_⟩
      have hthreads : (s.perform (.answer (.run id ordinal) answer)).threads =
          past.modify id (·.answer ordinal answer) ++
            [if id = past.length then Thread.answer ⟨t.answers, sent, t.delivered⟩ ordinal answer
              else ⟨t.answers, sent, t.delivered⟩] := by
        change s.threads.modify id _ = _
        rw [h.threads, modify_concat]
      have hid : id + 1 = t.runs ↔ id = past.length := by
        rw [h.runs, Nat.add_right_cancel_iff]
      rw [takeAnswer]
      split
      · rename_i htaken
        rw [if_pos (hid.mp htaken.1), Thread.answer, if_pos htaken.2] at hthreads
        obtain ⟨fuel, hheard⟩ := h.heard
        exact ⟨h.source_eq, h.steps_eq, h.screen, h.runs.trans (by simp), hthreads, h.delivered,
          h.prompted, fuel, hheard.trans (heardSoFar_grows fuel 0 t.source t.steps t.answers _)⟩
      · rename_i hdropped
        have hlast : (if id = past.length then
            Thread.answer ⟨t.answers, sent, t.delivered⟩ ordinal answer
            else ⟨t.answers, sent, t.delivered⟩) = ⟨t.answers, sent, t.delivered⟩ := by
          split
          · exact if_neg fun hordinal => hdropped ⟨hid.mpr ‹_›, hordinal⟩
          · rfl
        rw [hlast] at hthreads
        exact ⟨h.source_eq, h.steps_eq, h.screen, h.runs.trans (by simp), hthreads, h.delivered,
          h.prompted, h.heard⟩

theorem Matches.perform (h : Matches t s past sent) (effect : Screen.Effect) :
    ∃ past', past'.length = past.length ∧
      Matches (t.perform effect) (s.perform effect) past' sent := by
  cases effect with
  | answer channel answer => exact h.answer channel answer
  | quit => exact ⟨past, rfl, h⟩
  | await run =>
      exact ⟨past, rfl, h.source_eq, h.steps_eq, h.screen, h.runs, h.threads, h.delivered,
        h.prompted, h.heard⟩
  | start =>
      exact ⟨past, rfl, h.source_eq, h.steps_eq, h.screen, h.runs, h.threads, h.delivered,
        h.prompted, h.heard⟩

theorem Matches.performAll (h : Matches t s past sent) (effects : List Screen.Effect) :
    ∃ past', past'.length = past.length ∧
      Matches (effects.foldl Stage.perform t) (effects.foldl Scene.perform s) past' sent := by
  induction effects generalizing t s past with
  | nil => exact ⟨past, rfl, h⟩
  | cons effect effects ih =>
      obtain ⟨past', hlength, hfirst⟩ := h.perform effect
      obtain ⟨past'', hlength', hrest⟩ := ih hfirst
      exact ⟨past'', hlength'.trans hlength, hrest⟩

theorem perform_screen (t : Stage) (effect : Screen.Effect) :
    (t.perform effect).screen = t.screen := by
  cases effect with
  | answer channel answer =>
      cases channel with
      | run id ordinal => exact apply_ite Stage.screen _ _ _ |>.trans (ite_self _)
      | direct id => exact apply_ite Stage.screen _ _ _ |>.trans (ite_self _)
  | _ => rfl

theorem send_screen (t : Stage) (message : Screen.Message) :
    (t.send message).1.screen = (t.screen.update message).1 := by
  have hfold : ∀ (effects : List Screen.Effect) (t : Stage),
      (effects.foldl perform t).screen = t.screen := by
    intro effects
    induction effects with
    | nil => exact fun _ => rfl
    | cons effect effects ih =>
        intro t
        rw [List.foldl_cons, ih, perform_screen]
  exact hfold _ _

/-- The stage and the scene handle a message alike. -/
theorem Matches.handle (h : Matches t s past sent) {message : Screen.Message}
    (hshown : (t.screen.update message).1.source = some past.length)
    (hstands : Stands (t.screen.update message).1
      (s.errands ++ (t.screen.update message).2.flatMap Screen.Effect.errands) past.length calls
      sent) :
    ∃ past', Mirrors (t.send message).1 (s.handle message) past' sent calls := by
  have htold : Matches { t with screen := (t.screen.update message).1 } (s.tell message) past
      sent := by
    refine ⟨h.source_eq, h.steps_eq, ?_, h.runs, h.threads, h.delivered, h.prompted, h.heard⟩
    change (s.screen.update message).1 = _
    rw [h.screen]
  obtain ⟨past', hlength, hmatches⟩ := htold.performAll (t.screen.update message).2
  refine ⟨past', ?_, ?_, ?_⟩
  · rw [Scene.handle, h.screen]
    exact hmatches
  · rw [send_screen, hshown, hlength]
  · rw [send_screen, Scene.handle_errands, h.screen, hlength]
    exact hstands

theorem Stands.congr {screen screen' : Screen} {errands : List Errand} {run : Nat}
    (h : Stands screen errands run calls sent) (hgist : screen'.gist = screen.gist) :
    Stands screen' errands run calls sent := by
  have hrunning : screen'.running = screen.running := congrArg Gist.running hgist
  have hdone : screen'.done = screen.done := congrArg Gist.done hgist
  have hpending : screen'.pending = screen.pending := congrArg Gist.pending hgist
  cases h with
  | going hr hd hp he =>
      exact .going (hrunning.trans hr) (hdone.trans hd) (hpending.trans hp) he
  | asking hr hd hp he =>
      exact .asking (hrunning.trans hr) (hdone.trans hd) (hpending.trans hp) he
  | ended hr hp hcalls hmem hlast he =>
      exact .ended (hrunning.trans hr) (hpending.trans hp) (fun hd => hcalls (hdone.symm.trans hd))
        hmem hlast he

/-- A message that tells nothing of a run, and after which nothing is left to do. -/
theorem Mirrors.quiet (h : Mirrors t s past sent calls) {message : Screen.Message}
    (hgist : (t.screen.update message).1.gist = t.screen.gist)
    (heffects : (t.screen.update message).2.flatMap Screen.Effect.errands = []) :
    ∃ past', Mirrors (t.send message).1 (s.handle message) past' sent calls := by
  refine h.toMatches.handle ((congrArg Gist.source hgist).trans h.shown) ?_
  rw [heffects, List.append_nil]
  exact h.stands.congr hgist

theorem Mirrors.interrupt (h : Mirrors t s past sent calls) {k : Key} (hk : k.name = "ctrl+c") :
    ∃ past', Mirrors (t.send (.key k)).1 (s.handle (.key k)) past' sent calls := by
  have hupdate : t.screen.update (.key k) = _ := Screen.onKey_interrupt t.screen hk
  refine h.quiet (by rw [hupdate]) ?_
  rw [hupdate]
  cases t.screen.pending with
  | none => rfl
  | some p => rfl

theorem Mirrors.command (h : Mirrors t s past sent calls) (hpending : t.screen.pending = none)
    {k : Key} (hk : k.name ≠ "ctrl+c") (hrestart : t.screen.running = true ∨ k.name ≠ "r") :
    ∃ past', Mirrors (t.send (.key k)).1 (s.handle (.key k)) past' sent calls := by
  obtain ⟨hgist, heffects⟩ := Screen.gist_onKey_command hpending hk hrestart
  refine h.quiet hgist ?_
  change (t.screen.onKey k).2.flatMap _ = []
  rcases heffects with heffects | ⟨-, heffects⟩
  · rw [heffects]
    rfl
  · rw [heffects]
    rfl

/-- The shown run is waited for again. -/
theorem Mirrors.enter (h : Mirrors t s past sent calls) {p : Pending} {k : Key}
    (hrunning : t.screen.running = true) (hdone : t.screen.done = false)
    (hpending : t.screen.pending = some p) (herrands : s.errands = List.replicate calls .start)
    (hk : k.name = "enter") :
    ∃ past', Mirrors (t.send (.key k)).1 (s.handle (.key k)) past' sent calls := by
  have hkey : t.screen.update (.key k) = t.screen.onEnter p := Screen.onKey_enter hpending hk
  obtain ⟨hgist, heffects⟩ := Screen.gist_onEnter t.screen p
  rw [Screen.awaiting_of_source h.shown] at heffects
  rw [← hkey] at hgist heffects
  refine h.toMatches.handle ((congrArg Gist.source hgist).trans h.shown) ?_
  refine .going ((congrArg Gist.running hgist).trans hrunning)
    ((congrArg Gist.done hgist).trans hdone) (congrArg Gist.pending hgist) ?_
  rw [herrands, heffects]
  rfl

/-- One more run is asked for. -/
theorem Mirrors.restart (h : Mirrors t s past sent calls) {e : Event} {k : Key}
    (hrunning : t.screen.running = false) (hpending : t.screen.pending = none) (he : e ∈ sent)
    (hlast : e.isDone = true) (herrands : s.errands = List.replicate calls .start)
    (hk : k.name = "r") :
    ∃ past', Mirrors (t.send (.key k)).1 (s.handle (.key k)) past' sent (calls + 1) := by
  obtain ⟨hgist, heffects⟩ := Screen.gist_onKey_restart hpending hk hrunning
  refine h.toMatches.handle ((congrArg Gist.source hgist).trans h.shown) ?_
  refine .ended (congrArg Gist.running hgist) (congrArg Gist.pending hgist)
    (fun _ => Nat.succ_pos calls) he hlast ?_
  have hcalled : (t.screen.update (.key k)).2 = [.start] := heffects
  rw [herrands, hcalled, List.replicate_succ']
  rfl

/-- The scene can be seen as the stage. -/
def Mirrored (t : Stage) (s : Scene) : Prop := ∃ past sent calls, Mirrors t s past sent calls

theorem Mirrored.of_past (h : ∃ past, Mirrors t s past sent calls) : Mirrored t s := by
  obtain ⟨past, h⟩ := h
  exact ⟨past, sent, calls, h⟩

theorem Mirrored.key (h : Mirrored t s) (k : Key) :
    Mirrored (t.send (.key k)).1 (s.handle (.key k)) := by
  obtain ⟨past, sent, calls, h⟩ := h
  by_cases hinterrupt : k.name = "ctrl+c"
  · exact .of_past (h.interrupt hinterrupt)
  · cases h.stands with
    | going hrunning hdone hpending herrands =>
        exact .of_past (h.command hpending hinterrupt (.inl hrunning))
    | asking hrunning hdone hpending herrands =>
        by_cases henter : k.name = "enter"
        · exact .of_past (h.enter hrunning hdone hpending herrands henter)
        · obtain ⟨hgist, hnone⟩ := Screen.gist_onKey_pending hpending hinterrupt henter
          refine .of_past (h.quiet hgist ?_)
          change (t.screen.onKey k).2.flatMap _ = []
          rw [hnone]
          rfl
    | ended hrunning hpending hcalls hmem hlast herrands =>
        by_cases hrestart : k.name = "r"
        · exact .of_past (h.restart hrunning hpending hmem hlast herrands hrestart)
        · exact .of_past (h.command hpending hinterrupt (.inr hrestart))

/-- The message that an event makes on the stage is the one that it makes in the scene. -/
theorem Matches.deliver_eq (h : Matches t s past sent) (e : Event) :
    t.deliver e =
      ({ t with delivered := t.delivered + 1, prompted := t.prompted + prompts [e] }.send
        (Thread.message past.length sent e)).1 := by
  cases e with
  | output out => rfl
  | done failure => rfl
  | prompt r =>
      rw [deliver, h.runs, h.prompted]
      rfl

/-- The scene when the shown run has sent an event and the screen is about to be told. -/
def before (t : Stage) (s : Scene) (past : List Thread) (sent : List Event) (calls : Nat) : Scene :=
  { s with
    threads := past ++ [⟨t.answers, sent, t.delivered + 1⟩]
    errands := List.replicate calls .start }

/-- The shown run sends an event, and the screen gets it at once. -/
theorem Mirrors.passes (h : Mirrors t s past sent calls) {e : Event} {fuel : Nat}
    (herrands : s.errands = List.replicate calls .start ++ [.await past.length])
    (hdone : t.screen.done = false)
    (hnext : sent ++ [e] <+: heardSoFar fuel t.source t.steps t.answers) (rest : List Act) :
    s.play (.send past.length fuel :: .take calls :: .deliver calls :: rest) =
      ((t.before s past (sent ++ [e]) calls).handle
        (Thread.message past.length sent e)).play rest := by
  have hsend : s.act (.send past.length fuel) =
      some { s with threads := past ++ [⟨t.answers, sent ++ [e], t.delivered⟩] } := by
    obtain ⟨later, hlater⟩ := hnext
    have hroom : sent.length < t.delivered + Thread.capacity := by
      rw [h.delivered]
      exact Nat.lt_add_of_pos_right (by decide)
    simp [Scene.act, h.threads, Thread.send?, hroom, h.source_eq, h.steps_eq, ← hlater]
  have htake : Scene.act { s with threads := past ++ [⟨t.answers, sent ++ [e], t.delivered⟩] }
      (.take calls) = some { t.before s past (sent ++ [e]) calls with
        errands :=
          List.replicate calls .start ++ [.bring (Thread.message past.length sent e)] } := by
    simp [Scene.act, herrands, Thread.receive?, h.delivered, before]
  have hdeliver : Scene.act { t.before s past (sent ++ [e]) calls with
        errands := List.replicate calls .start ++ [.bring (Thread.message past.length sent e)] }
      (.deliver calls) = some ((t.before s past (sent ++ [e]) calls).handle
        (Thread.message past.length sent e)) := by
    simp [Scene.act, before, List.eraseIdx_append_of_length_le]
  have hlive : s.screen.done = false := by rw [h.screen, hdone]
  rw [Scene.play_cons hsend (by simp) hlive, Scene.play_cons htake (by simp) hlive,
    Scene.play_cons hdeliver (by simp) hlive]

/-- An output leaves the run waited for, a prompt waits for its answer, and the end is the end. -/
theorem stands_told {screen : Screen} {run : Nat} (hsource : screen.source = some run)
    (hrunning : screen.running = true) (hdone : screen.done = false)
    (hpending : screen.pending = none) (calls : Nat) (sent : List Event) (e : Event) :
    let (told, effects) := screen.update (Thread.message run sent e)
    told.source = some run ∧
      Stands told (List.replicate calls .start ++ effects.flatMap Screen.Effect.errands) run calls
        (sent ++ [e]) := by
  cases e with
  | output out =>
      have hgist := Screen.gist_append screen out
      have hawaits : screen.awaiting.flatMap Screen.Effect.errands = [.await run] := by
        rw [Screen.awaiting_of_source hsource]
        rfl
      refine ⟨(congrArg Gist.source hgist).trans hsource, ?_⟩
      exact .going ((congrArg Gist.running hgist).trans hrunning)
        ((congrArg Gist.done hgist).trans hdone) ((congrArg Gist.pending hgist).trans hpending)
        (congrArg _ hawaits)
  | prompt r => exact ⟨hsource, .asking hrunning hdone rfl (List.append_nil _)⟩
  | done failure =>
      obtain ⟨hgist, heffects⟩ := Screen.gist_onDone screen failure
      refine ⟨(congrArg Gist.source hgist).trans hsource, ?_⟩
      refine .ended (congrArg Gist.running hgist) (congrArg Gist.pending hgist) (fun hover => ?_)
        (List.mem_append_right _ List.mem_cons_self) rfl ?_
      · cases (congrArg Gist.done hgist).symm.trans hover
      · change _ ++ (screen.onDone failure).2.flatMap _ = _
        rw [heffects]
        exact List.append_nil _

theorem Mirrors.deliver (h : Mirrors t s past sent calls) {e : Event} {fuel : Nat}
    (hrunning : t.screen.running = true) (hpending : t.screen.pending = none)
    (hnext : sent ++ [e] <+: heardSoFar fuel t.source t.steps t.answers) :
    ∃ acts s' past', (∀ rest, s.play (acts ++ rest) = s'.play rest) ∧
      Mirrors (t.deliver e) s' past' (sent ++ [e]) calls := by
  cases h.stands with
  | asking _ _ hsome => cases hpending.symm.trans hsome
  | ended hstill => cases hrunning.symm.trans hstill
  | going _ hdone _ herrands =>
      have hbefore : Matches { t with
            delivered := t.delivered + 1, prompted := t.prompted + prompts [e] }
          (t.before s past (sent ++ [e]) calls) past (sent ++ [e]) := by
        refine ⟨h.source_eq, h.steps_eq, h.screen, h.runs, rfl, ?_, ?_, fuel, hnext⟩
        · rw [List.length_append, ← h.delivered]
          rfl
        · rw [prompts_append, ← h.prompted]
      obtain ⟨hshown, hstands⟩ := stands_told h.shown hrunning hdone hpending calls sent e
      obtain ⟨past', hmirrors⟩ := hbefore.handle hshown hstands
      rw [h.toMatches.deliver_eq e]
      exact ⟨[.send past.length fuel, .take calls, .deliver calls], _, past',
        h.passes herrands hdone hnext, hmirrors⟩

/-- Being shown does not change a run. -/
theorem deliver_run (t : Stage) (e : Event) :
    (t.deliver e).source = t.source ∧ (t.deliver e).steps = t.steps ∧
      (t.deliver e).answers = t.answers := by
  cases e with
  | output out =>
      rw [deliver_output]
      exact ⟨rfl, rfl, rfl⟩
  | prompt r => exact ⟨rfl, rfl, rfl⟩
  | done failure =>
      cases failure with
      | none => exact ⟨rfl, rfl, rfl⟩
      | some e => exact ⟨rfl, rfl, rfl⟩

theorem Mirrors.deliverAll (h : Mirrors t s past sent calls) {fuel : Nat} {rest : List Event}
    (hrest : sent ++ rest <+: heardSoFar fuel t.source t.steps t.answers) :
    ∃ acts s', s.play acts = some ([], s') ∧ Mirrored (t.deliverAll rest) s' := by
  induction rest generalizing t s past sent with
  | nil => exact ⟨[], s, rfl, past, sent, calls, h⟩
  | cons e rest ih =>
      cases h.stands with
      | asking hrunning hdone hpending herrands =>
          have hstays : t.deliverAll (e :: rest) = t := by
            rw [deliverAll.eq_def]
            simp [hpending]
          rw [hstays]
          exact ⟨[], s, rfl, past, sent, calls, h⟩
      | ended hrunning hpending hcalls hmem hlast herrands =>
          cases eq_nil_of_isDone hmem hlast hrest
      | going hrunning hdone hpending herrands =>
          rw [List.append_cons] at hrest
          obtain ⟨acts, s', past', hplay, hdelivered⟩ :=
            h.deliver hrunning hpending ((List.prefix_append _ rest).trans hrest)
          obtain ⟨hsource, hsteps, hanswers⟩ := t.deliver_run e
          rw [← hsource, ← hsteps, ← hanswers] at hrest
          obtain ⟨acts', s'', hplay', hmirrored⟩ := ih hdelivered hrest
          rw [deliverAll_cons hpending]
          exact ⟨acts ++ acts', s'', (hplay acts').trans hplay', hmirrored⟩

/-- What the stage does when it delivers the events of the shown run is a play of the scene. Nobody
types anything in it. -/
theorem Mirrored.pump (h : Mirrored t s) (fuel : Nat) :
    ∃ acts s', s.play acts = some ([], s') ∧ Mirrored (t.pump fuel) s' := by
  obtain ⟨past, sent, calls, h⟩ := h
  have hruns : t.runs ≠ 0 := by
    rw [h.runs]
    exact Nat.succ_ne_zero _
  rw [Stage.pump, if_neg hruns]
  cases hevents : eventsSoFar fuel t.source t.steps t.answers with
  | none => exact ⟨[], s, rfl, past, sent, calls, h⟩
  | some events =>
      obtain ⟨n, hheard⟩ := h.heard
      obtain ⟨rest, rfl⟩ := prefix_of_eventsSoFar hevents hheard
      have hrest : (sent ++ rest).drop t.delivered = rest := by
        rw [h.delivered, List.drop_left]
      have hnow : sent ++ rest <+: heardSoFar fuel t.source t.steps t.answers := by
        rw [heardSoFar_of_eventsSoFar hevents]
      dsimp only
      rw [hrest]
      exact h.deliverAll hnow

/-- A run that was asked for is started. -/
theorem Mirrored.start (h : Mirrored t s) (hrunning : t.screen.running = false)
    (hdone : t.screen.done = false) :
    ∃ acts s', s.enact acts = some s' ∧ Mirrored t.start.1 s' := by
  obtain ⟨past, sent, calls, h⟩ := h
  cases h.stands with
  | going hgoing => cases hrunning.symm.trans hgoing
  | asking hgoing => cases hrunning.symm.trans hgoing
  | ended _ hpending hcalls _ _ herrands =>
      obtain ⟨n, rfl⟩ := Nat.exists_eq_succ_of_ne_zero (Nat.ne_of_gt (hcalls hdone))
      have hlength : s.threads.length = t.runs := by
        rw [h.threads, h.runs, List.length_append]
        rfl
      have hbefore : Matches
          { t with runs := t.runs + 1, answers := [], delivered := 0, prompted := 0 }
          { s with threads := s.threads ++ [.new], errands := List.replicate n .start }
          s.threads [] := by
        refine ⟨h.source_eq, h.steps_eq, h.screen, ?_, rfl, rfl, rfl, 0, List.nil_prefix⟩
        rw [hlength]
      have hshown : (t.screen.update (.started t.runs)).1.source = some s.threads.length :=
        congrArg some hlength.symm
      have hstands : Stands (t.screen.update (.started t.runs)).1
          (List.replicate n .start ++ [.await t.runs]) s.threads.length n [] := by
        rw [hlength]
        exact .going rfl hdone hpending rfl
      have hacts : s.enact [.launch 0, .deliver 0] = some (Scene.handle
          { s with threads := s.threads ++ [.new], errands := List.replicate n .start }
          (.started t.runs)) := by
        simp [Scene.enact, Scene.act, herrands, List.replicate_succ, hlength]
      exact ⟨_, _, hacts, .of_past (hbefore.handle hshown hstands)⟩

/-- What is done to a stage. -/
inductive Cue where
  | key (key : Key)
  | size (width height : Int64)
  | pump (fuel : Nat)
  | start

/-- A run is started only where the screen waits for one. -/
def follow (t : Stage) : Cue → Stage
  | .key key => (t.send (.key key)).1
  | .size width height => (t.send (.size width height)).1
  | .pump fuel => t.pump fuel
  | .start => if t.screen.running || t.screen.done then t else t.start.1

/-- A stage whose screen knows its size, and on which the first run has started. -/
def opening (source : String) (steps : Int) (path : String) (width height : Int64) : Stage :=
  ((Stage.new source steps path).send (.size width height)).1.start.1

theorem mirrored_opening (source : String) (steps : Int) (path : String) (width height : Int64) :
    Mirrored (opening source steps path width height)
      (.opening source steps path width height) :=
  ⟨[], [], 0,
    { source_eq := rfl
      steps_eq := rfl
      screen := rfl
      runs := rfl
      threads := rfl
      delivered := rfl
      prompted := rfl
      heard := ⟨0, List.nil_prefix⟩
      shown := rfl
      stands := .going rfl rfl rfl rfl }⟩

theorem Mirrored.follow (h : Mirrored t s) (cue : Cue) :
    ∃ acts s', s.enact acts = some s' ∧ Mirrored (t.follow cue) s' := by
  cases cue with
  | key key => exact ⟨[.key key], _, rfl, h.key key⟩
  | size width height =>
      obtain ⟨past, sent, calls, h⟩ := h
      exact ⟨[.size width height], _, rfl, .of_past (h.quiet (Screen.gist_onSize ..) rfl)⟩
  | pump fuel =>
      obtain ⟨acts, s', hplay, hmirrored⟩ := h.pump fuel
      exact ⟨acts, s', Scene.enact_of_play hplay, hmirrored⟩
  | start =>
      rw [Stage.follow]
      split
      · exact ⟨[], s, rfl, h⟩
      · rename_i hwaits
        rw [Bool.or_eq_true, not_or, Bool.not_eq_true, Bool.not_eq_true] at hwaits
        exact h.start hwaits.1 hwaits.2

/-- Whatever is done to a stage, a scene can come to the same. -/
theorem Mirrored.followAll (h : Mirrored t s) (cues : List Cue) :
    ∃ acts s', s.enact acts = some s' ∧ Mirrored (cues.foldl Stage.follow t) s' := by
  induction cues generalizing t s with
  | nil => exact ⟨[], s, rfl, h⟩
  | cons cue cues ih =>
      obtain ⟨acts, s', hacts, hfirst⟩ := h.follow cue
      obtain ⟨acts', s'', hacts', hrest⟩ := ih hfirst
      refine ⟨acts ++ acts', s'', ?_, hrest⟩
      rw [Scene.enact, List.foldlM_append]
      exact (congrArg (· >>= _) hacts).trans hacts'

/-- Every screen that the stage shows is one that a scene can show. -/
theorem opening_enacts (source : String) (steps : Int) (path : String) (width height : Int64)
    (cues : List Cue) :
    ∃ acts s, (Scene.opening source steps path width height).enact acts = some s ∧
      s.screen = (cues.foldl follow (opening source steps path width height)).screen := by
  obtain ⟨acts, s, hacts, past, sent, calls, hmirrors⟩ :=
    (mirrored_opening source steps path width height).followAll cues
  exact ⟨acts, s, hacts, hmirrors.screen⟩

end Stage

end NumberedBasic
