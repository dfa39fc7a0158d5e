import NumberedBasic.Proofs.Screen.Scene

/-! Restarting a run. A restart is refused while a run goes on, but a run goes on for the screen
only from the message that it has started. Whoever waits for that message before asking for another
restart never has two runs at once; whoever does not can have them, both on one page. -/
namespace NumberedBasic
open Dialogue

def Act.isRestart : Act → Bool
  | .key k => k.name == "r"
  | _ => false

/-- The errand starts a run, or brings the message that it has started. -/
def Errand.isStart : Errand → Bool
  | .start => true
  | .bring (.started _) => true
  | _ => false

namespace Screen

/-- The message tells of a run that has started before. -/
def Message.isNews : Message → Bool
  | .output _ | .prompt _ _ | .poll | .done _ => true
  | _ => false

/-- The effect neither starts a run nor waits for one. -/
def Effect.isIdle : Effect → Bool
  | .answer _ _ | .quit => true
  | _ => false

end Screen

namespace Scene

/-- Lets the acts happen one after the other. -/
def enact (s : Scene) (acts : List Act) : Option Scene := acts.foldlM act s

/-- A run that was asked for has not yet been reported to have started. -/
def starting (s : Scene) : Bool := s.errands.any Errand.isStart

/-- Lets the acts happen, unless a restart is asked for while a run is being started. -/
def enactPatiently (s : Scene) : List Act → Option Scene
  | [] => some s
  | a :: rest =>
      if a.isRestart && s.starting then none
      else (s.act a).bind fun next => enactPatiently next rest

/-- The last run is over, and nothing is under way. -/
structure AtRest (s : Scene) : Prop where
  errands : s.errands = []
  running : s.screen.running = false
  done : s.screen.done = true
  pending : s.screen.pending = none
  balance : s.asked = s.ended

instance (s : Scene) : Decidable s.AtRest :=
  decidable_of_iff (s.errands = [] ∧ s.screen.running = false ∧ s.screen.done = true ∧
      s.screen.pending = none ∧ s.asked = s.ended)
    ⟨fun ⟨he, hr, hd, hp, hb⟩ => ⟨he, hr, hd, hp, hb⟩,
      fun h => ⟨h.errands, h.running, h.done, h.pending, h.balance⟩⟩

/-- The errands of a run that goes on. Nobody waits for it while a prompt is pending. -/
inductive Attends (s : Scene) (run : Nat) : Prop
  | waiting : s.errands = [.await run] → s.screen.pending = none → Attends s run
  | carrying {message : Screen.Message} : s.errands = [.bring message] → message.isNews = true →
      s.screen.pending = none → Attends s run
  | unattended : s.errands = [] → Attends s run

/-- Where a run stands that has been asked for once, from one end to the next. -/
inductive Course (s : Scene) : Prop
  | idle : s.errands = [] → s.screen.running = false → s.screen.pending = none →
      s.asked = s.ended → Course s
  | called : s.errands = [.start] → s.screen.running = false → s.screen.pending = none →
      s.screen.page = .empty → s.asked = s.ended + 1 → Course s
  | launched {run : Nat} : s.errands = [.bring (.started run)] → run + 1 = s.threads.length →
      s.screen.running = false → s.screen.pending = none → s.screen.page = .empty →
      s.asked = s.ended + 1 → Course s
  | going {run : Nat} : Attends s run → run + 1 = s.threads.length → s.screen.running = true →
      s.screen.source = some run → s.asked = s.ended + 1 → Course s

variable {s s' : Scene}

/-- Everything about a scene that its course depends on is the same. -/
structure Alike (s s' : Scene) : Prop where
  errands : s'.errands = s.errands
  threads : s'.threads.length = s.threads.length
  gist : s'.screen.gist = s.screen.gist
  asked : s'.asked = s.asked
  ended : s'.ended = s.ended

theorem Alike.pending (h : Alike s s') : s'.screen.pending = s.screen.pending :=
  congrArg Gist.pending h.gist

theorem Alike.running (h : Alike s s') : s'.screen.running = s.screen.running :=
  congrArg Gist.running h.gist

theorem Alike.page (h : Alike s s') : s'.screen.page = s.screen.page :=
  congrArg Gist.page h.gist

theorem Alike.source (h : Alike s s') : s'.screen.source = s.screen.source :=
  congrArg Gist.source h.gist

theorem Attends.congr {run : Nat} (h : Attends s run) (hs : Alike s s') : Attends s' run := by
  cases h with
  | waiting he hp => exact .waiting (hs.errands.trans he) (hs.pending.trans hp)
  | carrying he hnews hp => exact .carrying (hs.errands.trans he) hnews (hs.pending.trans hp)
  | unattended he => exact .unattended (hs.errands.trans he)

theorem Course.congr (h : Course s) (hs : Alike s s') : Course s' := by
  cases h with
  | idle he hr hp hb =>
      refine .idle (hs.errands.trans he) (hs.running.trans hr) (hs.pending.trans hp) ?_
      rw [hs.asked, hs.ended, hb]
  | called he hr hp hpage hb =>
      refine .called (hs.errands.trans he) (hs.running.trans hr) (hs.pending.trans hp)
        (hs.page.trans hpage) ?_
      rw [hs.asked, hs.ended, hb]
  | launched he hrun hr hp hpage hb =>
      refine .launched (hs.errands.trans he) (hrun.trans hs.threads.symm) (hs.running.trans hr)
        (hs.pending.trans hp) (hs.page.trans hpage) ?_
      rw [hs.asked, hs.ended, hb]
  | going hattends hrun hr hsource hb =>
      refine .going (hattends.congr hs) (hrun.trans hs.threads.symm) (hs.running.trans hr)
        (hs.source.trans hsource) ?_
      rw [hs.asked, hs.ended, hb]

theorem perform_idle (s : Scene) {effect : Screen.Effect} (h : effect.isIdle = true) :
    ∃ threads, s.perform effect = { s with threads } ∧ threads.length = s.threads.length := by
  cases effect with
  | await run => cases h
  | start => cases h
  | quit => exact ⟨s.threads, rfl, rfl⟩
  | answer channel answer =>
      cases channel with
      | direct id => exact ⟨s.threads, rfl, rfl⟩
      | run id ordinal => exact ⟨_, rfl, List.length_modify _ _ _⟩

theorem foldl_perform_idle (s : Scene) {effects : List Screen.Effect}
    (h : ∀ effect ∈ effects, effect.isIdle = true) :
    ∃ threads, effects.foldl perform s = { s with threads } ∧
      threads.length = s.threads.length := by
  induction effects generalizing s with
  | nil => exact ⟨s.threads, rfl, rfl⟩
  | cons effect effects ih =>
      obtain ⟨hfirst, hrest⟩ := List.forall_mem_cons.mp h
      obtain ⟨threads, heq, hlength⟩ := s.perform_idle hfirst
      obtain ⟨threads', heq', hlength'⟩ := ih (s.perform effect) hrest
      refine ⟨threads', ?_, ?_⟩
      · rw [List.foldl_cons, heq', heq]
      · rw [hlength', heq, hlength]

/-- A message that changes nothing and asks for nothing that takes time. -/
theorem alike_handle {message : Screen.Message}
    (hgist : (s.screen.update message).1.gist = s.screen.gist)
    (heffects : ∀ effect ∈ (s.screen.update message).2, effect.isIdle = true)
    (hends : message.ends = 0) : Alike s (s.handle message) := by
  obtain ⟨threads, heq, hlength⟩ := foldl_perform_idle (s.tell message) heffects
  rw [handle, heq]
  refine ⟨rfl, hlength, hgist, rfl, ?_⟩
  change s.ended + message.ends = s.ended
  rw [hends, Nat.add_zero]

theorem handle_interrupt {k : Key} (hk : k.name = "ctrl+c") : Alike s (s.handle (.key k)) := by
  have hupdate : s.screen.update (.key k) = _ := Screen.onKey_interrupt s.screen hk
  refine alike_handle (by rw [hupdate]) ?_ rfl
  rw [hupdate]
  refine List.forall_mem_append.mpr ⟨?_, by simp [Screen.Effect.isIdle]⟩
  cases s.screen.pending with
  | none => simp
  | some p => simp [Screen.Effect.isIdle]

/-- A prompt is answered, and the run goes on. -/
theorem Course.enter {run : Nat} {p : Pending} {k : Key} (herrands : s.errands = [])
    (hrun : run + 1 = s.threads.length) (hrunning : s.screen.running = true)
    (hsource : s.screen.source = some run) (hpending : s.screen.pending = some p)
    (hbalance : s.asked = s.ended + 1) (hk : k.name = "enter") :
    Course (s.handle (.key k)) := by
  have hkey : s.screen.update (.key k) = s.screen.onEnter p := Screen.onKey_enter hpending hk
  obtain ⟨hgist, heffects⟩ := Screen.gist_onEnter s.screen p
  have hawaiting := Screen.awaiting_of_source hsource
  rw [hawaiting] at heffects
  have hidle : (Screen.Effect.answer p.channel (.text s.screen.typed)).isIdle = true := rfl
  obtain ⟨threads, hanswer, hlength⟩ := (s.tell (.key k)).perform_idle hidle
  rw [handle_eq ((congrArg Prod.snd hkey).trans heffects), List.foldl_cons, hanswer]
  have hscreen : (s.tell (.key k)).screen.gist = (s.screen.onEnter p).1.gist :=
    congrArg (fun result => result.1.gist) hkey
  rw [hgist] at hscreen
  refine .going (.waiting ?_ (congrArg Gist.pending hscreen)) ?_
    ((congrArg Gist.running hscreen).trans hrunning)
    ((congrArg Gist.source hscreen).trans hsource) hbalance
  · change s.errands ++ [.await run] = _
    rw [herrands]
    rfl
  · exact hrun.trans hlength.symm

/-- While a run goes on, keys cannot start another one. -/
theorem Course.key_going {run : Nat} (h : Attends s run) (hrun : run + 1 = s.threads.length)
    (hrunning : s.screen.running = true) (hsource : s.screen.source = some run)
    (hbalance : s.asked = s.ended + 1) {k : Key} (hk : k.name ≠ "ctrl+c") :
    Course (s.handle (.key k)) := by
  have hcourse : Course s := .going h hrun hrunning hsource hbalance
  cases hpending : s.screen.pending with
  | none =>
      obtain ⟨hgist, heffects⟩ := Screen.gist_onKey_command hpending hk (.inl hrunning)
      refine hcourse.congr (alike_handle hgist ?_ rfl)
      change ∀ effect ∈ (s.screen.onKey k).2, _
      rcases heffects with heffects | ⟨-, heffects⟩
      · simp [heffects]
      · simp [heffects, Screen.Effect.isIdle]
  | some p =>
      by_cases henter : k.name = "enter"
      · cases h with
        | waiting _ hnone => cases hpending.symm.trans hnone
        | carrying _ _ hnone => cases hpending.symm.trans hnone
        | unattended he => exact .enter he hrun hrunning hsource hpending hbalance henter
      · obtain ⟨hgist, heffects⟩ := Screen.gist_onKey_pending hpending hk henter
        refine hcourse.congr (alike_handle hgist ?_ rfl)
        change ∀ effect ∈ (s.screen.onKey k).2, _
        simp [heffects]

/-- While no run goes on, only a restart asks for one. -/
theorem Course.key_quiet (h : Course s) (hpending : s.screen.pending = none) {k : Key}
    (hk : k.name ≠ "ctrl+c") (hrestart : k.name ≠ "r") : Course (s.handle (.key k)) := by
  obtain ⟨hgist, heffects⟩ := Screen.gist_onKey_command hpending hk (.inr hrestart)
  refine h.congr (alike_handle hgist ?_ rfl)
  change ∀ effect ∈ (s.screen.onKey k).2, _
  rcases heffects with heffects | ⟨-, heffects⟩
  · simp [heffects]
  · simp [heffects, Screen.Effect.isIdle]

/-- A restart begins with an empty page. -/
theorem Course.restart (herrands : s.errands = []) (hrunning : s.screen.running = false)
    (hpending : s.screen.pending = none) (hbalance : s.asked = s.ended) {k : Key}
    (hk : k.name = "r") : Course (s.handle (.key k)) := by
  obtain ⟨hgist, heffects⟩ := Screen.gist_onKey_restart hpending hk hrunning
  rw [handle_eq (by exact heffects)]
  refine .called ?_ (congrArg Gist.running hgist) (congrArg Gist.pending hgist)
    (congrArg Gist.page hgist) ?_
  · change s.errands ++ [.start] = _
    rw [herrands]
    rfl
  · change s.asked + 1 = s.ended + 1
    rw [hbalance]

theorem Course.key (h : Course s) {k : Key} (hrestart : k.name = "r" → s.starting = false) :
    Course (s.handle (.key k)) := by
  by_cases hk : k.name = "ctrl+c"
  · exact h.congr (handle_interrupt hk)
  · have hcourse := h
    cases h with
    | idle he hr hp hb =>
        by_cases hname : k.name = "r"
        · exact .restart he hr hp hb hname
        · exact hcourse.key_quiet hp hk hname
    | called he hr hp hpage hb =>
        refine hcourse.key_quiet hp hk fun hname => ?_
        have hstarting := hrestart hname
        simp [starting, he, Errand.isStart] at hstarting
    | launched he hrun hr hp hpage hb =>
        refine hcourse.key_quiet hp hk fun hname => ?_
        have hstarting := hrestart hname
        simp [starting, he, Errand.isStart] at hstarting
    | going hattends hrun hr hsource hb => exact .key_going hattends hrun hr hsource hb hk

/-- Something is under way, and no prompt is pending. -/
theorem Course.of_errand (h : Course s) {i : Nat} {e : Errand} (he : s.errands[i]? = some e) :
    i = 0 ∧ s.errands = [e] ∧ s.screen.pending = none := by
  have hnone : s.errands ≠ [] := by
    intro hnil
    rw [hnil] at he
    cases he
  have honly : ∀ {x : Errand}, s.errands = [x] → i = 0 ∧ s.errands = [e] := by
    intro x hx
    rw [hx, List.getElem?_singleton] at he
    split at he
    · cases he
      exact ⟨‹i = 0›, hx⟩
    · cases he
  cases h with
  | idle hx => exact absurd hx hnone
  | called hx hr hp => exact ⟨(honly hx).1, (honly hx).2, hp⟩
  | launched hx hrun hr hp => exact ⟨(honly hx).1, (honly hx).2, hp⟩
  | going hattends =>
      cases hattends with
      | waiting hx hp => exact ⟨(honly hx).1, (honly hx).2, hp⟩
      | carrying hx hnews hp => exact ⟨(honly hx).1, (honly hx).2, hp⟩
      | unattended hx => exact absurd hx hnone

/-- Whoever waits for a run waits for the last one, and it goes on. -/
theorem Course.of_await (h : Course s) {run : Nat} (he : s.errands = [.await run]) :
    run + 1 = s.threads.length ∧ s.screen.running = true ∧ s.screen.source = some run ∧
      s.asked = s.ended + 1 := by
  cases h with
  | idle hx => cases he.symm.trans hx
  | called hx => cases he.symm.trans hx
  | launched hx => cases he.symm.trans hx
  | going hattends hrun hr hsource hb =>
      cases hattends with
      | waiting hx =>
          cases he.symm.trans hx
          exact ⟨hrun, hr, hsource, hb⟩
      | carrying hx => cases he.symm.trans hx
      | unattended hx => cases he.symm.trans hx

/-- News of a run never start another one; the last of them ends it. -/
theorem Course.news {run : Nat} {message : Screen.Message} (hnews : message.isNews = true)
    (hpending : s.screen.pending = none) (hrun : run + 1 = s.threads.length)
    (hrunning : s.screen.running = true) (hsource : s.screen.source = some run)
    (hbalance : s.asked = s.ended + 1) :
    Course ({ s with errands := [] }.handle message) := by
  have hawaiting := Screen.awaiting_of_source hsource
  cases message with
  | size width height => cases hnews
  | started run => cases hnews
  | key k => cases hnews
  | output out =>
      have heffects : (s.screen.update (.output out)).2 = [.await run] := hawaiting
      have hgist : (s.screen.update (.output out)).1.gist = _ := Screen.gist_append s.screen out
      rw [handle_eq (by exact heffects)]
      exact .going (.waiting rfl ((congrArg Gist.pending hgist).trans hpending)) hrun
        ((congrArg Gist.running hgist).trans hrunning)
        ((congrArg Gist.source hgist).trans hsource) hbalance
  | prompt r channel =>
      have heffects : (s.screen.update (.prompt r channel)).2 = [] := rfl
      rw [handle_eq (by exact heffects)]
      exact .going (.unattended rfl) hrun hrunning hsource hbalance
  | poll =>
      have heffects : (s.screen.update .poll).2 = [.await run] := by
        simp [Screen.update, Screen.onPoll, hrunning, hpending, hawaiting]
      rw [handle_eq (by exact heffects)]
      exact .going (.waiting rfl hpending) hrun hrunning hsource hbalance
  | done failure =>
      obtain ⟨hgist, heffects⟩ := Screen.gist_onDone s.screen failure
      rw [handle_eq (by exact heffects)]
      exact .idle rfl (congrArg Gist.running hgist) (congrArg Gist.pending hgist) hbalance

theorem Course.deliver (h : Course s) {message : Screen.Message}
    (he : s.errands = [.bring message]) : Course ({ s with errands := [] }.handle message) := by
  cases h with
  | idle hx => cases he.symm.trans hx
  | called hx => cases he.symm.trans hx
  | launched hx hrun hr hp hpage hb =>
      cases he.symm.trans hx
      exact .going (.waiting rfl hp) hrun rfl rfl hb
  | going hattends hrun hr hsource hb =>
      cases hattends with
      | waiting hx => cases he.symm.trans hx
      | carrying hx hnews hp =>
          cases he.symm.trans hx
          exact .news hnews hp hrun hr hsource hb
      | unattended hx => cases he.symm.trans hx

theorem isNews_message (run : Nat) (received : List Event) (e : Event) :
    (Thread.message run received e).isNews = true := by
  cases e <;> rfl

/-- One act leads from one stage of the course to another. -/
theorem Course.act (h : Course s) {a : Act} (ha : a.isRestart = true → s.starting = false)
    (hact : s.act a = some s') : Course s' := by
  cases leads_of_act hact with
  | key k => exact h.key fun hname => ha (by simp [Act.isRestart, hname])
  | size width height =>
      refine h.congr (alike_handle (Screen.gist_onSize ..) ?_ rfl)
      intro effect heffect
      cases heffect
  | send hx hsend => exact h.congr ⟨rfl, List.length_set, rfl, rfl, rfl⟩
  | launch he =>
      obtain ⟨rfl, hstart, hpending⟩ := h.of_errand he
      cases h with
      | idle hx => cases hstart.symm.trans hx
      | called hx hr hp hpage hb =>
          rw [hstart]
          exact .launched rfl (by simp) hr hp hpage hb
      | launched hx => cases hstart.symm.trans hx
      | going hattends =>
          cases hattends with
          | waiting hx => cases hstart.symm.trans hx
          | carrying hx => cases hstart.symm.trans hx
          | unattended hx => cases hstart.symm.trans hx
  | @take i run t t' message he hx hreceive =>
      obtain ⟨rfl, hawait, hpending⟩ := h.of_errand he
      obtain ⟨hrun, hr, hsource, hb⟩ := h.of_await hawait
      obtain ⟨e, -, heq⟩ := Option.map_eq_some_iff.mp hreceive
      cases heq
      rw [hawait]
      refine .going (.carrying rfl (isNews_message ..) hpending) ?_ hr hsource hb
      rw [List.length_set]
      exact hrun
  | lapse he =>
      obtain ⟨rfl, hawait, hpending⟩ := h.of_errand he
      obtain ⟨hrun, hr, hsource, hb⟩ := h.of_await hawait
      rw [hawait]
      exact .going (.carrying rfl rfl hpending) hrun hr hsource hb
  | close he hx hspent =>
      obtain ⟨rfl, hawait, hpending⟩ := h.of_errand he
      obtain ⟨hrun, hr, hsource, hb⟩ := h.of_await hawait
      rw [hawait]
      exact .going (.unattended rfl) hrun hr hsource hb
  | deliver he =>
      obtain ⟨rfl, hbring, hpending⟩ := h.of_errand he
      rw [hbring]
      exact h.deliver hbring

theorem Course.enactPatiently (h : Course s) {acts : List Act}
    (hacts : s.enactPatiently acts = some s') : Course s' := by
  induction acts generalizing s with
  | nil =>
      cases hacts
      exact h
  | cons a acts ih =>
      rw [Scene.enactPatiently] at hacts
      split at hacts
      · cases hacts
      · rename_i hpatient
        obtain ⟨next, hnext, hrest⟩ := Option.bind_eq_some_iff.mp hacts
        refine ih (h.act (fun ha => ?_) hnext) hrest
        simpa [ha] using hpatient

/-- After a finished run there is never more than one run that has been asked for and not been
reported to have ended, if nobody asks for a restart while a run is being started. A run that is
being started finds an empty page, and only the last run is waited for. -/
theorem enactPatiently_asked_le (h : s.AtRest) {acts : List Act}
    (hacts : s.enactPatiently acts = some s') :
    s'.asked ≤ s'.ended + 1 ∧ (s'.starting = true → s'.screen.page = .empty) ∧
      ∀ run, .await run ∈ s'.errands → run + 1 = s'.threads.length := by
  have hcourse : Course s := .idle h.errands h.running h.pending h.balance
  cases hcourse.enactPatiently hacts with
  | idle he hr hp hb => exact ⟨by omega, by simp [starting, he], by simp [he]⟩
  | called he hr hp hpage hb => exact ⟨by omega, fun _ => hpage, by simp [he]⟩
  | launched he hrun hr hp hpage hb => exact ⟨by omega, fun _ => hpage, by simp [he]⟩
  | going hattends hrun hr hsource hb =>
      refine ⟨by omega, ?_⟩
      cases hattends with
      | waiting he => exact ⟨by simp [starting, he, Errand.isStart], by simp [he, hrun]⟩
      | @carrying message he hnews =>
          refine ⟨?_, by simp [he]⟩
          cases message with
          | started run => cases hnews
          | _ => simp [starting, he, Errand.isStart]
      | unattended he => exact ⟨by simp [starting, he], by simp [he]⟩

/-- A run that prints a row, from its start to its end. -/
def onceThrough : List Act := [.send 0 9, .take 0, .deliver 0, .send 0 9, .take 0, .deliver 0]

theorem enactPatiently_asked_le_again :
    ∃ s s', (opening "10 print 1\n20 end" 0 "prog" 40 10).enact onceThrough = some s ∧ s.AtRest ∧
      s.enactPatiently [.key (.ofName "r"), .launch 0, .deliver 0, .key (.ofName "r"), .send 1 9,
        .take 0, .deliver 0] = some s' ∧
      s'.screen.page = ⟨["1"], ""⟩ ∧ s'.asked ≤ s'.ended + 1 := by
  have hruns : ((opening "10 print 1\n20 end" 0 "prog" 40 10).enact onceThrough).map (fun s =>
      (decide s.AtRest, (s.enactPatiently [.key (.ofName "r"), .launch 0, .deliver 0,
        .key (.ofName "r"), .send 1 9, .take 0, .deliver 0]).map (·.screen.page))) =
      some (true, some ⟨["1"], ""⟩) := by
    decide +kernel
  obtain ⟨s, hs, heq⟩ := Option.map_eq_some_iff.mp hruns
  obtain ⟨hrest, hsome⟩ := Prod.mk.inj heq
  obtain ⟨s', hs', hpage⟩ := Option.map_eq_some_iff.mp hsome
  have hrest := of_decide_eq_true hrest
  exact ⟨s, s', hs, hrest, hs', hpage, (enactPatiently_asked_le hrest hs').1⟩

/-- Two restarts, one right after the other, start two runs, and both of them write on the page. -/
theorem restart_twice_overlaps :
    ∃ s s', (opening "10 print 1\n20 end" 0 "prog" 40 10).enact onceThrough = some s ∧ s.AtRest ∧
      s.enact [.key (.ofName "r"), .key (.ofName "r"), .launch 0, .launch 1, .deliver 0, .send 1 9,
        .take 1, .deliver 1, .deliver 0, .send 2 9, .take 1, .deliver 1] = some s' ∧
      s'.asked = s'.ended + 2 ∧ s'.screen.page = ⟨["1", "1"], ""⟩ := by
  have hruns : ((opening "10 print 1\n20 end" 0 "prog" 40 10).enact onceThrough).map (fun s =>
      (decide s.AtRest, (s.enact [.key (.ofName "r"), .key (.ofName "r"), .launch 0, .launch 1,
        .deliver 0, .send 1 9, .take 1, .deliver 1, .deliver 0, .send 2 9, .take 1,
        .deliver 1]).map fun s' => (decide (s'.asked = s'.ended + 2), s'.screen.page))) =
      some (true, some (true, ⟨["1", "1"], ""⟩)) := by
    decide +kernel
  obtain ⟨s, hs, heq⟩ := Option.map_eq_some_iff.mp hruns
  obtain ⟨hrest, hsome⟩ := Prod.mk.inj heq
  obtain ⟨s', hs', heq'⟩ := Option.map_eq_some_iff.mp hsome
  obtain ⟨hasked, hpage⟩ := Prod.mk.inj heq'
  exact ⟨s, s', hs, of_decide_eq_true hrest, hs', of_decide_eq_true hasked, hpage⟩

end Scene

end NumberedBasic
