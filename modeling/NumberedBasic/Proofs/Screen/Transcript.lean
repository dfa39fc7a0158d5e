import Mathlib.Data.List.Infix
import NumberedBasic.Proofs.Screen.Scene

/-! A run on the screen. Whatever the order in which the run, the messages and the keys have their
turn, the screen waits for the run in one place at a time, every prompt gets the answer that was
typed for it, and in the end the page holds what the run has printed and what was typed. -/
namespace NumberedBasic
open Dialogue

namespace Dialogue

/-- What an answer leaves on the page. -/
def Answer.echo : Answer → List Output
  | .text value => [⟨value, true⟩]
  | .abort => []

/-- What the events leave on the page, with every answer behind the prompt that it answers. -/
def records (style : String → String) : List Event → List Answer → List Output
  | [], _ => []
  | .output out :: rest, answers => out :: records style rest answers
  | .prompt _ :: rest, answers =>
      answers.head?.toList.flatMap Answer.echo ++ records style rest answers.tail
  | .done failure :: rest, answers =>
      failure.toList.map (Screen.failureRow style) ++ records style rest answers

variable {style : String → String}

theorem records_append (u v : List Event) (answers : List Answer) :
    records style (u ++ v) answers =
      records style u answers ++ records style v (answers.drop (prompts u)) := by
  induction u generalizing answers with
  | nil => rfl
  | cons e u ih =>
      cases e with
      | output out => simp [records, ih answers]
      | prompt r => simp [records, ih answers.tail, Nat.add_comm]
      | done failure => simp [records, ih answers]

/-- Answers to later prompts do not show. -/
theorem records_answers (u : List Event) {answers : List Answer} (h : prompts u ≤ answers.length)
    (more : List Answer) : records style u (answers ++ more) = records style u answers := by
  induction u generalizing answers with
  | nil => rfl
  | cons e u ih =>
      cases e with
      | output out =>
          rw [prompts_output] at h
          simp [records, ih h]
      | prompt r =>
          cases answers with
          | nil => simp at h
          | cons answer answers =>
              simp only [prompts_prompt, List.length_cons, Nat.add_le_add_iff_right] at h
              simp [records, ih h]
      | done failure =>
          rw [prompts_done] at h
          simp [records, ih h]

end Dialogue

/-- The acts that a run is not safe from. -/
def Act.isInterrupt : Act → Bool
  | .key k => k.name == "ctrl+c"
  | _ => false

namespace Errand

/-- The errand waits for a run, or brings what came of it. -/
def isWait : Errand → Bool
  | .await _ => true
  | .bring (.started _) => false
  | .bring _ => true
  | .start => false

def isPrompt : Errand → Bool
  | .bring (.prompt _ _) => true
  | _ => false

end Errand

namespace Scene

/-- The answer that an act gives. -/
def typedBy (s : Scene) : Act → List String
  | .key key => if key.name = "enter" ∧ s.screen.pending.isSome then [s.screen.typed] else []
  | _ => []

/-- Lets the acts happen one after the other as long as the run goes on, and collects the answers
that they give. -/
def play (s : Scene) : List Act → Option (List String × Scene)
  | [] => some ([], s)
  | a :: rest =>
      if s.screen.done || a.isInterrupt then none
      else do
        let next ← s.act a
        let (typed, final) ← play next rest
        some (s.typedBy a ++ typed, final)

/-- How many errands wait for a run. -/
def waits (s : Scene) : Nat := s.errands.countP Errand.isWait

/-- How many prompts have been received and not been answered. -/
def unanswered (s : Scene) : Nat :=
  s.errands.countP Errand.isPrompt + s.screen.pending.toList.length

/-- Where the conversation stands when the screen has been told of the given events. -/
inductive Phase (style : String → String) (typed : List String) (s : Scene) (t : Thread)
    (u : List Event) : Prop
  | waiting {e : Errand} : s.errands = [e] → e = .await 0 ∨ e = .bring .poll →
      t.received = u.length → prompts u = typed.length → (∀ x ∈ u, x.isDone = false) →
      s.screen.gist =
        ⟨style, some 0, true, false, none, none, Page.empty.writeAll (records style u t.answers)⟩ →
      Phase style typed s t u
  | carrying {e : Event} : s.errands = [.bring (Thread.message 0 u e)] →
      t.sent[u.length]? = some e → t.received = u.length + 1 → prompts u = typed.length →
      (∀ x ∈ u, x.isDone = false) →
      s.screen.gist =
        ⟨style, some 0, true, false, none, none, Page.empty.writeAll (records style u t.answers)⟩ →
      Phase style typed s t u
  | asking {front : List Event} {r : Request} : s.errands = [] → u = front ++ [.prompt r] →
      t.received = u.length → prompts front = typed.length → (∀ x ∈ u, x.isDone = false) →
      s.screen.gist = ⟨style, some 0, true, false, none, some ⟨r, .run 0 typed.length⟩,
        Page.empty.writeAll (records style u t.answers)⟩ →
      Phase style typed s t u
  | finished {front : List Event} {failure : Option Failure} : s.errands = [] →
      u = front ++ [.done failure] → t.received = u.length → prompts u = typed.length →
      s.screen.gist = ⟨style, some 0, false, true, failure, none,
        Page.empty.writeAll (records style u t.answers)⟩ →
      Phase style typed s t u

/-- The screen has been told of the first events of the only run, whose answers are those that were
typed. -/
structure Tells (source : String) (steps : Int) (style : String → String) (typed : List String)
    (s : Scene) (t : Thread) (u : List Event) : Prop where
  source_eq : s.source = source
  steps_eq : s.steps = steps
  threads : s.threads = [t]
  answers : t.answers = typed.map .text
  heard : ∃ fuel, t.sent <+: heardSoFar fuel source steps t.answers
  told : u <+: t.sent
  phase : Phase style typed s t u

variable {source : String} {steps : Int} {style : String → String} {typed : List String}
  {s s' : Scene} {t : Thread} {u : List Event}

theorem tells_opening (source : String) (steps : Int) (path : String) (width height : Int64)
    (style : String → String) :
    Tells source steps style [] (opening source steps path width height style) .new [] where
  source_eq := rfl
  steps_eq := rfl
  threads := rfl
  answers := rfl
  heard := ⟨0, List.nil_prefix⟩
  told := List.nil_prefix
  phase := .waiting rfl (.inl rfl) rfl rfl (by simp) rfl

theorem Phase.congr (h : Phase style typed s t u) (herrands : s'.errands = s.errands)
    (hgist : s'.screen.gist = s.screen.gist) : Phase style typed s' t u := by
  cases h with
  | waiting he hwait hreceived hprompts hlive hscreen =>
      exact .waiting (herrands.trans he) hwait hreceived hprompts hlive (hgist.trans hscreen)
  | carrying he hnext hreceived hprompts hlive hscreen =>
      exact .carrying (herrands.trans he) hnext hreceived hprompts hlive (hgist.trans hscreen)
  | asking he hu hreceived hprompts hlive hscreen =>
      exact .asking (herrands.trans he) hu hreceived hprompts hlive (hgist.trans hscreen)
  | finished he hu hreceived hprompts hscreen =>
      exact .finished (herrands.trans he) hu hreceived hprompts (hgist.trans hscreen)

/-- A message that tells nothing of the run and asks for nothing. -/
theorem Tells.quiet (h : Tells source steps style typed s t u) {message : Screen.Message}
    (hgist : (s.screen.update message).1.gist = s.screen.gist)
    (heffects : (s.screen.update message).2 = []) :
    Tells source steps style typed (s.handle message) t u := by
  rw [handle_eq heffects]
  exact ⟨h.source_eq, h.steps_eq, h.threads, h.answers, h.heard, h.told, h.phase.congr rfl hgist⟩

/-- A key that is pressed while no prompt is pending changes nothing that matters. -/
theorem Tells.command (h : Tells source steps style typed s t u)
    (hpending : s.screen.pending = none) (hrunning : s.screen.running = true) {k : Key}
    (hk : k.name ≠ "ctrl+c") :
    Tells source steps style (typed ++ s.typedBy (.key k)) (s.handle (.key k)) t u := by
  obtain ⟨hgist, heffects⟩ := Screen.gist_onKey_command hpending hk (.inl hrunning)
  have hnone : (s.screen.onKey k).2 = [] := by
    refine heffects.resolve_right fun hquit => ?_
    rw [hrunning] at hquit
    cases hquit.1
  have htyped : s.typedBy (.key k) = [] := by simp [typedBy, hpending]
  rw [htyped, List.append_nil]
  exact h.quiet hgist hnone

/-- The answer goes to the run and is echoed behind the prompt. -/
theorem Tells.enter (h : Tells source steps style typed s t u) {r : Request} {front : List Event}
    (herrands : s.errands = []) (hu : u = front ++ [.prompt r]) (hreceived : t.received = u.length)
    (hprompts : prompts front = typed.length) (hlive : ∀ x ∈ u, x.isDone = false)
    (hgist : s.screen.gist = ⟨style, some 0, true, false, none, some ⟨r, .run 0 typed.length⟩,
      Page.empty.writeAll (records style u t.answers)⟩) {k : Key} (hk : k.name = "enter") :
    Tells source steps style (typed ++ [s.screen.typed]) (s.handle (.key k))
      { t with answers := t.answers ++ [.text s.screen.typed] } u := by
  have hpending : s.screen.pending = some ⟨r, .run 0 typed.length⟩ := congrArg Gist.pending hgist
  have hsource : s.screen.source = some 0 := congrArg Gist.source hgist
  have hkey : s.screen.update (.key k) = s.screen.onEnter ⟨r, .run 0 typed.length⟩ :=
    Screen.onKey_enter hpending hk
  obtain ⟨hscreen, heffects⟩ := Screen.gist_onEnter s.screen ⟨r, .run 0 typed.length⟩
  rw [Screen.awaiting_of_source hsource] at heffects
  have hlength : t.answers.length = typed.length := by rw [h.answers, List.length_map]
  have hanswer : t.answer typed.length (.text s.screen.typed) =
      { t with answers := t.answers ++ [.text s.screen.typed] } := by
    rw [Thread.answer, if_pos hlength.symm]
  have hrecords : records style u (t.answers ++ [.text s.screen.typed]) =
      records style u t.answers ++ [⟨s.screen.typed, true⟩] := by
    have hfront : prompts front ≤ t.answers.length := Nat.le_of_eq (hprompts.trans hlength.symm)
    rw [hu, records_append, records_append, records_answers front hfront, hprompts, ← hlength]
    simp [records, Answer.echo]
  rw [handle_eq ((congrArg Prod.snd hkey).trans heffects)]
  refine ⟨h.source_eq, h.steps_eq, ?_, ?_, ?_, h.told, ?_⟩
  · change (s.threads.modify 0 (·.answer typed.length (.text s.screen.typed))) = _
    rw [h.threads, ← hanswer]
    rfl
  · rw [h.answers, List.map_append]
    rfl
  · obtain ⟨fuel, hheard⟩ := h.heard
    exact ⟨fuel, hheard.trans (heardSoFar_grows fuel 0 source steps t.answers _)⟩
  · refine .waiting ?_ (.inl rfl) hreceived ?_ hlive ?_
    · change s.errands ++ [.await 0] = _
      rw [herrands]
      rfl
    · rw [hu, prompts_append, hprompts, List.length_append]
      rfl
    · have hpage : s.screen.page = Page.empty.writeAll (records style u t.answers) :=
        congrArg Gist.page hgist
      change (s.screen.update (.key k)).1.gist = _
      rw [hkey, hscreen, hpage, hgist, hrecords, Page.writeAll_append]
      rfl

/-- Only Enter answers a prompt, and it does so with what was typed. -/
theorem Tells.key (h : Tells source steps style typed s t u) (hdone : s.screen.done = false)
    {k : Key} (hk : k.name ≠ "ctrl+c") :
    ∃ t', Tells source steps style (typed ++ s.typedBy (.key k)) (s.handle (.key k)) t' u := by
  cases h.phase with
  | waiting _ _ _ _ _ hgist =>
      exact ⟨t, h.command (congrArg Gist.pending hgist) (congrArg Gist.running hgist) hk⟩
  | carrying _ _ _ _ _ hgist =>
      exact ⟨t, h.command (congrArg Gist.pending hgist) (congrArg Gist.running hgist) hk⟩
  | asking herrands hu hreceived hprompts hlive hgist =>
      have hpending := congrArg Gist.pending hgist
      change s.screen.pending = _ at hpending
      by_cases henter : k.name = "enter"
      · have htyped : s.typedBy (.key k) = [s.screen.typed] := by
          simp [typedBy, henter, hpending]
        rw [htyped]
        exact ⟨_, h.enter herrands hu hreceived hprompts hlive hgist henter⟩
      · have htyped : s.typedBy (.key k) = [] := by simp [typedBy, henter]
        obtain ⟨hsame, hnone⟩ := Screen.gist_onKey_pending hpending hk henter
        rw [htyped, List.append_nil]
        exact ⟨t, h.quiet hsame hnone⟩
  | finished _ _ _ _ hgist =>
      have hover : s.screen.done = true := congrArg Gist.done hgist
      rw [hdone] at hover
      cases hover

theorem grows_by_next {v w : List Event} {e : Event} (h : v <+: w)
    (hnext : w[v.length]? = some e) : v ++ [e] <+: w := by
  obtain ⟨hlt, rfl⟩ := List.getElem?_eq_some_iff.mp hnext
  exact List.concat_get_prefix h hlt

/-- What a run sends next is what it would have sent next in any case. -/
theorem heard_of_send {t' : Thread} {fuel n : Nat}
    (hheard : t.sent <+: heardSoFar n source steps t.answers)
    (hsend : t.send? fuel source steps = some t') :
    ∃ e, t' = { t with sent := t.sent ++ [e] } ∧
      t.sent ++ [e] <+: heardSoFar (n + fuel) source steps t.answers := by
  unfold Thread.send? at hsend
  split at hsend
  · obtain ⟨e, he, rfl⟩ := Option.map_eq_some_iff.mp hsend
    refine ⟨e, rfl, ?_⟩
    -- The two traces were taken at different bounds: both go on to the one at their sum.
    have hmore : heardSoFar n source steps t.answers <+:
        heardSoFar (n + fuel) source steps t.answers := by
      simpa using heardSoFar_grows n fuel source steps t.answers []
    have hmore' : heardSoFar fuel source steps t.answers <+:
        heardSoFar (n + fuel) source steps t.answers := by
      simpa [Nat.add_comm] using heardSoFar_grows fuel n source steps t.answers []
    obtain ⟨hlt, -⟩ := List.getElem?_eq_some_iff.mp he
    obtain ⟨w, hw⟩ := hmore'
    have hnext : (heardSoFar (n + fuel) source steps t.answers)[t.sent.length]? = some e := by
      rw [← hw, List.getElem?_append_left hlt, he]
    exact grows_by_next (hheard.trans hmore) hnext
  · cases hsend

theorem Tells.send (h : Tells source steps style typed s t u) {t' : Thread} {fuel : Nat}
    (hsend : t.send? fuel source steps = some t') :
    Tells source steps style typed { s with threads := [t'] } t' u := by
  obtain ⟨n, hheard⟩ := h.heard
  obtain ⟨e, rfl, hmore⟩ := heard_of_send hheard hsend
  refine ⟨h.source_eq, h.steps_eq, rfl, h.answers, ⟨n + fuel, hmore⟩,
    h.told.trans (List.prefix_append _ _), ?_⟩
  cases h.phase with
  | waiting he hwait hreceived hprompts hlive hscreen =>
      exact .waiting he hwait hreceived hprompts hlive hscreen
  | carrying he hnext hreceived hprompts hlive hscreen =>
      refine .carrying he ?_ hreceived hprompts hlive hscreen
      obtain ⟨hlt, -⟩ := List.getElem?_eq_some_iff.mp hnext
      rw [List.getElem?_append_left hlt, hnext]
  | asking he hu hreceived hprompts hlive hscreen =>
      exact .asking he hu hreceived hprompts hlive hscreen
  | finished he hu hreceived hprompts hscreen => exact .finished he hu hreceived hprompts hscreen

/-- Where an errand waits, the screen has been told of all that was received. -/
theorem Tells.of_await (h : Tells source steps style typed s t u)
    (herrands : s.errands = [.await 0]) :
    t.received = u.length ∧ prompts u = typed.length ∧ (∀ x ∈ u, x.isDone = false) ∧
      s.screen.gist = ⟨style, some 0, true, false, none, none,
        Page.empty.writeAll (records style u t.answers)⟩ := by
  cases h.phase with
  | waiting _ _ hreceived hprompts hlive hgist => exact ⟨hreceived, hprompts, hlive, hgist⟩
  | carrying he =>
      rw [herrands] at he
      cases he
  | asking he =>
      rw [herrands] at he
      cases he
  | finished he =>
      rw [herrands] at he
      cases he

theorem Tells.take (h : Tells source steps style typed s t u) {t' : Thread}
    {message : Screen.Message} (herrands : s.errands = [.await 0])
    (hreceive : t.receive? 0 = some (t', message)) :
    Tells source steps style typed { s with threads := [t'], errands := [.bring message] } t'
      u := by
  obtain ⟨hreceived, hprompts, hlive, hgist⟩ := h.of_await herrands
  obtain ⟨e, he, heq⟩ := Option.map_eq_some_iff.mp hreceive
  cases heq
  have hu : t.sent.take t.received = u := by
    rw [hreceived]
    exact (List.prefix_iff_eq_take.mp h.told).symm
  rw [hreceived] at he
  refine ⟨h.source_eq, h.steps_eq, rfl, h.answers, h.heard, h.told, ?_⟩
  refine .carrying (by rw [hu]) he ?_ hprompts hlive hgist
  rw [hreceived]

theorem Tells.lapse (h : Tells source steps style typed s t u) (herrands : s.errands = [.await 0]) :
    Tells source steps style typed { s with errands := [.bring .poll] } t u := by
  obtain ⟨hreceived, hprompts, hlive, hgist⟩ := h.of_await herrands
  exact ⟨h.source_eq, h.steps_eq, h.threads, h.answers, h.heard, h.told,
    .waiting rfl (.inr rfl) hreceived hprompts hlive hgist⟩

/-- A run that is still waited for has not reported its end. -/
theorem Tells.not_spent (h : Tells source steps style typed s t u)
    (herrands : s.errands = [.await 0]) :
    t.isSpent = false := by
  obtain ⟨hreceived, -, hlive, -⟩ := h.of_await herrands
  cases hspent : t.isSpent with
  | false => rfl
  | true =>
      rw [Thread.isSpent, Bool.and_eq_true, beq_iff_eq, List.any_eq_true] at hspent
      obtain ⟨hlength, e, he, hdone⟩ := hspent
      have hu : u = t.sent := h.told.eq_of_length (by rw [← hlength, hreceived])
      rw [← hu] at he
      rw [hlive e he] at hdone
      cases hdone

/-- A wait that was for nothing is taken up again. -/
theorem Tells.poll (h : Tells source steps style typed s t u) (hreceived : t.received = u.length)
    (hprompts : prompts u = typed.length) (hlive : ∀ x ∈ u, x.isDone = false)
    (hgist : s.screen.gist =
      ⟨style, some 0, true, false, none, none, Page.empty.writeAll (records style u t.answers)⟩) :
    Tells source steps style typed ({ s with errands := [] }.handle .poll) t u := by
  have hsource : s.screen.source = some 0 := congrArg Gist.source hgist
  have hrunning : s.screen.running = true := congrArg Gist.running hgist
  have hpending : s.screen.pending = none := congrArg Gist.pending hgist
  have heffects : (s.screen.update .poll).2 = [.await 0] := by
    simp [Screen.update, Screen.onPoll, hrunning, hpending, Screen.awaiting_of_source hsource]
  rw [handle_eq (by exact heffects)]
  exact ⟨h.source_eq, h.steps_eq, h.threads, h.answers, h.heard, h.told,
    .waiting rfl (.inl rfl) hreceived hprompts hlive hgist⟩

/-- An event that was received reaches the page. -/
theorem Tells.event (h : Tells source steps style typed s t u) {e : Event}
    (hnext : t.sent[u.length]? = some e) (hreceived : t.received = u.length + 1)
    (hprompts : prompts u = typed.length) (hlive : ∀ x ∈ u, x.isDone = false)
    (hgist : s.screen.gist =
      ⟨style, some 0, true, false, none, none, Page.empty.writeAll (records style u t.answers)⟩) :
    Tells source steps style typed ({ s with errands := [] }.handle (Thread.message 0 u e)) t
      (u ++ [e]) := by
  have hsource : s.screen.source = some 0 := congrArg Gist.source hgist
  have hpage : s.screen.page = Page.empty.writeAll (records style u t.answers) :=
    congrArg Gist.page hgist
  have htold : u ++ [e] <+: t.sent := grows_by_next h.told hnext
  have hlength : t.received = (u ++ [e]).length := by
    rw [hreceived, List.length_append, List.length_singleton]
  have hspent : t.answers.drop (prompts u) = [] := by
    rw [hprompts, h.answers]
    simp
  have hrecords : records style (u ++ [e]) t.answers =
      records style u t.answers ++ records style [e] [] := by
    rw [records_append, hspent]
  cases e with
  | output out =>
      have heffects : (s.screen.update (.output out)).2 = [.await 0] :=
        Screen.awaiting_of_source hsource
      have hscreen := Screen.gist_append s.screen out
      change Tells _ _ _ _ (handle _ (.output out)) _ _
      rw [handle_eq (by exact heffects)]
      refine ⟨h.source_eq, h.steps_eq, h.threads, h.answers, h.heard, htold, ?_⟩
      refine .waiting rfl (.inl rfl) hlength ?_ ?_ ?_
      · rw [prompts_append, hprompts]
        rfl
      · exact List.forall_mem_append.mpr ⟨hlive, by simp [Event.isDone]⟩
      · change (s.screen.append out).gist = _
        rw [hscreen, hpage, hgist, hrecords, Page.writeAll_append]
        rfl
  | prompt r =>
      have heffects : (s.screen.update (.prompt r (.run 0 (prompts u)))).2 = [] := rfl
      have hscreen := Screen.gist_onPrompt s.screen r (.run 0 (prompts u))
      change Tells _ _ _ _ (handle _ (.prompt r (.run 0 (prompts u)))) _ _
      rw [handle_eq (by exact heffects)]
      refine ⟨h.source_eq, h.steps_eq, h.threads, h.answers, h.heard, htold, ?_⟩
      refine .asking rfl rfl hlength hprompts ?_ ?_
      · exact List.forall_mem_append.mpr ⟨hlive, by simp [Event.isDone]⟩
      · change (s.screen.onPrompt r (.run 0 (prompts u))).1.gist = _
        rw [hscreen, hgist, hrecords, hprompts, Page.writeAll_append]
        rfl
  | done failure =>
      have hstyle : s.screen.errorStyle = style := congrArg Gist.errorStyle hgist
      obtain ⟨hscreen, heffects⟩ := Screen.gist_onDone s.screen failure
      change Tells _ _ _ _ (handle _ (.done failure)) _ _
      rw [handle_eq (by exact heffects)]
      refine ⟨h.source_eq, h.steps_eq, h.threads, h.answers, h.heard, htold, ?_⟩
      refine .finished rfl rfl hlength ?_ ?_
      · rw [prompts_append, hprompts]
        rfl
      · change (s.screen.onDone failure).1.gist = _
        rw [hscreen, hpage, hsource, hstyle, hrecords, Page.writeAll_append]
        simp [records]

/-- The screen learns what an errand brings. -/
theorem Tells.deliver (h : Tells source steps style typed s t u) {message : Screen.Message}
    (herrands : s.errands = [.bring message]) :
    ∃ u', Tells source steps style typed ({ s with errands := [] }.handle message) t u' := by
  cases h.phase with
  | waiting he hwait hreceived hprompts hlive hgist =>
      cases herrands.symm.trans he
      rcases hwait with hwait | hwait
      · cases hwait
      · cases hwait
        exact ⟨u, h.poll hreceived hprompts hlive hgist⟩
  | carrying he hnext hreceived hprompts hlive hgist =>
      cases herrands.symm.trans he
      exact ⟨_, h.event hnext hreceived hprompts hlive hgist⟩
  | asking he => cases herrands.symm.trans he
  | finished he => cases herrands.symm.trans he

/-- The errand that something happens to is the only one. It waits, or it brings a message. -/
theorem Tells.errands_eq (h : Tells source steps style typed s t u) {i : Nat} {e : Errand}
    (he : s.errands[i]? = some e) :
    i = 0 ∧ s.errands = [e] ∧ (e = .await 0 ∨ ∃ message, e = .bring message) := by
  have honly : ∀ {x : Errand}, s.errands = [x] → i = 0 ∧ x = e := by
    intro x hx
    rw [hx, List.getElem?_singleton] at he
    split at he
    · cases he
      exact ⟨‹i = 0›, rfl⟩
    · cases he
  cases h.phase with
  | waiting hx hwait =>
      obtain ⟨rfl, rfl⟩ := honly hx
      exact ⟨rfl, hx, hwait.imp_right fun hpoll => ⟨_, hpoll⟩⟩
  | carrying hx =>
      obtain ⟨rfl, rfl⟩ := honly hx
      exact ⟨rfl, hx, .inr ⟨_, rfl⟩⟩
  | asking hx =>
      rw [hx] at he
      cases he
  | finished hx =>
      rw [hx] at he
      cases he

/-- What happens without the keys gives no answer. -/
theorem Tells.other (h : Tells source steps style typed s t u) {a : Act} (ha : ∀ k, a ≠ .key k)
    (hact : s.act a = some s') : ∃ t' u', Tells source steps style typed s' t' u' := by
  have honly : ∀ {run : Nat} {x : Thread}, s.threads[run]? = some x → run = 0 ∧ x = t := by
    intro run x hx
    rw [h.threads, List.getElem?_singleton] at hx
    split at hx
    · cases hx
      exact ⟨‹run = 0›, rfl⟩
    · cases hx
  cases leads_of_act hact with
  | key k => exact absurd rfl (ha k)
  | size width height => exact ⟨t, u, h.quiet (Screen.gist_onSize ..) rfl⟩
  | send hx hsend =>
      obtain ⟨rfl, rfl⟩ := honly hx
      rw [h.source_eq, h.steps_eq] at hsend
      rw [h.threads]
      exact ⟨_, u, h.send hsend⟩
  | launch he =>
      obtain ⟨-, -, hstart | ⟨message, hstart⟩⟩ := h.errands_eq he
      · cases hstart
      · cases hstart
  | take he hx hreceive =>
      obtain ⟨rfl, herrands, -⟩ := h.errands_eq he
      obtain ⟨rfl, rfl⟩ := honly hx
      rw [h.threads, herrands]
      exact ⟨_, u, h.take herrands hreceive⟩
  | lapse he =>
      obtain ⟨rfl, herrands, hawait | ⟨message, hawait⟩⟩ := h.errands_eq he
      · cases hawait
        rw [herrands]
        exact ⟨t, u, h.lapse herrands⟩
      · cases hawait
  | close he hx hspent =>
      obtain ⟨rfl, herrands, -⟩ := h.errands_eq he
      obtain ⟨rfl, rfl⟩ := honly hx
      rw [h.not_spent herrands] at hspent
      cases hspent
  | deliver he =>
      obtain ⟨rfl, herrands, -⟩ := h.errands_eq he
      obtain ⟨u', hu'⟩ := h.deliver herrands
      rw [herrands]
      exact ⟨t, u', hu'⟩

theorem typedBy_of_ne_key {a : Act} (ha : ∀ k, a ≠ .key k) : s.typedBy a = [] := by
  cases a with
  | key k => exact absurd rfl (ha k)
  | _ => rfl

/-- Whatever happens, the screen goes on to be told of the run. -/
theorem Tells.act (h : Tells source steps style typed s t u) (hdone : s.screen.done = false)
    {a : Act} (ha : a.isInterrupt = false) (hact : s.act a = some s') :
    ∃ t' u', Tells source steps style (typed ++ s.typedBy a) s' t' u' := by
  by_cases hkey : ∃ k, a = .key k
  · obtain ⟨k, rfl⟩ := hkey
    cases hact
    have hk : k.name ≠ "ctrl+c" := by simpa [Act.isInterrupt] using ha
    obtain ⟨t', ht'⟩ := h.key hdone hk
    exact ⟨t', u, ht'⟩
  · have hne : ∀ k, a ≠ .key k := fun k hk => hkey ⟨k, hk⟩
    rw [typedBy_of_ne_key hne, List.append_nil]
    exact h.other hne hact

theorem Tells.play (h : Tells source steps style typed s t u) {acts : List Act} {more : List String}
    (hplay : s.play acts = some (more, s')) :
    ∃ t' u', Tells source steps style (typed ++ more) s' t' u' := by
  induction acts generalizing s t u typed more with
  | nil =>
      cases hplay
      rw [List.append_nil]
      exact ⟨t, u, h⟩
  | cons a acts ih =>
      rw [Scene.play] at hplay
      split at hplay
      · cases hplay
      · rename_i hgoes
        rw [Bool.or_eq_true, not_or, Bool.not_eq_true, Bool.not_eq_true] at hgoes
        obtain ⟨next, hnext, hplay⟩ := Option.bind_eq_some_iff.mp hplay
        obtain ⟨⟨rest, final⟩, hrest, heq⟩ := Option.bind_eq_some_iff.mp hplay
        cases heq
        obtain ⟨t', u', htells⟩ := h.act hgoes.1 hgoes.2 hnext
        rw [← List.append_assoc]
        exact ih htells hrest

/-- A run whose end the screen has been told of has been told of as a whole. -/
theorem Tells.events_eq (h : Tells source steps style typed s t u) {front : List Event}
    {failure : Option Failure} (hu : u = front ++ [.done failure]) :
    ∃ fuel, Dialogue.events fuel source steps (typed.map .text) = some u := by
  obtain ⟨fuel, hheard⟩ := h.heard
  rw [h.answers] at hheard
  have hwithin : u <+: eventsWithin fuel source steps (typed.map .text) :=
    (h.told.trans hheard).trans (uptoPrompt_le _ _)
  have hlast : Event.done failure ∈ u := by simp [hu]
  obtain ⟨hevents, front', failure', heq, hfront'⟩ :=
    events_of_isDone (hwithin.subset hlast) rfl
  refine ⟨fuel, ?_⟩
  rw [heq] at hwithin
  rw [hevents, heq, eq_of_prefix_of_isDone hwithin hlast rfl hfront']

theorem isWait_message (e : Event) : (Errand.bring (Thread.message 0 u e)).isWait = true := by
  cases e <;> rfl

/-- The screen waits for the run, or a prompt is pending, or the run is over. -/
theorem Tells.exactly_one (h : Tells source steps style typed s t u) :
    [s.waits == 1, s.screen.pending.isSome, s.screen.done].count true = 1 ∧ s.waits ≤ 1 := by
  have hscreen : ∀ g, s.screen.gist = g → s.screen.pending = g.pending ∧ s.screen.done = g.done :=
    fun g hg => ⟨congrArg Gist.pending hg, congrArg Gist.done hg⟩
  cases h.phase with
  | waiting he hwait _ _ _ hgist =>
      obtain ⟨hpending, hdone⟩ := hscreen _ hgist
      have hwaits : s.waits = 1 := by
        rcases hwait with rfl | rfl <;> simp [waits, he, Errand.isWait]
      simp [hwaits, hpending, hdone]
  | carrying he _ _ _ _ hgist =>
      obtain ⟨hpending, hdone⟩ := hscreen _ hgist
      have hwaits : s.waits = 1 := by simp [waits, he, isWait_message]
      simp [hwaits, hpending, hdone]
  | asking he _ _ _ _ hgist =>
      obtain ⟨hpending, hdone⟩ := hscreen _ hgist
      have hwaits : s.waits = 0 := by simp [waits, he]
      simp [hwaits, hpending, hdone]
  | finished he _ _ _ hgist =>
      obtain ⟨hpending, hdone⟩ := hscreen _ hgist
      have hwaits : s.waits = 0 := by simp [waits, he]
      simp [hwaits, hpending, hdone]

/-- Every prompt but one that is still on its way or pending has been answered. -/
theorem Tells.prompts_received (h : Tells source steps style typed s t u) :
    prompts (t.sent.take t.received) = typed.length + s.unanswered := by
  have hu : t.sent.take u.length = u := (List.prefix_iff_eq_take.mp h.told).symm
  cases h.phase with
  | waiting he hwait hreceived hprompts _ hgist =>
      have hpending : s.screen.pending = none := congrArg Gist.pending hgist
      have hnone : s.unanswered = 0 := by
        rcases hwait with rfl | rfl <;> simp [unanswered, he, hpending, Errand.isPrompt]
      rw [hreceived, hu, hprompts, hnone, Nat.add_zero]
  | @carrying e he hnext hreceived hprompts _ hgist =>
      have hpending : s.screen.pending = none := congrArg Gist.pending hgist
      rw [hreceived, List.take_add_one, hu, hnext, prompts_append, hprompts]
      cases e <;>
        simp [prompts, Event.isPrompt, unanswered, he, hpending, Thread.message, Errand.isPrompt]
  | asking he hask hreceived hprompts _ hgist =>
      have hpending : s.screen.pending = _ := congrArg Gist.pending hgist
      rw [hreceived, hu, hask, prompts_append, hprompts]
      simp [prompts, Event.isPrompt, unanswered, he, hpending]
  | finished he hover hreceived hprompts hgist =>
      have hpending : s.screen.pending = none := congrArg Gist.pending hgist
      rw [hreceived, hu, hprompts]
      simp [unanswered, he, hpending]

/-- The answer to the pending prompt is the next one that the run waits for. -/
theorem Tells.of_pending (h : Tells source steps style typed s t u) {p : Pending}
    (hp : s.screen.pending = some p) :
    p.channel = .run 0 typed.length ∧
      (t.sent.filter Event.isPrompt)[typed.length]? = some (.prompt p.request) := by
  have hgist_pending : ∀ g, s.screen.gist = g → g.pending = some p := fun g hg => by
    rw [← hg]
    exact hp
  cases h.phase with
  | waiting _ _ _ _ _ hgist => cases hgist_pending _ hgist
  | carrying _ _ _ _ _ hgist => cases hgist_pending _ hgist
  | finished _ _ _ _ hgist => cases hgist_pending _ hgist
  | @asking front r _ hu _ hprompts _ hgist =>
      cases hgist_pending _ hgist
      refine ⟨rfl, ?_⟩
      obtain ⟨w, hw⟩ := h.told
      have hlength : (front.filter Event.isPrompt).length = typed.length := by
        rw [← List.countP_eq_length_filter]
        exact hprompts
      rw [← hw, hu, List.append_assoc, List.filter_append, ← hlength,
        List.getElem?_append_right (Nat.le_refl _), Nat.sub_self]
      rfl

/-- The run has been given the answers that were typed, each for the prompt that was pending then,
and every prompt but one that is on its way or pending has been answered. -/
structure Replies (typed : List String) (s : Scene) (t : Thread) : Prop where
  only : s.threads = [t]
  answers : t.answers = typed.map .text
  received : prompts (t.sent.take t.received) = typed.length + s.unanswered
  channel : ∀ p, s.screen.pending = some p → p.channel = .run 0 typed.length
  request : ∀ p, s.screen.pending = some p →
    (t.sent.filter Event.isPrompt)[typed.length]? = some (.prompt p.request)

/-- The events are those of the run with the answers that were typed, up to the end that the screen
reports. The page shows what was printed, with every answer in a row of its own behind its prompt
and a failure in the last row. -/
structure Shows (source : String) (steps : Int) (style : String → String) (typed : List String)
    (s : Scene) (events : List Event) : Prop where
  run : ∃ fuel, Dialogue.events fuel source steps (typed.map .text) = some events
  last : ∃ front, events = front ++ [.done s.screen.failure]
  answered : prompts events = typed.length
  page : s.screen.page = Page.empty.writeAll (records style events (typed.map .text))

/-- The screen follows its run, to which the given answers have been typed. It waits for the run, or
a prompt is pending, or the run is over, and only one of these at a time. -/
structure Follows (source : String) (steps : Int) (style : String → String) (typed : List String)
    (s : Scene) : Prop where
  exactly_one : [s.waits == 1, s.screen.pending.isSome, s.screen.done].count true = 1
  waits_le_one : s.waits ≤ 1
  replies : ∃ t, Replies typed s t
  shows : s.screen.done = true → ∃ events, Shows source steps style typed s events

/-- A run that is over is shown as a whole. -/
theorem Tells.shows (h : Tells source steps style typed s t u) (hdone : s.screen.done = true) :
    Shows source steps style typed s u := by
  have hgist_done : ∀ g, s.screen.gist = g → g.done = true := fun g hg => by
    rw [← hg]
    exact hdone
  cases h.phase with
  | waiting _ _ _ _ _ hgist => cases hgist_done _ hgist
  | carrying _ _ _ _ _ hgist => cases hgist_done _ hgist
  | asking _ _ _ _ _ hgist => cases hgist_done _ hgist
  | @finished front failure _ hu _ hprompts hgist =>
      have hfailure : s.screen.failure = failure := congrArg Gist.failure hgist
      have hpage : s.screen.page = Page.empty.writeAll (records style u t.answers) :=
        congrArg Gist.page hgist
      rw [h.answers] at hpage
      exact ⟨h.events_eq hu, ⟨front, by rw [hfailure, hu]⟩, hprompts, hpage⟩

/-- As long as one run is on the screen, the screen follows it, whatever the order of events and
however failures are rendered. -/
theorem play_follows_run (path : String) (width height : Int64) {acts : List Act}
    (h : (opening source steps path width height style).play acts = some (typed, s)) :
    Follows source steps style typed s := by
  obtain ⟨t, u, htells⟩ := (tells_opening source steps path width height style).play h
  rw [List.nil_append] at htells
  have hreplies : Replies typed s t :=
    ⟨htells.threads, htells.answers, htells.prompts_received, fun _ hp => (htells.of_pending hp).1,
      fun _ hp => (htells.of_pending hp).2⟩
  exact ⟨htells.exactly_one.1, htells.exactly_one.2, ⟨t, hreplies⟩,
    fun hdone => ⟨u, htells.shows hdone⟩⟩

/-- A prompt is answered after a wait that was for nothing, the run is over before its output has
been received, and a restart is refused. -/
def talk : List Act :=
  [.send 0 9, .lapse 0, .deliver 0, .take 0, .size 40 10, .deliver 0, .key (.ofName "4"),
    .key (.ofName "enter"), .send 0 9, .send 0 9, .take 0, .deliver 0, .key (.ofName "r"), .take 0,
    .deliver 0]

theorem play_follows_run_talk :
    ∃ s, (opening "10 input a\n20 print a\n30 goto 99" 0 "prog" 80 24).play talk =
        some (["4"], s) ∧
      s.screen.page = ⟨["4", "4", "error on line 30: line 99 does not exist"], ""⟩ ∧
      ∃ events, Shows "10 input a\n20 print a\n30 goto 99" 0 Text.block ["4"] s events := by
  have hplay : ((opening "10 input a\n20 print a\n30 goto 99" 0 "prog" 80 24).play talk).map
      (fun (typed, s) => (typed, s.screen.done, s.screen.page)) =
        some (["4"], true, ⟨["4", "4", "error on line 30: line 99 does not exist"], ""⟩) := by
    decide +kernel
  obtain ⟨⟨typed, s⟩, hs, heq⟩ := Option.map_eq_some_iff.mp hplay
  obtain ⟨rfl, hdone, hpage⟩ : typed = ["4"] ∧ s.screen.done = true ∧ s.screen.page = _ := by
    simpa using heq
  exact ⟨s, hs, hpage, (play_follows_run "prog" 80 24 hs).shows hdone⟩

end Scene

end NumberedBasic
