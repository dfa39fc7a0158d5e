import NumberedBasic.Proofs.Machine.Follow
import NumberedBasic.Proofs.Program.Insert

/-! A line with a number and nothing else is passed over. It may become the first line of the
program, the line after another one, the line to which a NEXT goes back and the line on which a
RETURN goes on. Each time the program goes on with the line behind it, which is where it would have
gone without it. -/
namespace NumberedBasic

namespace Program

/-- There is no line of this number and no jump to it, and a line stands behind it. -/
structure Vacant (p : Program) (n : Int) : Prop where
  undeclared : n ∉ p.declared
  untargeted : ∀ line ∈ p.lines, n ∉ line.statement.targets
  behind : ∃ k ∈ p.declared, n < k

/-- Where a program stands, and where it stands with an empty line of number `n` in it: on the same
line, or on the empty one right before it. -/
inductive Meets (p : Program) (n : Int) : Int → Int → Prop
  | same {k : Int} : k ≠ n → Meets p n k k
  | before {k : Int} : p.after? n = some k → Meets p n k n

variable {p : Program} {n k : Int}

/-- Of the numbers from some point on, the least is still the same, or it is that of the empty line
and the least one before comes right behind it. -/
theorem exists_meets_isLeast {S : Int → Prop} (hS : ∀ {i j}, i < j → S i → S j)
    (hn : n ∉ p.declared) (hk : IsLeast {j | j ∈ p.declared ∧ S j} k) :
    ∃ k', Meets p n k k' ∧ IsLeast {j | j ∈ (p.insert ⟨n, .empty⟩).declared ∧ S j} k' := by
  obtain ⟨⟨hdeclared, hSk⟩, hleast⟩ := hk
  by_cases hbefore : S n ∧ n < k
  · refine ⟨n, .before (after?_eq_some_iff.mpr ⟨⟨hdeclared, hbefore.2⟩, ?_⟩),
      ⟨mem_declared_insert.mpr (.inl rfl), hbefore.1⟩, ?_⟩
    · intro j hj
      exact hleast ⟨hj.1, hS hj.2 hbefore.1⟩
    · intro j hj
      rcases mem_declared_insert.mp hj.1 with rfl | hold
      · exact Int.le_refl _
      · exact Int.le_trans (Int.le_of_lt hbefore.2) (hleast ⟨hold, hj.2⟩)
  · have hne : k ≠ n := fun h => hn (h ▸ hdeclared)
    refine ⟨k, .same hne, ⟨mem_declared_insert.mpr (.inr hdeclared), hSk⟩, ?_⟩
    intro j hj
    rcases mem_declared_insert.mp hj.1 with rfl | hold
    · exact Int.not_lt.mp fun hlt => hbefore ⟨hj.2, hlt⟩
    · exact hleast ⟨hold, hj.2⟩

theorem Vacant.after?_rel (h : p.Vacant n) (number : Int) :
    Option.Rel (Meets p n) (p.after? number) ((p.insert ⟨n, .empty⟩).after? number) := by
  cases hafter : p.after? number with
  | some k =>
      obtain ⟨k', hmeets, hleast⟩ := exists_meets_isLeast (S := (number < ·))
        (fun hij hi => Int.lt_trans hi hij) h.undeclared (after?_eq_some_iff.mp hafter)
      rw [after?_eq_some_iff.mpr hleast]
      exact .some hmeets
  | none =>
      have hle := after?_eq_none_iff.mp hafter
      have hafter' : (p.insert ⟨n, .empty⟩).after? number = none := by
        apply after?_eq_none_iff.mpr
        intro j hj
        rcases mem_declared_insert.mp hj with rfl | hold
        · obtain ⟨k, hk, hlt⟩ := h.behind
          exact Int.le_trans (Int.le_of_lt hlt) (hle k hk)
        · exact hle j hold
      rw [hafter']
      exact .none

/-- Behind the empty line comes what comes after its number. -/
theorem Vacant.after?_insert (h : p.Vacant n) :
    (p.insert ⟨n, .empty⟩).after? n = p.after? n := by
  have hrel := h.after?_rel n
  generalize p.after? n = a at hrel
  generalize hafter : (p.insert ⟨n, .empty⟩).after? n = b at hrel
  cases hrel with
  | none => rfl
  | some hmeets =>
      cases hmeets with
      | same => rfl
      | before => exact absurd (isLeast_of_after? hafter).1.2 (Int.lt_irrefl n)

theorem Vacant.first?_meets (h : p.Vacant n) :
    p.first?.getD 0 ∈ p.declared ∧
      Meets p n (p.first?.getD 0) ((p.insert ⟨n, .empty⟩).first?.getD 0) := by
  obtain ⟨_, ⟨line, hline, -⟩, -⟩ := h.behind
  obtain ⟨k, hfirst⟩ := exists_first? (List.ne_nil_of_mem hline)
  have hk : IsLeast {j | j ∈ p.declared ∧ True} k := by
    simpa using first?_eq_some_iff.mp hfirst
  obtain ⟨k', hmeets, hleast⟩ := exists_meets_isLeast (fun _ _ => trivial) h.undeclared hk
  have hfirst' : (p.insert ⟨n, .empty⟩).first? = some k' :=
    first?_eq_some_iff.mpr (by simpa using hleast)
  rw [hfirst, hfirst']
  exact ⟨hk.1.1, hmeets⟩

end Program

namespace Machine

variable {p : Program} {n : Int} {s t : State}

theorem parallel_insert (h : p.Vacant n) (streaming : Bool) :
    Parallel ⟨p, 0, streaming⟩ ⟨p.insert ⟨n, .empty⟩, 0, streaming⟩ (p.Meets n) :=
  ⟨rfl, h.after?_rel⟩

/-- Standing on the same line, the two machines carry it out. -/
theorem step_insert (h : p.Vacant n) (streaming : Bool) (hst : Level p (p.Meets n) s t)
    (hcursor : s.cursor = t.cursor) (hne : t.cursor ≠ n) :
    Follows (Level p (p.Meets n)) (step ⟨p, 0, streaming⟩ s)
      (step ⟨p.insert ⟨n, .empty⟩, 0, streaming⟩ t) := by
  have hfound' : (p.insert ⟨n, .empty⟩).get? t.cursor = p.get? s.cursor := by
    rw [Program.get?_insert, if_neg (Ne.symm hne), hcursor]
  cases hfound : p.get? s.cursor with
  | none =>
      rw [hfound] at hfound'
      rw [Fetches.step_eq (.astray hfound), Fetches.step_eq (.astray hfound')]
      exact hst.astray_follows hcursor (Program.get?_eq_none_iff.mp hfound)
  | some line =>
      rw [hfound] at hfound'
      cases hend : line.statement.isEnd with
      | true =>
          rw [Fetches.step_eq (.ended hfound hend), Fetches.step_eq (.ended hfound' hend)]
          exact .stopped hst.sameEnd
      | false =>
          rw [step_of_found rfl hfound hend, step_of_found rfl hfound' hend]
          apply (parallel_insert h streaming).exec_follows hst line.number
          intro target htarget
          refine .same fun heq => ?_
          exact h.untargeted line (Program.mem_of_get? hfound) (heq ▸ htarget)

/-- The empty line leads to the line behind it, and does nothing else. -/
theorem step_blank (h : p.Vacant n) (streaming : Bool) {k : Int} (hcursor : t.cursor = n)
    (hafter : p.after? n = some k) :
    step ⟨p.insert ⟨n, .empty⟩, 0, streaming⟩ t =
      .running { t with cursor := k, current := n, steps := t.steps + 1 } := by
  have hfound : (p.insert ⟨n, .empty⟩).get? t.cursor = some ⟨n, .empty⟩ := by
    rw [Program.get?_insert, if_pos hcursor.symm]
  rw [step_of_found rfl hfound rfl, exec, proceed]
  dsimp only
  rw [h.after?_insert, hafter]

/-- A step is followed by a step, or by two if the empty line has to be passed first. -/
theorem step_insert_follows (h : p.Vacant n) (streaming : Bool) (hst : Level p (p.Meets n) s t) :
    ∃ k, Follows (Level p (p.Meets n)) (step ⟨p, 0, streaming⟩ s)
      (run ⟨p.insert ⟨n, .empty⟩, 0, streaming⟩ (k + 1) t) := by
  have hmeets := hst.cursor
  generalize hs : s.cursor = i at hmeets
  generalize ht : t.cursor = j at hmeets
  cases hmeets with
  | same hne =>
      refine ⟨0, ?_⟩
      rw [run_one]
      exact step_insert h streaming hst (hs.trans ht.symm) (ht ▸ hne)
  | before hafter =>
      obtain ⟨⟨hdeclared, hlt⟩, -⟩ := Program.isLeast_of_after? hafter
      have hne : i ≠ n := Int.ne_of_gt hlt
      refine ⟨1, ?_⟩
      have hblank := step_blank h streaming ht hafter
      rw [← run_one] at hblank
      rw [run_add_of_running hblank, run_one]
      have hlevel : Level p (p.Meets n) s
          { t with cursor := i, current := n, steps := t.steps + 1 } := by
        refine ⟨?_, ?_, .inr (hs ▸ hdeclared)⟩
        · rw [hst.rest]
        · rw [hs]
          exact .same hne
      exact step_insert h streaming hlevel hs hne

end Machine

/-- An empty line in a vacant place makes no difference to how a program runs. -/
theorem Program.insert_empty_runsAs {p : Program} {n : Int} (h : p.Vacant n) :
    p.RunsAs (p.insert ⟨n, .empty⟩) := by
  obtain ⟨hdeclared, hmeets⟩ := h.first?_meets
  apply runsAs_of_follows (R := Machine.Level p (p.Meets n))
  · intro streaming s t hst
    exact Machine.step_insert_follows h streaming hst
  · intro input
    exact ⟨rfl, hmeets, .inr hdeclared⟩

/-- The loop is entered again on the line after its FOR, and the last jump leads nowhere. -/
def counting : Program :=
  .ofLines [⟨10, .for_ "i" (.lit 1) (.lit 2)⟩, ⟨20, .gosub 50⟩, ⟨30, .next "i"⟩, ⟨40, .goto 99⟩,
    ⟨50, .input (some "?") ["n"]⟩, ⟨60, .return_⟩]

def twoReplies : Input :=
  ⟨[], some ⟨[⟨Text.Glyph.ofString "7", none⟩, ⟨Text.Glyph.ofString "8", none⟩], .endOfInput, none⟩⟩

/-- What can be seen of a run of either program. -/
def countingReport : Report :=
  ⟨[⟨"?", false⟩, ⟨"?", false⟩], [.request ⟨50, "n", "?"⟩, .request ⟨50, "n", "?"⟩],
    some ⟨40, .noSuchLine 99⟩⟩

theorem insert_empty_runsAs_counting :
    counting.Vacant 15 ∧
      (Session.run (.new ⟨counting.insert ⟨15, .empty⟩, 0, false⟩ twoReplies) 16).map (·.2) =
        some countingReport ∧
      ∃ t, Session.Ends (.new ⟨counting, 0, false⟩ twoReplies) t countingReport := by
  have hvacant : counting.Vacant 15 := ⟨by decide, by decide, 20, by decide, by decide⟩
  have hrun : (Session.run (.new ⟨counting.insert ⟨15, .empty⟩, 0, false⟩ twoReplies) 16).map
      (·.2) = some countingReport := by decide +kernel
  refine ⟨hvacant, hrun, ?_⟩
  obtain ⟨⟨u, r⟩, hsome, rfl⟩ := Option.map_eq_some_iff.mp hrun
  obtain ⟨t, hends, -⟩ := (Program.insert_empty_runsAs hvacant).ends ⟨16, hsome⟩
  exact ⟨t, hends⟩

end NumberedBasic
