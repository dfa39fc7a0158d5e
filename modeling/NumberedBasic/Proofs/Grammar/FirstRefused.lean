import NumberedBasic.Proofs.Grammar.Refusal
import NumberedBasic.Proofs.Token.Spelling
import Mathlib.Order.Bounds.Defs

/-! A line that cannot be read is blamed on the first token with which no line that can be read goes
on. -/
namespace NumberedBasic
open Grammar Grammar.Outlook

/-- Some line that is read begins with the tokens. -/
def Viable (tokens : List Token) : Prop := ∃ rest l, parseLine (tokens ++ rest) = .ok l

/-- The places of the tokens with which no line that is read goes on. -/
def hopeless (tokens : List Token) : Set Nat :=
  {k | k < tokens.length ∧ ¬ Viable (tokens.take (k + 1))}

section Viable

variable {u v : List Token} {t : Token} {o : Outlook}

theorem Viable.shorten (h : Viable v) (huv : u <+: v) : Viable u := by
  obtain ⟨w, rfl⟩ := huv
  obtain ⟨rest, l, hl⟩ := h
  exact ⟨w ++ rest, l, by rw [← List.append_assoc, hl]⟩

theorem prefix_withEnd (tokens : List Token) : tokens <+: withEnd tokens := by
  unfold withEnd
  split
  · rename_i hlast
    rw [List.getLast?_eq_none_iff.mp hlast]
    exact List.nil_prefix
  · split
    · exact List.prefix_rfl
    · exact List.prefix_append _ _

theorem ended_withEnd (tokens : List Token) : Ended (withEnd tokens) := by
  unfold withEnd
  split
  · exact ⟨_, List.mem_singleton_self _, rfl⟩
  · rename_i last hlast
    split
    · rename_i hk
      exact ⟨last, List.mem_of_getLast? hlast, hk⟩
    · exact ⟨_, List.mem_append_right _ (List.mem_singleton_self _), rfl⟩

theorem Grammar.Blocks.run_eq {e : SyntaxError} (h : Blocks o u e) : o.run u = none := by
  obtain ⟨v, t, w, o', rfl, -, -, hrun, hstep⟩ := h
  rw [run_append_of_run hrun, run_cons, hstep]
  rfl

/-- What is refused nowhere can be completed. -/
theorem viable_of_run (hu : ∀ t ∈ u, t.kind ≠ .eol) (hdeep : nestings u < nestingLimit)
    (h : start.run u = some o) : Viable u := by
  obtain ⟨goals, ending, rfl⟩ := run_pending hu h
  obtain ⟨body, e, hcompletion, he, hbody, hflat⟩ := completion_eq goals
  have honce : EndsOnce (u ++ completion goals) :=
    ⟨u ++ body, e, by rw [hcompletion, List.append_assoc], he,
      List.forall_mem_append.mpr ⟨hu, hbody⟩⟩
  have hend : Ended (u ++ completion goals) := ⟨e, by simp [hcompletion], he⟩
  have hrun : start.run (u ++ completion goals) = some closed := by
    rw [run_append_of_run h, run_completion]
  rcases line_cases hend with ⟨l, rest, hline, -⟩ | ⟨e, -, hblocks | hlimit⟩
  · refine ⟨completion goals, l, ?_⟩
    rw [parseLine, withEnd_eq honce, hline]
    rfl
  · rw [hblocks.run_eq] at hrun
    cases hrun
  · rw [nestings_append, hflat] at hlimit
    omega

/-- A line that is read passes all its tokens up to its end. -/
theorem not_viable_of_run (hu : ∀ t ∈ u, t.kind ≠ .eol) (h : start.run (u ++ [t]) = none) :
    ¬ Viable (u ++ [t]) := by
  rintro ⟨rest, l, hl⟩
  obtain ⟨⟨l, left⟩, hline, -⟩ := map_eq_ok hl
  rcases line_cases (ended_withEnd (u ++ [t] ++ rest)) with
    ⟨l', left', -, u', t', htokens, -, ht', hrun⟩ | ⟨e, herror, -⟩
  · have hfront : u ++ [t] <+: u' ++ t' :: left' := by
      rw [← htokens]
      exact (List.prefix_append _ rest).trans (prefix_withEnd _)
    have hfront' : u' ++ [t'] <+: u' ++ t' :: left' := ⟨left', by simp⟩
    rcases List.prefix_or_prefix_of_prefix hfront hfront' with ⟨w, hw⟩ | ⟨w, hw⟩
    · rw [← hw, run_append, h] at hrun
      cases hrun
    · rcases List.eq_nil_or_concat w with rfl | ⟨w, x, rfl⟩
      · rw [List.append_nil] at hw
        rw [hw, h] at hrun
        cases hrun
      · rw [List.concat_eq_append, ← List.append_assoc] at hw
        obtain ⟨hw, -⟩ := List.append_inj' hw rfl
        exact hu t' (by simp [← hw]) ht'
  · rw [hline] at herror
    cases herror

theorem Grammar.IsFlawed.not_viable (h : IsFlawed t) (hu : ∀ t ∈ u, t.kind ≠ .eol) :
    ¬ Viable (u ++ [t]) := by
  apply not_viable_of_run hu
  rw [run_append]
  cases start.run u with
  | none => rfl
  | some o =>
      change o.run [t] = none
      rw [run_cons, h.step_eq]
      rfl

end Viable

/-- A symbol is its own character. -/
theorem char_of_read {c : Char} {rest : List Char} {s : Symbol}
    (h : (Lexeme.read c rest).kind = .symbol s) : s.char = c := by
  unfold Lexeme.read at h
  split at h
  · unfold Lexeme.word at h
    dsimp only at h
    split at h <;> cases h
  · split at h
    · cases h
    · split at h
      · unfold Lexeme.quoted at h
        dsimp only at h
        split at h <;> cases h
      · split at h
        · rename_i s' hs'
          cases h
          exact Symbol.char_of_ofChar? hs'
        · cases h

/-- A character that nests what follows it. -/
def nestsBy (c : Char) : Bool := c == '(' || c == '-'

theorem nestsBy_of_nests {c : Char} {rest : List Char} {line column : Int}
    (h : nests ⟨(Lexeme.read c rest).kind, (Lexeme.read c rest).text, line, column⟩ = true) :
    nestsBy c = true := by
  simp only [nests, Bool.or_eq_true, beq_iff_eq] at h
  rcases h with h | h
  · rw [← char_of_read h]
    rfl
  · rw [← char_of_read h]
    rfl

/-- Every sign that nests comes from a character of its own. -/
theorem nestings_scan_le (line : Int) (column : Nat) (cs : List Char) :
    nestings (scan line column cs) ≤ cs.countP nestsBy := by
  fun_induction scan line column cs with
  | case1 => exact Nat.le_refl _
  | case2 column c rest _ ih => exact ih.trans ((List.sublist_cons_self c rest).countP_le)
  | case3 column c rest _ lexeme ih =>
      have hrest : (rest.drop (lexeme.width - 1)).countP nestsBy ≤ rest.countP nestsBy :=
        (List.drop_sublist _ _).countP_le
      unfold nestings at ih ⊢
      rw [List.countP_cons, List.countP_cons]
      split
      · rename_i hnests
        rw [if_pos (nestsBy_of_nests hnests)]
        omega
      · omega

section Text

variable {text : String} {i : Int} {u v : List Token} {t : Token}

theorem ne_eol_of_tokenize_eq (h : tokenize text i = u ++ t :: v) : ∀ x ∈ u, x.kind ≠ .eol := by
  obtain ⟨body, last, heq, -, hbody⟩ := endsOnce_scan i 0 text.toList
  have hlong : u <+: body ++ [last] := by
    rw [← heq]
    exact ⟨t :: v, h.symm⟩
  have hshort : u.length ≤ body.length := by
    have hlength := congrArg List.length (heq.symm.trans h)
    simp only [List.length_append, List.length_cons, List.length_nil] at hlength
    omega
  have hfront : u <+: body := List.prefix_of_prefix_length_le hlong (List.prefix_append _ _) hshort
  exact fun x hx => hbody x (hfront.subset hx)

theorem tokenize_eq_of_getElem? {k : Nat} (h : (tokenize text i)[k]? = some t) :
    ∃ v, tokenize text i = (tokenize text i).take k ++ t :: v := by
  obtain ⟨hk, rfl⟩ := List.getElem?_eq_some_iff.mp h
  exact ⟨(tokenize text i).drop (k + 1), by simp⟩

/-- No line goes on with a flawed token. -/
theorem mem_hopeless_of_flawed {k : Nat} (h : (tokenize text i)[k]? = some t) (ht : IsFlawed t) :
    k ∈ hopeless (tokenize text i) := by
  obtain ⟨hk, -⟩ := List.getElem?_eq_some_iff.mp h
  obtain ⟨v, hv⟩ := tokenize_eq_of_getElem? h
  refine ⟨hk, ?_⟩
  rw [List.take_add_one, h]
  exact ht.not_viable (ne_eol_of_tokenize_eq hv)

theorem exists_error_of_mem_hopeless {k : Nat} (h : k ∈ hopeless (tokenize text i)) :
    ∃ e, parseLine (tokenize text i) = .error e := by
  cases hparse : parseLine (tokenize text i) with
  | error e => exact ⟨e, rfl⟩
  | ok l =>
      have hviable : Viable (tokenize text i) := ⟨[], l, by rw [List.append_nil, hparse]⟩
      exact absurd (hviable.shorten ( List.take_prefix _ _)) h.2

/-- The error stands where the outlook first refuses a token. Before it nothing is hopeless. -/
theorem exists_isLeast_hopeless {e : SyntaxError}
    (hnests : text.toList.countP nestsBy ≤ nestingLimit - 1)
    (h : parseLine (tokenize text i) = .error e) :
    ∃ k t, (tokenize text i)[k]? = some t ∧ e.line = t.line ∧ e.column = t.column ∧
      IsLeast (hopeless (tokenize text i)) k ∧ Viable ((tokenize text i).take k) := by
  have hnestings : nestings (tokenize text i) < nestingLimit := by
    have hscan := nestings_scan_le i 0 text.toList
    have hpos : 0 < nestingLimit := by decide
    unfold tokenize
    omega
  have honce : EndsOnce (tokenize text i) := endsOnce_scan i 0 text.toList
  have hend : Ended (tokenize text i) := by
    rw [← withEnd_eq honce]
    exact ended_withEnd _
  rw [parseLine, withEnd_eq honce] at h
  rcases line_cases hend with ⟨l, rest, hline, -⟩ | ⟨e', hline, hblocks⟩
  · rw [hline] at h
    cases h
  · rw [hline] at h
    cases h
    obtain ⟨u, t, v, o, htokens, hline, hcolumn, hrun, hstep⟩ :=
      hblocks.resolve_right (Nat.not_le.mpr hnestings)
    have hu := ne_eol_of_tokenize_eq htokens
    have hviable : Viable u := by
      refine viable_of_run hu ?_ hrun
      rw [htokens, nestings_append] at hnestings
      omega
    have hrefused : ¬ Viable (u ++ [t]) := by
      apply not_viable_of_run hu
      rw [run_append_of_run hrun, run_cons, hstep]
      rfl
    rw [htokens]
    refine ⟨u.length, t, by simp, hline, hcolumn, ⟨⟨by simp, ?_⟩, ?_⟩, by simpa using hviable⟩
    · simpa [List.take_append, List.take_of_length_le] using hrefused
    · intro k hk
      by_contra hlt
      refine hk.2 (hviable.shorten ?_)
      rw [List.take_append_of_le_length (by omega)]
      exact List.take_prefix _ _

end Text

/-- The error of a text stands at the first token with which no line goes on, so what precedes it
can be completed. A text with a flawed token is never read, and where what precedes that token can
be completed, the error stands there. -/
theorem parseLine_error_isLeast_hopeless {text : String} (i : Int)
    (hnests : text.toList.countP nestsBy ≤ nestingLimit - 1) :
    (∀ e, parseLine (tokenize text i) = .error e →
      ∃ k t, (tokenize text i)[k]? = some t ∧ e.line = t.line ∧ e.column = t.column ∧
        IsLeast (hopeless (tokenize text i)) k ∧ Viable ((tokenize text i).take k)) ∧
    (∀ k t, (tokenize text i)[k]? = some t → IsFlawed t →
      ∃ e, parseLine (tokenize text i) = .error e ∧
        (Viable ((tokenize text i).take k) → e.line = t.line ∧ e.column = t.column)) := by
  refine ⟨fun e h => exists_isLeast_hopeless hnests h, fun k t ht hflawed => ?_⟩
  have hk := mem_hopeless_of_flawed ht hflawed
  obtain ⟨e, he⟩ := exists_error_of_mem_hopeless hk
  obtain ⟨k', t', ht', hline, hcolumn, ⟨hk', hleast⟩, -⟩ := exists_isLeast_hopeless hnests he
  refine ⟨e, he, fun hviable => ?_⟩
  have hsame : k' = k := by
    refine Nat.le_antisymm (hleast hk) (Nat.le_of_not_lt fun hlt => ?_)
    exact hk'.2 (hviable.shorten (List.take_prefix_take_left (by omega)))
  subst hsame
  cases ht.symm.trans ht'
  exact ⟨hline, hcolumn⟩

/-- The parenthesis is still open, so the sign of equality cannot be that of the condition. -/
theorem parseLine_error_isLeast_hopeless_open :
    "10 if (x = 2 then end".toList.countP nestsBy ≤ nestingLimit - 1 ∧
      parseLine (tokenize "10 if (x = 2 then end" 1) =
        .error ⟨1, 9, .expected (.symbol .close) (.symbol .eq)⟩ ∧
      ∃ k t, (tokenize "10 if (x = 2 then end" 1)[k]? = some t ∧ 1 = t.line ∧ 9 = t.column ∧
        IsLeast (hopeless (tokenize "10 if (x = 2 then end" 1)) k ∧
        Viable ((tokenize "10 if (x = 2 then end" 1).take k) := by
  have hnests : "10 if (x = 2 then end".toList.countP nestsBy ≤ nestingLimit - 1 := by
    decide +kernel
  have herror : parseLine (tokenize "10 if (x = 2 then end" 1) =
      .error ⟨1, 9, .expected (.symbol .close) (.symbol .eq)⟩ := by
    decide +kernel
  exact ⟨hnests, herror, (parseLine_error_isLeast_hopeless 1 hnests).1 _ herror⟩

end NumberedBasic
