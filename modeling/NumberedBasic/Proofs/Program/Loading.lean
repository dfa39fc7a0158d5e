import Mathlib.Logic.Equiv.Basic
import NumberedBasic.Proofs.Grammar.Place
import NumberedBasic.Proofs.Listing.Program
import NumberedBasic.Proofs.Program.Insert
import NumberedBasic.Session

/-! Loading a program. A source is accepted if each of its physical lines can be read, and the last
line that declares a number is the one in the table. The order of lines with different numbers plays
no part. -/
namespace NumberedBasic

namespace Text

/-- The texts are what newlines divide the source into, those at its end left out. -/
structure Divides (source : String) (texts : List String) : Prop where
  ne_nil : texts ≠ []
  unbroken : ∀ text ∈ texts, '\n' ∉ text.toList
  joined : ∃ k, source.toList = ("\n".intercalate texts).toList ++ List.replicate k '\n'
  trimmed : ("\n".intercalate texts).toList.getLast? ≠ some '\n'

theorem intercalate_pieces (text : List Char) :
    ['\n'].intercalate (pieces isNewline text) = text := by
  induction text with
  | nil => rfl
  | cons a rest ih =>
      rw [pieces]
      by_cases ha : isNewline a = true
      · obtain rfl : a = '\n' := by simpa [isNewline] using ha
        rw [if_pos ha, List.intercalate_cons_of_ne_nil (pieces_ne_nil _ rest), ih]
        rfl
      · rw [if_neg ha]
        cases hrest : pieces isNewline rest with
        | nil => exact absurd hrest (pieces_ne_nil _ rest)
        | cons piece more =>
            rw [hrest] at ih
            cases more with
            | nil => simpa using ih
            | cons => simpa [List.intercalate_cons_cons] using ih

theorem trimEnd_append (p : Char → Bool) (text : List Char) :
    text = trimEnd p text ++ (text.reverse.takeWhile p).reverse := by
  rw [trimEnd, ← List.reverse_append, List.takeWhile_append_dropWhile, List.reverse_reverse]

theorem divides_physicalLines (source : String) : Divides source (physicalLines source) := by
  have hjoin : ("\n".intercalate (physicalLines source)).toList =
      trimEnd isNewline source.toList := by
    simp [physicalLines, Function.comp_def, intercalate_pieces]
  refine ⟨by simp [physicalLines, pieces_ne_nil], ?_, ?_, ?_⟩
  · intro text htext
    obtain ⟨piece, hpiece, rfl⟩ := List.mem_map.mp htext
    rw [String.toList_ofList]
    intro hmem
    have hword : piece ∈ words isNewline (trimEnd isNewline source.toList) :=
      List.mem_filter.mpr ⟨hpiece, by simpa using List.ne_nil_of_mem hmem⟩
    exact absurd ((mem_words hword).2 _ hmem) (by decide)
  · have hnewlines : ∀ c ∈ (source.toList.reverse.takeWhile isNewline).reverse, c = '\n' := by
      intro c hc
      simpa [isNewline] using List.mem_takeWhile_imp (List.mem_reverse.mp hc)
    have hcut := trimEnd_append isNewline source.toList
    rw [List.eq_replicate_of_mem hnewlines, ← hjoin] at hcut
    exact ⟨_, hcut⟩
  · rw [hjoin, trimEnd, List.getLast?_reverse]
    intro hlast
    have hfirst := List.head?_dropWhile_not isNewline source.toList.reverse
    rw [hlast] at hfirst
    exact absurd hfirst (by decide)

end Text

open Text

variable {text : String} {texts others : List String} {lines : List Line} {line : Line} {i : Nat}
  {ordinal n : Int} {e : SyntaxError}

/-- The physical line in that place, counted from zero, is read as the line. -/
def Declares (texts : List String) (i : Nat) (line : Line) : Prop :=
  ∃ text, texts[i]? = some text ∧ parseLine (tokenize text (i + 1)) = .ok line

/-- The physical line in that place cannot be read. -/
def Rejects (texts : List String) (i : Nat) (e : SyntaxError) : Prop :=
  ∃ text, texts[i]? = some text ∧ parseLine (tokenize text (i + 1)) = .error e

/-- Of the physical lines that declare the number, the last is read as the line. -/
def DeclaresLast (texts : List String) (n : Int) (line : Line) : Prop :=
  line.number = n ∧ ∃ i, Declares texts i line ∧
    ∀ j > i, ∀ later, Declares texts j later → later.number ≠ n

/-- The same physical lines in another order, those that declare one number still in the order in
which they stood. -/
def Rearranges (texts others : List String) : Prop :=
  ∃ σ : Fin texts.length ≃ Fin others.length, (∀ i, others.get (σ i) = texts.get i) ∧
    ∀ (i j : Fin texts.length) (a b : Line), i < j → Declares texts i a → Declares texts j b →
      a.number = b.number → σ i < σ j

theorem declares_zero (ordinal : Int) : Declares (text :: texts) 0 line ↔
    parseLine (tokenize text ordinal) = .ok line := by
  constructor
  · rintro ⟨_, htext, hread⟩
    cases htext
    exact parseLine_tokenize_ok hread _
  · intro hread
    exact ⟨text, rfl, parseLine_tokenize_ok hread _⟩

theorem declares_succ : Declares (text :: texts) (i + 1) line ↔ Declares texts i line := by
  constructor
  · rintro ⟨text', htext, hread⟩
    exact ⟨text', htext, parseLine_tokenize_ok hread _⟩
  · rintro ⟨text', htext, hread⟩
    exact ⟨text', htext, parseLine_tokenize_ok hread _⟩

theorem getElem?_parseLines (h : parseLines ordinal texts = .ok lines) :
    lines[i]? = some line ↔ Declares texts i line := by
  induction texts generalizing ordinal lines i with
  | nil =>
      cases h
      simp [Declares]
  | cons text texts ih =>
      obtain ⟨first, hfirst, h⟩ := Grammar.of_bind_eq_ok h
      obtain ⟨rest, hrest, h⟩ := Grammar.of_bind_eq_ok h
      cases h
      cases i with
      | zero =>
          rw [declares_zero ordinal, hfirst]
          simp
      | succ i =>
          rw [declares_succ]
          exact ih hrest

theorem map_eq_error_iff {α β : Type} {x : Except SyntaxError α} {f : α → β} :
    x.map f = .error e ↔ x = .error e := by
  cases x <;> simp [Except.map]

/-- Reading stops at the first physical line that cannot be read. -/
theorem parseLines_eq_error_iff : parseLines ordinal texts = .error e ↔
    ∃ (i : Nat) (text : String), texts[i]? = some text ∧
      parseLine (tokenize text (i + ordinal)) = .error e ∧
      ∀ j < i, ∃ line, Declares texts j line := by
  induction texts generalizing ordinal with
  | nil => simp [parseLines]
  | cons text texts ih =>
      rw [← Nat.or_exists_add_one]
      simp only [List.getElem?_cons_zero, List.getElem?_cons_succ, Nat.forall_lt_succ_left,
        declares_zero ordinal, declares_succ]
      cases hread : parseLine (tokenize text ordinal) with
      | error first =>
          have hfirst : parseLines ordinal (text :: texts) = .error first := by
            rw [parseLines, hread]
            rfl
          simp [hfirst, hread]
      | ok line =>
          have hrest : parseLines ordinal (text :: texts) =
              (parseLines (ordinal + 1) texts).map (line :: ·) := by
            rw [parseLines, hread]
            rfl
          have hshift (i : Nat) : i + (ordinal + 1) = (i + 1 : Nat) + ordinal := by omega
          rw [hrest, map_eq_error_iff, ih]
          simp [hread, hshift]

theorem exists_parseLines_iff (ordinal : Int) : (∃ lines, parseLines ordinal texts = .ok lines) ↔
    ∀ i < texts.length, ∃ line, Declares texts i line := by
  constructor
  · rintro ⟨lines, h⟩ i hi
    have hi' : i < lines.length := by
      rw [(parseLines_readable h).1]
      exact hi
    exact ⟨lines[i], (getElem?_parseLines h).mp (List.getElem?_eq_getElem hi')⟩
  · intro h
    cases hread : parseLines ordinal texts with
    | ok lines => exact ⟨lines, rfl⟩
    | error e =>
        obtain ⟨i, text, htext, hi, -⟩ := parseLines_eq_error_iff.mp hread
        obtain ⟨line, text', htext', hline⟩ := h i (List.getElem?_eq_some_iff.mp htext).1
        rw [htext] at htext'
        cases htext'
        rw [parseLine_tokenize_ok hline] at hi
        cases hi

theorem Program.get?_ofLines (lines : List Line) (n : Int) :
    (ofLines lines).get? n = lines.reverse.find? fun line => line.number == n := by
  induction lines using List.reverseRecOn with
  | nil => rfl
  | append_singleton lines line ih =>
      have hstore : ofLines (lines ++ [line]) = (ofLines lines).insert line :=
        List.foldl_append
      rw [hstore, get?_insert, ih, List.reverse_append, List.reverse_singleton,
        List.singleton_append]
      by_cases hn : line.number = n <;> simp [hn]

theorem Program.get?_ofLines_eq_some_iff : (ofLines lines).get? n = some line ↔
    line.number = n ∧ ∃ i : Nat, lines[i]? = some line ∧
      ∀ j > i, ∀ later : Line, lines[j]? = some later → later.number ≠ n := by
  rw [get?_ofLines, List.find?_eq_some_iff_append, beq_iff_eq]
  apply and_congr_right
  intro hn
  constructor
  · rintro ⟨back, front, hreverse, hback⟩
    have hlines : lines = front.reverse ++ line :: back.reverse := by
      rw [← List.reverse_reverse lines, hreverse]
      simp
    refine ⟨front.length, by simp [hlines], ?_⟩
    intro j hj later hlater
    obtain ⟨k, rfl⟩ := Nat.exists_eq_add_of_lt hj
    have hmem : later ∈ back.reverse := by
      apply List.mem_of_getElem? (i := k)
      simpa [hlines, List.getElem?_append_right, Nat.add_assoc] using hlater
    simpa using hback later (List.mem_reverse.mp hmem)
  · rintro ⟨i, hi, hlater⟩
    refine ⟨(lines.drop (i + 1)).reverse, (lines.take i).reverse, ?_, ?_⟩
    · obtain ⟨hlt, hline⟩ := List.getElem?_eq_some_iff.mp hi
      have hlines : lines = lines.take i ++ line :: lines.drop (i + 1) := by
        rw [← hline, List.getElem_cons_drop, List.take_append_drop]
      rw [← List.reverse_inj]
      simpa using hlines
    · intro later hmem
      obtain ⟨j, hj⟩ := List.mem_iff_getElem?.mp (List.mem_reverse.mp hmem)
      rw [List.getElem?_drop] at hj
      simpa using hlater _ (by omega) later hj

theorem ofSource_eq_error_iff {source : String} {failure : Failure} :
    Session.ofSource source = .error failure ↔
      ∃ e, failure = .malformed e ∧ parseProgram source = .error e := by
  unfold Session.ofSource
  cases hparse : parseProgram source with
  | error e => simp [eq_comm]
  | ok p =>
      have hsize : p.size ≠ 0 := fun hzero =>
        (parseProgram_eq_ok hparse).1 (List.length_eq_zero_iff.mp hzero)
      simp [Session.ofProgram, hsize]

theorem Declares.moved {i : Fin texts.length} {j : Fin others.length} (h : Declares texts i line)
    (hj : others.get j = texts.get i) : Declares others j line := by
  obtain ⟨text, htext, hread⟩ := h
  refine ⟨text, ?_, parseLine_tokenize_ok hread _⟩
  rw [← htext, List.getElem?_eq_getElem i.isLt, List.getElem?_eq_getElem j.isLt]
  exact congrArg some hj

theorem Declares.lt_length (h : Declares texts i line) : i < texts.length := by
  obtain ⟨text, htext, -⟩ := h
  exact (List.getElem?_eq_some_iff.mp htext).1

theorem Rearranges.symm (h : Rearranges texts others) : Rearranges others texts := by
  obtain ⟨σ, htexts, horder⟩ := h
  have htexts' : ∀ i, texts.get (σ.symm i) = others.get i := by
    intro i
    rw [← htexts, σ.apply_symm_apply]
  refine ⟨σ.symm, htexts', ?_⟩
  intro i j a b hij ha hb hnumber
  rcases Nat.lt_trichotomy (σ.symm i) (σ.symm j) with hlt | heq | hgt
  · exact hlt
  · rw [σ.symm.injective (Fin.ext heq)] at hij
    exact absurd hij (Nat.lt_irrefl _)
  · have hback := horder _ _ b a hgt (hb.moved (htexts' j)) (ha.moved (htexts' i)) hnumber.symm
    rw [σ.apply_symm_apply, σ.apply_symm_apply] at hback
    exact absurd hij (Nat.lt_asymm hback)

theorem Rearranges.declaresLast (h : Rearranges texts others) (hlast : DeclaresLast texts n line) :
    DeclaresLast others n line := by
  obtain ⟨σ, htexts, horder⟩ := h
  obtain ⟨hn, i, hi, hlater⟩ := hlast
  have hmoved : Declares others (σ ⟨i, hi.lt_length⟩) line := Declares.moved hi (htexts ⟨i, _⟩)
  refine ⟨hn, _, hmoved, ?_⟩
  intro j hj later hdeclares heq
  -- Where the later line stood before is behind `i`, as otherwise it would now stand in front.
  obtain ⟨k, hk⟩ := σ.surjective ⟨j, hdeclares.lt_length⟩
  have hbefore : Declares texts k later :=
    Declares.moved (j := k) (i := ⟨j, hdeclares.lt_length⟩) hdeclares (by rw [← hk, htexts])
  rcases Nat.lt_trichotomy k i with hlt | rfl | hgt
  · have hfront := horder k ⟨i, hi.lt_length⟩ later line hlt hbefore hi (heq.trans hn.symm)
    rw [hk] at hfront
    exact absurd hj (Nat.lt_asymm hfront)
  · rw [hk] at hj
    exact absurd hj (Nat.lt_irrefl _)
  · exact hlater k hgt later hbefore heq

section Sources

variable {source other : String} {p q : Program}

theorem exists_parseProgram_iff : (∃ p, parseProgram source = .ok p) ↔
    ∀ i < (physicalLines source).length, ∃ line, Declares (physicalLines source) i line := by
  rw [← exists_parseLines_iff 1]
  constructor
  · rintro ⟨p, hp⟩
    obtain ⟨lines, hlines, -⟩ := Grammar.map_eq_ok hp
    exact ⟨lines, hlines⟩
  · rintro ⟨lines, hlines⟩
    exact ⟨.ofLines lines, by rw [parseProgram, hlines, Grammar.ok_map]⟩

theorem parseProgram_eq_error_iff : parseProgram source = .error e ↔
    ∃ i, Rejects (physicalLines source) i e ∧
      ∀ j < i, ∃ line, Declares (physicalLines source) j line := by
  rw [parseProgram, map_eq_error_iff, parseLines_eq_error_iff]
  simp only [Rejects, ← exists_and_right, and_assoc]

theorem get?_parseProgram (h : parseProgram source = .ok p) :
    p.get? n = some line ↔ DeclaresLast (physicalLines source) n line := by
  obtain ⟨lines, hlines, rfl⟩ := Grammar.map_eq_ok h
  simp only [Program.get?_ofLines_eq_some_iff, getElem?_parseLines hlines, DeclaresLast]

theorem eq_of_rearranges (hp : parseProgram source = .ok p) (hq : parseProgram other = .ok q)
    (h : Rearranges (physicalLines source) (physicalLines other)) : q = p := by
  apply Program.eq_of_get?
  intro n
  ext line
  rw [get?_parseProgram hq, get?_parseProgram hp]
  exact ⟨h.symm.declaresLast, h.declaresLast⟩

/-- The program is the table of the lines of the source. -/
structure Tabulates (source : String) (p : Program) : Prop where
  nonempty : p.lines ≠ []
  /-- For each number, the last line that declares it. -/
  get?_iff : ∀ n line, p.get? n = some line ↔ DeclaresLast (physicalLines source) n line
  /-- Lines may be moved past lines of other numbers. -/
  rearranged : ∀ other q, parseProgram other = .ok q →
    Rearranges (physicalLines source) (physicalLines other) →
    q.lines = p.lines ∧ q.first? = p.first? ∧ ∀ n, q.after? n = p.after? n

/-- What becomes of a source. -/
structure Loads (source : String) : Prop where
  divides : Divides source (physicalLines source)
  /-- A source is accepted if all its physical lines are read. -/
  accepted_iff : (∃ p, parseProgram source = .ok p) ↔
    ∀ i < (physicalLines source).length, ∃ line, Declares (physicalLines source) i line
  tabulates : ∀ p, parseProgram source = .ok p → Tabulates source p
  refused_iff : ∀ failure, Session.ofSource source = .error failure ↔
    ∃ e, failure = .malformed e ∧ parseProgram source = .error e
  /-- The error is that of the first physical line that is not read. -/
  error_iff : ∀ e, parseProgram source = .error e ↔
    ∃ i, Rejects (physicalLines source) i e ∧
      ∀ j < i, ∃ line, Declares (physicalLines source) j line
  error_line : ∀ i e, Rejects (physicalLines source) i e → e.line = i + 1

theorem parseProgram_keeps_last (source : String) : Loads source := by
  refine ⟨divides_physicalLines source, exists_parseProgram_iff, ?_, fun _ => ofSource_eq_error_iff,
    fun _ => parseProgram_eq_error_iff, ?_⟩
  · intro p hp
    refine ⟨(parseProgram_eq_ok hp).1, fun _ _ => get?_parseProgram hp, ?_⟩
    intro other q hq hmoved
    rw [eq_of_rearranges hp hq hmoved]
    exact ⟨rfl, rfl, fun _ => rfl⟩
  · rintro i e ⟨text, -, hread⟩
    exact line_of_parseLine_tokenize hread

end Sources

def shuffledSource : String := "20 print x\n010 let x=1\n10 let x=-2\n\n"

def shuffledLines : List Line :=
  [⟨20, .print [.expr (.var "x")]⟩, ⟨10, .let_ "x" (.lit 1)⟩,
    ⟨10, .let_ "x" (.binary .sub (.lit 0) (.lit 2))⟩]

def movedSource : String := "010 let x=1\n20 print x\n10 let x=-2"

theorem parseLines_shuffled :
    parseLines 1 (physicalLines shuffledSource) = .ok shuffledLines := by decide +kernel

-- The first two physical lines change places; their numbers differ.
theorem rearranges_shuffled :
    Rearranges (physicalLines shuffledSource) (physicalLines movedSource) := by
  have hlines := parseLines_shuffled
  have hmoved : physicalLines movedSource = ["010 let x=1", "20 print x", "10 let x=-2"] := by
    decide +kernel
  have hshuffled : physicalLines shuffledSource = ["20 print x", "010 let x=1", "10 let x=-2"] := by
    decide +kernel
  rw [hshuffled] at hlines ⊢
  rw [hmoved]
  have hswap : ∀ i j : Fin 3, i < j →
      shuffledLines[i]?.map Line.number = shuffledLines[j]?.map Line.number →
      (Equiv.swap 0 1 : Fin 3 ≃ Fin 3) i < (Equiv.swap 0 1 : Fin 3 ≃ Fin 3) j := by decide
  refine ⟨(Equiv.swap 0 1 : Fin 3 ≃ Fin 3), by decide, ?_⟩
  intro i j a b hij ha hb hnumber
  apply hswap i j hij
  rw [← getElem?_parseLines hlines] at ha hb
  change shuffledLines[i.1]?.map Line.number = shuffledLines[j.1]?.map Line.number
  rw [ha, hb, Option.map_some, Option.map_some, hnumber]

theorem parseProgram_keeps_last_shuffled :
    ∃ p q, parseProgram shuffledSource = .ok p ∧ parseProgram movedSource = .ok q ∧
      p.get? 10 = some ⟨10, .let_ "x" (.binary .sub (.lit 0) (.lit 2))⟩ ∧ q.lines = p.lines ∧
      parseProgram "10 end\n\n20 goto" = .error ⟨2, 0, .noLineNumber⟩ := by
  have hshuffled : parseProgram shuffledSource = .ok (.ofLines shuffledLines) := by
    rw [parseProgram, parseLines_shuffled, Grammar.ok_map]
  have hmoved : ∀ i < (physicalLines movedSource).length,
      ∃ line, Declares (physicalLines movedSource) i line := by
    apply (exists_parseLines_iff 1).mp
    exact ⟨[⟨10, .let_ "x" (.lit 1)⟩, ⟨20, .print [.expr (.var "x")]⟩,
      ⟨10, .let_ "x" (.binary .sub (.lit 0) (.lit 2))⟩], by decide +kernel⟩
  obtain ⟨q, hq⟩ := (parseProgram_keeps_last movedSource).accepted_iff.mpr hmoved
  have hsame := ((parseProgram_keeps_last shuffledSource).tabulates _ hshuffled).rearranged _ q hq
    rearranges_shuffled
  refine ⟨_, q, hshuffled, hq, by decide, hsame.1, ?_⟩
  apply ((parseProgram_keeps_last _).error_iff _).mpr
  refine ⟨1, ⟨"", by decide +kernel, by decide +kernel⟩, ?_⟩
  intro j hj
  obtain rfl : j = 0 := by omega
  exact ⟨⟨10, .end_⟩, "10 end", by decide +kernel, by decide +kernel⟩

end NumberedBasic
