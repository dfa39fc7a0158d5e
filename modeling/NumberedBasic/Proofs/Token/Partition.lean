import NumberedBasic.Proofs.Token.Spelling

/-! How a text is cut up. Each token takes a stretch of the text, the stretches follow one another,
and only white space lies between them. -/
namespace NumberedBasic
open Text Lexeme

theorem spelling_of_ne_string {kind : Kind} (h : kind ≠ .string) (text : String) :
    spelling kind text = text.toList := if_neg h

/-- The characters that follow cannot go on with a token of the kind. -/
def Kind.StopsAt (kind : Kind) (after : List Char) : Prop :=
  match kind with
  | .identifier => Breaks after
  | .keyword _ => Breaks after
  | .integer => ∀ c ∈ after.head?, isAsciiDigit c = false
  | _ => True

/-- What a token is where it takes the first characters and leaves the others. -/
inductive Covers : Kind → String → List Char → List Char → Prop
  | spelled {kind : Kind} {text : String} {after : List Char} : Spelled kind text →
      kind.StopsAt after → Covers kind text (spelling kind text) after
  | invalid {c : Char} {after : List Char} : isIdentifierStart c = false →
      Covers .error (Lexeme.invalid c).text [c] after
  | unclosed {cs : List Char} : (∀ d ∈ cs, d ≠ '"' ∧ d ≠ '\n') →
      Covers .error "unclosed string literal" ('"' :: cs) []
  | lineEnd {cs rest : List Char} : (∀ d ∈ cs, d ≠ '"' ∧ d ≠ '\n') →
      Covers .error "line end in string literal" ('"' :: (cs ++ '\n' :: rest)) []

theorem of_mem_head?_dropWhile {p : Char → Bool} {cs : List Char} {d : Char}
    (h : d ∈ (cs.dropWhile p).head?) : p d = false := by
  have hhead := cs.head?_dropWhile_not p
  rw [Option.mem_def.mp h] at hhead
  exact hhead

theorem drop_length_takeWhile (p : Char → Bool) (cs : List Char) :
    cs.drop (cs.takeWhile p).length = cs.dropWhile p := by
  have hcs := List.prefix_iff_eq_append.mp (List.takeWhile_prefix p (l := cs))
  exact List.append_cancel_left (hcs.trans List.takeWhile_append_dropWhile.symm)

/-- The lexeme takes as many of the characters as it is wide. -/
def Lexeme.Starts (lexeme : Lexeme) (cs : List Char) : Prop :=
  ∃ slice after, cs = slice ++ after ∧ slice.length = lexeme.width ∧
    Covers lexeme.kind lexeme.text slice after

theorem word_starts {c : Char} (hc : isIdentifierStart c = true) (rest : List Char) :
    (word c rest).Starts (c :: rest) := by
  have hparts : ∀ d ∈ rest.takeWhile isIdentifierPart, isIdentifierPart d = true :=
    fun _ => List.mem_takeWhile_imp
  have hbreaks : Breaks (rest.dropWhile isIdentifierPart) := fun _ => of_mem_head?_dropWhile
  refine ⟨c :: rest.takeWhile isIdentifierPart, rest.dropWhile isIdentifierPart, ?_, rfl, ?_⟩
  · rw [List.cons_append, List.takeWhile_append_dropWhile]
  · unfold word
    dsimp only
    split
    · rename_i k hk
      have hcovers := Covers.spelled (.keyword k) hbreaks
      rwa [spelling_of_ne_string (by simp), Keyword.spelling_of_ofWord? hk,
        String.toList_ofList] at hcovers
    · rename_i hk
      have hcovers := Covers.spelled (.identifier hc hparts hk) hbreaks
      rwa [spelling_of_ne_string (by simp), String.toList_ofList] at hcovers

theorem numeral_starts {c : Char} (hc : isAsciiDigit c = true) (rest : List Char) :
    (numeral c rest).Starts (c :: rest) := by
  have hdigits : ∀ d ∈ c :: rest.takeWhile isAsciiDigit, isAsciiDigit d = true :=
    List.forall_mem_cons.mpr ⟨hc, fun _ => List.mem_takeWhile_imp⟩
  have hstops : Kind.integer.StopsAt (rest.dropWhile isAsciiDigit) :=
    fun _ => of_mem_head?_dropWhile
  refine ⟨c :: rest.takeWhile isAsciiDigit, rest.dropWhile isAsciiDigit, ?_, rfl, ?_⟩
  · rw [List.cons_append, List.takeWhile_append_dropWhile]
  · have hcovers := Covers.spelled (.integer hdigits) hstops
    rwa [spelling_of_ne_string (by simp), String.toList_ofList] at hcovers

theorem quoted_starts (rest : List Char) : (quoted rest).Starts ('"' :: rest) := by
  have hbody : ∀ d ∈ rest.takeWhile fun c => c != '"' && c != '\n', d ≠ '"' ∧ d ≠ '\n' := by
    intro d hd
    simpa using List.mem_takeWhile_imp hd
  have hrest := List.takeWhile_append_dropWhile (p := fun c => c != '"' && c != '\n') (l := rest)
  have hstop : ∀ d ∈ (rest.dropWhile fun c => c != '"' && c != '\n').head?, d = '"' ∨ d = '\n' := by
    intro d hd
    have hd := of_mem_head?_dropWhile hd
    by_cases hquote : d = '"'
    · exact .inl hquote
    · exact .inr (by simpa [hquote] using hd)
  unfold quoted
  dsimp only
  rw [drop_length_takeWhile]
  split
  · rename_i after htail
    rw [htail] at hrest
    refine ⟨_, after, ?_, ?_, .spelled (.string hbody) trivial⟩
    · simpa [spelling] using hrest.symm
    · simp [spelling]
  · rename_i htail
    rw [htail, List.append_nil] at hrest
    rw [hrest] at hbody
    exact ⟨'"' :: rest, [], (List.append_nil _).symm, rfl, .unclosed hbody⟩
  · -- What the body stops at is no quote, so that it is the end of a line.
    rename_i hquote hnil
    cases htail : rest.dropWhile fun c => c != '"' && c != '\n' with
    | nil => exact absurd htail hnil
    | cons d more =>
        rw [htail] at hrest hstop
        rcases hstop d rfl with rfl | rfl
        · exact absurd htail (hquote more)
        · refine ⟨'"' :: rest, [], (List.append_nil _).symm, rfl, ?_⟩
          rw [← hrest]
          exact .lineEnd hbody

theorem read_starts (c : Char) (rest : List Char) : (read c rest).Starts (c :: rest) := by
  unfold Lexeme.read
  by_cases hstart : isIdentifierStart c = true
  · rw [if_pos hstart]
    exact word_starts hstart rest
  rw [if_neg hstart]
  by_cases hdigit : isAsciiDigit c = true
  · rw [if_pos hdigit]
    exact numeral_starts hdigit rest
  rw [if_neg hdigit]
  by_cases hquote : c = '"'
  · rw [if_pos (beq_iff_eq.mpr hquote), hquote]
    exact quoted_starts rest
  rw [if_neg (by simpa using hquote)]
  cases hsymbol : Symbol.ofChar? c with
  | some s =>
      rw [← Symbol.char_of_ofChar? hsymbol]
      have hspelling : spelling (.symbol s) s.char.toString = [s.char] := by simp [spelling]
      have hcovers : Covers _ _ _ rest := .spelled (.symbol s) trivial
      rw [hspelling] at hcovers
      exact ⟨[s.char], rest, rfl, rfl, hcovers⟩
  | none => exact ⟨[c], rest, rfl, rfl, .invalid (by simpa using hstart)⟩

/-- The tokens of the characters from a column on, each with the stretch that it takes. -/
inductive Tiles (line : Int) : Nat → List Char → List Token → Prop
  | done {column : Nat} : Tiles line column [] [Token.eol line column]
  | blank {column : Nat} {c : Char} {rest : List Char} {tokens : List Token} : isSpace c = true →
      Tiles line (column + 1) rest tokens → Tiles line column (c :: rest) tokens
  | token {column : Nat} {kind : Kind} {text : String} {slice after : List Char}
      {tokens : List Token} : Covers kind text slice after →
      Tiles line (column + slice.length) after tokens →
      Tiles line column (slice ++ after) (⟨kind, text, line, column⟩ :: tokens)

theorem scan_tiles (line : Int) (column : Nat) (cs : List Char) :
    Tiles line column cs (scan line column cs) := by
  fun_induction scan line column cs with
  | case1 column => exact .done
  | case2 column c rest hc ih => exact .blank hc ih
  | case3 column c rest hc lexeme ih =>
      obtain ⟨slice, after, hcs, hwidth, hcovers⟩ := read_starts c rest
      have hafter : rest.drop (lexeme.width - 1) = after := by
        have hdrop : (c :: rest).drop lexeme.width = after := by
          rw [hcs, ← hwidth, List.drop_left]
        rwa [← Nat.sub_add_cancel lexeme.width_pos, List.drop_succ_cons] at hdrop
      rw [hafter, ← hwidth] at ih ⊢
      rw [hcs]
      exact .token hcovers ih

namespace Token

/-- How many characters a token takes in a text of the given size. A string has its quotes besides
its text, and a string that does not end takes all there is. -/
def extent (size : Nat) (t : Token) : Nat :=
  match t.kind with
  | .eol => 0
  | .string => t.text.length + 2
  | .error =>
      if t.text = "unclosed string literal" ∨ t.text = "line end in string literal" then
        size - t.column.toNat
      else 1
  | _ => t.text.length

/-- The character at the place belongs to the token. -/
def Spans (size : Nat) (t : Token) (i : Nat) : Prop :=
  t.column ≤ i ∧ i < t.column + t.extent size

/-- The characters that a token takes. -/
def slice (source : List Char) (t : Token) : List Char :=
  (source.drop t.column.toNat).take (t.extent source.length)

/-- The characters behind a token. -/
def after (source : List Char) (t : Token) : List Char :=
  source.drop (t.column.toNat + t.extent source.length)

end Token

variable {kind : Kind} {text : String} {slice after source : List Char} {line : Int} {t : Token}

theorem invalid_text_ne (c : Char) :
    (Lexeme.invalid c).text ≠ "unclosed string literal" ∧
      (Lexeme.invalid c).text ≠ "line end in string literal" := by
  constructor
  · intro h
    have := congrArg (fun text => text.toList.head?) h
    simp [Lexeme.invalid] at this
  · intro h
    have := congrArg (fun text => text.toList.head?) h
    simp [Lexeme.invalid] at this

theorem Covers.extent_eq (h : Covers kind text slice after) {size column : Nat}
    (hsize : column + (slice ++ after).length = size) (line : Int) :
    Token.extent size ⟨kind, text, line, column⟩ = slice.length := by
  subst hsize
  cases h with
  | spelled hspelled hstops =>
      cases hspelled with
      | string hcs => simp [Token.extent, spelling]
      | _ => exact String.length_toList.symm
  | @invalid c after hc => simp [Token.extent, invalid_text_ne]
  | unclosed hcs => simp [Token.extent]
  | lineEnd hcs => simp [Token.extent]

theorem Covers.slice_pos (h : Covers kind text slice after) : 0 < slice.length := by
  cases h with
  | spelled hspelled hstops =>
      cases hspelled with
      | keyword k =>
          obtain ⟨c, cs, hlist, -, -⟩ := k.toList_spelling
          simp [spelling, hlist]
      | _ => simp [spelling]
  | _ => simp

theorem Covers.kind_ne_eol (h : Covers kind text slice after) : kind ≠ .eol := by
  cases h with
  | spelled hspelled hstops => exact hspelled.ne_eol
  | _ => simp

theorem Spelled.ne_error (h : Spelled kind text) : kind ≠ .error := by
  cases h <;> simp

theorem Covers.stopsAt (h : Covers kind text slice after) : kind.StopsAt after := by
  cases h with
  | spelled hspelled hstops => exact hstops
  | _ => trivial

theorem Covers.slice_eq (h : Covers kind text slice after) (hkind : kind ≠ .error) :
    slice = spelling kind text := by
  cases h with
  | spelled hspelled hstops => rfl
  | _ => exact absurd rfl hkind

theorem Covers.faulty (h : Covers kind text slice after) (hkind : kind = .error) :
    (∃ c, text = (Lexeme.invalid c).text ∧ slice = [c]) ∨
      (text = "unclosed string literal" ∨ text = "line end in string literal") ∧
        slice.head? = some '"' ∧ after = [] := by
  cases h with
  | spelled hspelled hstops => exact absurd hkind hspelled.ne_error
  | @invalid c after hc => exact .inl ⟨c, rfl, rfl⟩
  | unclosed hcs => exact .inr ⟨.inl rfl, rfl, rfl⟩
  | lineEnd hcs => exact .inr ⟨.inr rfl, rfl, rfl⟩

theorem ofWord?_eq_none {c : Char} (h : isIdentifierStart c = false) (cs : List Char) :
    Keyword.ofWord? (String.ofList (c :: cs)) = none := by
  cases hword : Keyword.ofWord? (String.ofList (c :: cs)) with
  | none => rfl
  | some k =>
      obtain ⟨d, ds, hlist, hd, -⟩ := k.toList_spelling
      rw [Keyword.spelling_of_ofWord? hword, String.toList_ofList] at hlist
      cases hlist
      rw [h] at hd
      cases hd

theorem Symbol.isIdentifierStart_char (s : Symbol) : isIdentifierStart s.char = false := by
  cases s <;> decide

theorem Spelled.keyword_iff (h : Spelled kind text) (k : Keyword) :
    kind = .keyword k ↔ Keyword.ofWord? (String.ofList (spelling kind text)) = some k := by
  cases h with
  | identifier hc hcs hword =>
      rw [spelling_of_ne_string (by simp), String.ofList_toList, hword]
      simp
  | keyword k' =>
      rw [spelling_of_ne_string (by simp), String.ofList_toList, Keyword.ofWord?_spelling]
      simp
  | @integer c cs hcs =>
      have hstart := isIdentifierStart_of_isAsciiDigit (hcs c List.mem_cons_self)
      rw [spelling_of_ne_string (by simp), String.ofList_toList, ofWord?_eq_none hstart]
      simp
  | string hcs =>
      rw [spelling, if_pos rfl, ofWord?_eq_none (by decide)]
      simp
  | symbol s =>
      rw [spelling_of_ne_string (by simp), String.ofList_toList]
      change _ ↔ Keyword.ofWord? (String.ofList [s.char]) = some k
      rw [ofWord?_eq_none s.isIdentifierStart_char]
      simp

theorem Covers.keyword_iff (h : Covers kind text slice after) (k : Keyword) :
    kind = .keyword k ↔ Keyword.ofWord? (String.ofList slice) = some k := by
  cases h with
  | spelled hspelled hstops => exact hspelled.keyword_iff k
  | invalid hc =>
      rw [ofWord?_eq_none hc]
      simp
  | unclosed hcs | lineEnd hcs =>
      rw [ofWord?_eq_none (by decide)]
      simp

/-- Where a token stands in a text. -/
inductive Token.Placed (source : List Char) (line : Int) : Token → Prop
  | eol : Placed source line (Token.eol line source.length)
  | token {kind : Kind} {text : String} {front slice after : List Char} :
      source = front ++ (slice ++ after) → Covers kind text slice after →
      Placed source line ⟨kind, text, line, front.length⟩

namespace Token.Placed

theorem line_eq (h : t.Placed source line) : t.line = line := by
  cases h <;> rfl

theorem fits (h : t.Placed source line) :
    0 ≤ t.column ∧ t.column + t.extent source.length ≤ source.length := by
  cases h with
  | eol => simp [Token.eol, extent]
  | @token kind text front slice after hsource hcovers =>
      have hsize := congrArg List.length hsource
      simp only [List.length_append] at hsize
      rw [hcovers.extent_eq (by simp [hsource])]
      dsimp only
      omega

theorem covers (h : t.Placed source line) (hkind : t.kind ≠ .eol) :
    Covers t.kind t.text (t.slice source) (t.after source) := by
  cases h with
  | eol => exact absurd rfl hkind
  | @token kind text front slice after hsource hcovers =>
      rw [Token.slice, Token.after, hcovers.extent_eq (by simp [hsource])]
      simpa [hsource] using hcovers

theorem extent_pos (h : t.Placed source line) (hkind : t.kind ≠ .eol) :
    0 < t.extent source.length := by
  have hpos := (h.covers hkind).slice_pos
  rw [Token.slice, List.length_take] at hpos
  omega

theorem stopsAt (h : t.Placed source line) : t.kind.StopsAt (t.after source) := by
  by_cases hkind : t.kind = .eol
  · rw [hkind]
    trivial
  · exact (h.covers hkind).stopsAt

theorem keyword_iff (h : t.Placed source line) (k : Keyword) :
    t.kind = .keyword k ↔ Keyword.ofWord? (String.ofList (t.slice source)) = some k := by
  by_cases hkind : t.kind = .eol
  · have hslice : t.slice source = [] := by simp [Token.slice, extent, hkind]
    have hempty : Keyword.ofWord? (String.ofList []) = none := by decide
    simp [hslice, hkind, hempty]
  · exact (h.covers hkind).keyword_iff k

end Token.Placed

section Tiles

variable {column size : Nat} {cs : List Char} {tokens : List Token}

theorem Tiles.placed (h : Tiles line column cs tokens) (front : List Char)
    (hcolumn : front.length = column) : ∀ t ∈ tokens, t.Placed (front ++ cs) line := by
  induction h generalizing front with
  | @done column =>
      intro t ht
      rw [List.mem_singleton.mp ht, ← hcolumn, List.append_nil]
      exact .eol
  | @blank column c rest tokens hc htiles ih =>
      rw [List.append_cons]
      exact ih (front ++ [c]) (by rw [List.length_append, hcolumn, List.length_singleton])
  | @token column kind text slice after tokens hcovers htiles ih =>
      rw [List.forall_mem_cons]
      constructor
      · rw [← hcolumn]
        exact .token rfl hcovers
      · rw [← List.append_assoc]
        exact ih (front ++ slice) (by rw [List.length_append, hcolumn])

theorem Tiles.column_le (h : Tiles line column cs tokens) : ∀ t ∈ tokens, column ≤ t.column := by
  induction h with
  | done => simp [Token.eol]
  | blank hc htiles ih =>
      intro t ht
      have := ih t ht
      omega
  | token hcovers htiles ih =>
      rw [List.forall_mem_cons]
      refine ⟨Int.le_refl _, fun t ht => ?_⟩
      have := ih t ht
      omega

theorem Tiles.ordered (h : Tiles line column cs tokens) (hsize : column + cs.length = size) :
    tokens.Pairwise fun a b => a.column + (a.extent size : Int) ≤ b.column := by
  induction h with
  | done => exact List.pairwise_singleton _ _
  | blank hc htiles ih =>
      rw [List.length_cons] at hsize
      exact ih (by omega)
  | token hcovers htiles ih =>
      rw [List.pairwise_cons, hcovers.extent_eq hsize]
      rw [List.length_append] at hsize
      exact ⟨htiles.column_le, ih (by omega)⟩

theorem Tiles.spanned {i : Nat} {c : Char} (h : Tiles line column cs tokens)
    (hsize : column + cs.length = size) (hi : column ≤ i) (hc : cs[i - column]? = some c) :
    isSpace c = true ∨ ∃ t ∈ tokens, t.Spans size i := by
  induction h with
  | done => cases hc
  | @blank column d rest tokens hd htiles ih =>
      rw [List.length_cons] at hsize
      rcases Nat.eq_or_lt_of_le hi with rfl | hlt
      · rw [Nat.sub_self] at hc
        cases hc
        exact .inl hd
      · rw [show i - column = i - (column + 1) + 1 by omega] at hc
        exact ih (by omega) hlt hc
  | @token column kind text slice after tokens hcovers htiles ih =>
      have hextent := hcovers.extent_eq hsize line
      rw [List.length_append] at hsize
      by_cases hlt : i < column + slice.length
      · refine .inr ⟨_, List.mem_cons_self, Int.ofNat_le.mpr hi, ?_⟩
        rw [hextent]
        exact Int.ofNat_lt.mpr hlt
      · rw [List.getElem?_append_right (by omega), Nat.sub_sub] at hc
        obtain hspace | ⟨t, ht, hspans⟩ := ih (by omega) (by omega) hc
        · exact .inl hspace
        · exact .inr ⟨t, List.mem_cons_of_mem _ ht, hspans⟩

theorem Tiles.ends (h : Tiles line column cs tokens) (hsize : column + cs.length = size) :
    ∃ body, tokens = body ++ [Token.eol line size] ∧ ∀ t ∈ body, t.kind ≠ .eol := by
  induction h with
  | done =>
      subst hsize
      exact ⟨[], rfl, by simp⟩
  | blank hc htiles ih =>
      rw [List.length_cons] at hsize
      exact ih (by omega)
  | token hcovers htiles ih =>
      rw [List.length_append] at hsize
      obtain ⟨body, htokens, hbody⟩ := ih (by omega)
      exact ⟨_ :: body, congrArg _ htokens, List.forall_mem_cons.mpr ⟨hcovers.kind_ne_eol, hbody⟩⟩

end Tiles

/-- How the tokens of a line divide its text among themselves. -/
structure Partition (source : List Char) (line : Int) (tokens : List Token) : Prop where
  /-- There is one end of the line, behind everything else. -/
  ends : ∃ body, tokens = body ++ [Token.eol line source.length] ∧ ∀ t ∈ body, t.kind ≠ .eol
  lines : ∀ t ∈ tokens, t.line = line
  fits : ∀ t ∈ tokens, 0 ≤ t.column ∧ t.column + t.extent source.length ≤ source.length
  takes : ∀ t ∈ tokens, t.kind ≠ .eol → 0 < t.extent source.length
  ordered : tokens.Pairwise fun a b => a.column + (a.extent source.length : Int) ≤ b.column
  /-- What lies between the tokens is white space. -/
  spanned : ∀ i c, source[i]? = some c →
    isSpace c = true ∨ ∃ t ∈ tokens, t.Spans source.length i
  spelled : ∀ t ∈ tokens, t.kind ≠ .eol → t.kind ≠ .error →
    t.slice source = spelling t.kind t.text
  /-- An error names the character it takes, or it takes a string that does not end. -/
  faulty : ∀ t ∈ tokens, t.kind = .error →
    (∃ c, t.text = (Lexeme.invalid c).text ∧ t.slice source = [c]) ∨
      (t.text = "unclosed string literal" ∨ t.text = "line end in string literal") ∧
        (t.slice source).head? = some '"' ∧ t.after source = []
  longest : ∀ t ∈ tokens, t.kind.StopsAt (t.after source)
  keywords : ∀ t ∈ tokens, ∀ k,
    t.kind = .keyword k ↔ Keyword.ofWord? (String.ofList (t.slice source)) = some k

/-- Every text is divided among its tokens, whatever is written in it. -/
theorem tokenize_partition (text : String) (line : Int) :
    Partition text.toList line (tokenize text line) := by
  have htiles := scan_tiles line 0 text.toList
  have hplaced : ∀ t ∈ tokenize text line, t.Placed text.toList line := htiles.placed [] rfl
  exact {
    ends := htiles.ends (Nat.zero_add _)
    lines := fun t ht => (hplaced t ht).line_eq
    fits := fun t ht => (hplaced t ht).fits
    takes := fun t ht => (hplaced t ht).extent_pos
    ordered := htiles.ordered (Nat.zero_add _)
    spanned := fun i c => htiles.spanned (Nat.zero_add _) (Nat.zero_le i)
    spelled := by
      intro t ht heol herror
      exact ((hplaced t ht).covers heol).slice_eq herror
    faulty := by
      intro t ht herror
      have heol : t.kind ≠ .eol := by simp [herror]
      exact ((hplaced t ht).covers heol).faulty herror
    longest := fun t ht => (hplaced t ht).stopsAt
    keywords := fun t ht => (hplaced t ht).keyword_iff }

end NumberedBasic
