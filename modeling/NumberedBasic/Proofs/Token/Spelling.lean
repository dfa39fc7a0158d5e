import Mathlib.Data.List.TakeWhile
import NumberedBasic.Proofs.Grammar.Line
import NumberedBasic.Token.Lexer

/-! How tokens are spelled. Every token of a text that is no error is spelled by the rules, and the
spelling of a token is read as that token where no part of a word follows. -/
namespace NumberedBasic
open Text

/-- A code point of one set of ranges lies in none of another that has no range in common with
it. -/
theorem inRanges_of_disjoint {n : Nat} {a b : List (Nat × Nat)}
    (hdisjoint : ∀ r ∈ a, ∀ s ∈ b, r.2 < s.1 ∨ s.2 < r.1) (h : inRanges n a = true) :
    inRanges n b = false := by
  by_contra hb
  rw [Bool.not_eq_false] at hb
  obtain ⟨r, hr, hr1, hr2⟩ := exists_of_inRanges h
  obtain ⟨s, hs, hs1, hs2⟩ := exists_of_inRanges hb
  rcases hdisjoint r hr s hs with h | h <;> omega

theorem isSpace_of_isLetter {c : Char} (h : isLetter c = true) : isSpace c = false :=
  inRanges_of_disjoint (by decide +kernel) h

theorem inRanges_of_lt {n low high : Nat} {rest : List (Nat × Nat)} (h : n < low) :
    inRanges n ((low, high) :: rest) = false := by
  rw [inRanges, if_pos h]

theorem isLetter_of_isAsciiDigit {c : Char} (h : isAsciiDigit c = true) : isLetter c = false := by
  have hc := Decimal.isAsciiDigit_iff.mp h
  exact inRanges_of_lt (by omega)

theorem isDecimalDigit_of_isAsciiDigit {c : Char} (h : isAsciiDigit c = true) :
    isDecimalDigit c = true := by
  have hc := Decimal.isAsciiDigit_iff.mp h
  rw [isDecimalDigit, decimalDigitRanges, inRanges, if_neg (by omega)]
  simp [hc.2]

theorem isSpace_of_isAsciiDigit {c : Char} (h : isAsciiDigit c = true) : isSpace c = false := by
  have hc := Decimal.isAsciiDigit_iff.mp h
  have h1 : ¬ c.toNat < 0x9 := by omega
  have h2 : ¬ c.toNat ≤ 0xd := by omega
  have h3 : ¬ c.toNat < 0x20 := by omega
  have h4 : ¬ c.toNat ≤ 0x20 := by omega
  simp only [isSpace, spaceRanges, inRanges, h1, h2, h3, h4, if_false, decide_false, Bool.false_or]
  exact if_pos (by omega)

namespace Lexeme

theorem isSpace_of_isIdentifierStart {c : Char} (h : isIdentifierStart c = true) :
    isSpace c = false := by
  simp only [isIdentifierStart, Bool.or_eq_true, beq_iff_eq] at h
  rcases h with (h | rfl) | rfl
  · exact isSpace_of_isLetter h
  · decide
  · decide

theorem isIdentifierStart_of_isAsciiDigit {c : Char} (h : isAsciiDigit c = true) :
    isIdentifierStart c = false := by
  have hc := Decimal.isAsciiDigit_iff.mp h
  have hunderscore : c ≠ '_' := by
    rintro rfl
    exact absurd hc (by decide)
  have hdollar : c ≠ '$' := by
    rintro rfl
    exact absurd hc (by decide)
  simp [isIdentifierStart, isLetter_of_isAsciiDigit h, hunderscore, hdollar]

theorem isIdentifierPart_of_isAsciiDigit {c : Char} (h : isAsciiDigit c = true) :
    isIdentifierPart c = true := by
  simp [isIdentifierPart, isDecimalDigit_of_isAsciiDigit h]

end Lexeme

open Lexeme

/-- The kinds and texts that tokens can have. -/
inductive Spelled : Kind → String → Prop
  | identifier {c : Char} {cs : List Char} :
      isIdentifierStart c = true → (∀ d ∈ cs, isIdentifierPart d = true) →
      Keyword.ofWord? (String.ofList (c :: cs)) = none →
      Spelled .identifier (String.ofList (c :: cs))
  | keyword (k : Keyword) : Spelled (.keyword k) k.spelling
  | integer {c : Char} {cs : List Char} :
      (∀ d ∈ c :: cs, isAsciiDigit d = true) → Spelled .integer (String.ofList (c :: cs))
  | string {cs : List Char} :
      (∀ d ∈ cs, d ≠ '"' ∧ d ≠ '\n') → Spelled .string (String.ofList cs)
  | symbol (s : Symbol) : Spelled (.symbol s) s.char.toString

theorem spelled_identifier_iff {name : String} : Spelled .identifier name ↔
    name.toList.head?.any isIdentifierStart = true ∧
      name.toList.tail.all isIdentifierPart = true ∧ Keyword.ofWord? name = none := by
  rw [List.all_eq_true]
  constructor
  · intro h
    cases h with
    | identifier hc hcs hword =>
        rw [String.toList_ofList]
        exact ⟨hc, hcs, hword⟩
  · rintro ⟨hc, hcs, hword⟩
    cases hlist : name.toList with
    | nil => simp [hlist] at hc
    | cons c cs =>
        rw [hlist] at hc hcs
        rw [← String.ofList_toList (s := name), hlist] at hword ⊢
        exact .identifier hc hcs hword

instance (name : String) : Decidable (Spelled .identifier name) :=
  decidable_of_iff _ spelled_identifier_iff.symm

theorem read_spelled (c : Char) (rest : List Char) :
    (Lexeme.read c rest).kind = .error ∨
      Spelled (Lexeme.read c rest).kind (Lexeme.read c rest).text := by
  unfold Lexeme.read
  split
  · rename_i hc
    right
    unfold word
    dsimp only
    split
    · rename_i k hk
      rw [← Keyword.spelling_of_ofWord? hk]
      exact .keyword k
    · rename_i hk
      exact .identifier hc (fun d hd => List.mem_takeWhile_imp hd) hk
  · split
    · rename_i hc
      right
      refine .integer fun d hd => ?_
      cases List.mem_cons.mp hd with
      | inl hd => exact hd ▸ hc
      | inr hd => exact List.mem_takeWhile_imp hd
    · split
      · unfold quoted
        dsimp only
        split
        · right
          refine .string fun d hd => ?_
          simpa using List.mem_takeWhile_imp hd
        · exact .inl rfl
        · exact .inl rfl
      · split
        · rename_i s hs
          right
          rw [← Symbol.char_of_ofChar? hs]
          exact .symbol s
        · exact .inl rfl

theorem Spelled.ne_eol {k : Kind} {text : String} (h : Spelled k text) : k ≠ .eol := by
  cases h <;> simp

theorem scan_spelled (line : Int) (column : Nat) (cs : List Char) :
    ∀ t ∈ scan line column cs, t.kind = .eol ∨ t.kind = .error ∨ Spelled t.kind t.text := by
  fun_induction scan line column cs with
  | case1 column => simp [Token.eol]
  | case2 column c rest hc ih => exact ih
  | case3 column c rest hc lexeme ih =>
      intro t ht
      cases List.mem_cons.mp ht with
      | inl ht => exact ht ▸ .inr (read_spelled c rest)
      | inr ht => exact ih t ht

theorem endsOnce_scan (line : Int) (column : Nat) (cs : List Char) :
    Grammar.EndsOnce (scan line column cs) := by
  fun_induction scan line column cs with
  | case1 column => exact ⟨[], _, rfl, rfl, by simp⟩
  | case2 column c rest hc ih => exact ih
  | case3 column c rest hc lexeme ih =>
      obtain ⟨body, last, heq, hlast, hbody⟩ := ih
      refine ⟨_ :: body, last, by rw [heq]; rfl, hlast, fun t ht => ?_⟩
      cases List.mem_cons.mp ht with
      | inl ht =>
          subst ht
          rcases read_spelled c rest with h | h
          · exact fun hk => by simp [lexeme, h] at hk
          · exact h.ne_eol
      | inr ht => exact hbody t ht

/-- What a token is, apart from its place. -/
abbrev Content := Kind × String

def Token.content (t : Token) : Content := (t.kind, t.text)

def contents (cs : List Char) : List Content := (scan 0 0 cs).map Token.content

theorem map_content_scan (line : Int) (column : Nat) (cs : List Char) :
    (scan line column cs).map Token.content = contents cs := by
  suffices h : ∀ line' column',
      (scan line column cs).map Token.content = (scan line' column' cs).map Token.content from h 0 0
  fun_induction scan line column cs with
  | case1 column => intro line' column'; simp [scan, Token.content, Token.eol]
  | case2 column c rest hc ih =>
      intro line' column'
      rw [scan, if_pos hc]
      exact ih line' (column' + 1)
  | case3 column c rest hc lexeme ih =>
      intro line' column'
      rw [scan, if_neg hc, List.map_cons, List.map_cons, ih line' (column' + lexeme.width)]
      rfl

@[simp] theorem contents_nil : contents [] = [(.eol, "<eol>")] := by
  simp [contents, scan, Token.content, Token.eol]

theorem contents_space {c : Char} {rest : List Char} (h : isSpace c = true) :
    contents (c :: rest) = contents rest := by
  rw [contents, scan, if_pos h, map_content_scan]

theorem contents_read {c : Char} {rest : List Char} (h : isSpace c = false) :
    contents (c :: rest) = ((Lexeme.read c rest).kind, (Lexeme.read c rest).text)
      :: contents (rest.drop ((Lexeme.read c rest).width - 1)) := by
  rw [contents, scan, if_neg (by simp [h]), List.map_cons, map_content_scan]
  rfl

/-- No part of a word stands in front. -/
def Breaks (rest : List Char) : Prop := ∀ c ∈ rest.head?, isIdentifierPart c = false

theorem takeWhile_append_of_head {p : Char → Bool} {cs rest : List Char}
    (hcs : ∀ c ∈ cs, p c = true) (hrest : ∀ c ∈ rest.head?, p c = false) :
    (cs ++ rest).takeWhile p = cs := by
  rw [List.takeWhile_append_of_pos hcs]
  cases rest with
  | nil => simp
  | cons c rest => simp [hrest c rfl]

theorem Breaks.not_digit {rest : List Char} (h : Breaks rest) :
    ∀ c ∈ rest.head?, isAsciiDigit c = false := by
  intro c hc
  by_contra hdigit
  rw [Bool.not_eq_false] at hdigit
  have hpart := h c hc
  rw [isIdentifierPart_of_isAsciiDigit hdigit] at hpart
  cases hpart

/-- The characters of a token. Those of a string stand between quotes. -/
def spelling (k : Kind) (text : String) : List Char :=
  if k = .string then '"' :: (text.toList ++ ['"']) else text.toList

theorem contents_word {c : Char} {cs rest : List Char} (hc : isIdentifierStart c = true)
    (hcs : ∀ d ∈ cs, isIdentifierPart d = true) (hrest : Breaks rest) :
    contents (c :: (cs ++ rest)) =
      ((Keyword.ofWord? (String.ofList (c :: cs))).elim .identifier .keyword,
        String.ofList (c :: cs)) :: contents rest := by
  rw [contents_read (isSpace_of_isIdentifierStart hc), Lexeme.read, if_pos hc]
  simp only [word, takeWhile_append_of_head hcs hrest, Nat.add_sub_cancel, List.drop_left]
  cases Keyword.ofWord? (String.ofList (c :: cs)) <;> rfl

theorem contents_numeral {c : Char} {cs rest : List Char}
    (hcs : ∀ d ∈ c :: cs, isAsciiDigit d = true) (hrest : Breaks rest) :
    contents (c :: (cs ++ rest)) = (.integer, String.ofList (c :: cs)) :: contents rest := by
  have hc : isAsciiDigit c = true := hcs c (by simp)
  have htail : (cs ++ rest).takeWhile isAsciiDigit = cs :=
    takeWhile_append_of_head (fun d hd => hcs d (by simp [hd])) hrest.not_digit
  rw [contents_read (isSpace_of_isAsciiDigit hc), Lexeme.read,
    if_neg (by simp [isIdentifierStart_of_isAsciiDigit hc]), if_pos hc]
  simp only [numeral, htail, Nat.add_sub_cancel, List.drop_left]

theorem contents_quoted {cs rest : List Char} (hcs : ∀ d ∈ cs, d ≠ '"' ∧ d ≠ '\n') :
    contents ('"' :: (cs ++ '"' :: rest)) = (.string, String.ofList cs) :: contents rest := by
  have hbody : (cs ++ '"' :: rest).takeWhile (fun c => c != '"' && c != '\n') = cs :=
    takeWhile_append_of_head (fun d hd => by simpa using hcs d hd) (by simp)
  have hread : Lexeme.read '"' (cs ++ '"' :: rest) = quoted (cs ++ '"' :: rest) := by
    rw [Lexeme.read, if_neg (by decide), if_neg (by decide), if_pos (by decide)]
  rw [contents_read (by decide), hread]
  simp [quoted, hbody]

theorem contents_symbol (s : Symbol) (rest : List Char) :
    contents (s.char :: rest) = (.symbol s, s.char.toString) :: contents rest := by
  have hchar : isSpace s.char = false ∧ isIdentifierStart s.char = false ∧
      isAsciiDigit s.char = false ∧ s.char ≠ '"' := by
    cases s <;> decide
  rw [contents_read hchar.1]
  simp [Lexeme.read, hchar.2, Symbol.ofChar?_char]

theorem Keyword.toList_spelling (k : Keyword) :
    ∃ c cs, k.spelling.toList = c :: cs ∧ isIdentifierStart c = true ∧
      ∀ d ∈ cs, isIdentifierPart d = true := by
  cases k <;> exact ⟨_, _, rfl, by decide, List.all_eq_true.mp (by decide)⟩

/-- The spelling of a token is read as that token. -/
theorem contents_spelling {k : Kind} {text : String} (h : Spelled k text) {rest : List Char}
    (hrest : Breaks rest) : contents (spelling k text ++ rest) = (k, text) :: contents rest := by
  cases h with
  | identifier hc hcs hk =>
      have hword := contents_word hc hcs hrest
      rw [hk] at hword
      simpa [spelling] using hword
  | keyword k =>
      obtain ⟨c, cs, hlist, hc, hcs⟩ := k.toList_spelling
      have htext : String.ofList (c :: cs) = k.spelling := by
        rw [← hlist, String.ofList_toList]
      have hword := contents_word hc hcs hrest
      rw [htext, Keyword.ofWord?_spelling] at hword
      simpa [spelling, hlist] using hword
  | integer hcs => simpa [spelling] using contents_numeral hcs hrest
  | string hcs => simpa [spelling] using contents_quoted hcs
  | symbol s => simpa [spelling] using contents_symbol s rest

theorem breaks_nil : Breaks [] := by simp [Breaks]

theorem breaks_cons {c : Char} {rest : List Char} (h : isIdentifierPart c = false) :
    Breaks (c :: rest) := by
  simpa [Breaks] using h

theorem contents_blank {rest : List Char} : contents (' ' :: rest) = contents rest :=
  contents_space (by decide)

theorem isIdentifierPart_newline : isIdentifierPart '\n' = false := by decide

theorem isIdentifierPart_of_isIdentifierStart {c : Char} (h : isIdentifierStart c = true) :
    isIdentifierPart c = true := by
  simp [isIdentifierPart, h]

theorem Symbol.isIdentifierPart_char (s : Symbol) : isIdentifierPart s.char = false := by
  cases s <;> decide

theorem Symbol.char_ne_newline (s : Symbol) : s.char ≠ '\n' := by
  cases s <;> decide

theorem Spelled.newline_notMem {k : Kind} {text : String} (h : Spelled k text) :
    '\n' ∉ text.toList := by
  have hword : ∀ {cs : List Char}, (∀ d ∈ cs, isIdentifierPart d = true) → '\n' ∉ cs := by
    intro cs hcs hmem
    have hpart := hcs '\n' hmem
    rw [isIdentifierPart_newline] at hpart
    cases hpart
  cases h with
  | identifier hc hcs _ =>
      rw [String.toList_ofList]
      exact hword (List.forall_mem_cons.mpr ⟨isIdentifierPart_of_isIdentifierStart hc, hcs⟩)
  | keyword k =>
      obtain ⟨c, cs, hlist, hc, hcs⟩ := k.toList_spelling
      rw [hlist]
      exact hword (List.forall_mem_cons.mpr ⟨isIdentifierPart_of_isIdentifierStart hc, hcs⟩)
  | integer hcs =>
      rw [String.toList_ofList]
      exact hword fun d hd => isIdentifierPart_of_isAsciiDigit (hcs d hd)
  | string hcs =>
      rw [String.toList_ofList]
      exact fun hmem => (hcs '\n' hmem).2 rfl
  | symbol s => simpa using s.char_ne_newline.symm

/-- The text stands in one row, and is cut into the tokens wherever no part of a word follows. -/
def Scans (text : String) (tokens : List Content) : Prop :=
  '\n' ∉ text.toList ∧
    ∀ rest, Breaks rest → contents (text.toList ++ rest) = tokens ++ contents rest

theorem scans_spelled {k : Kind} {text : String} (h : Spelled k text) (hk : k ≠ .string) :
    Scans text [(k, text)] := by
  refine ⟨h.newline_notMem, fun rest hrest => ?_⟩
  have hread := contents_spelling h hrest
  rwa [spelling, if_neg hk] at hread

theorem scans_string {text : String} (h : Spelled .string text) :
    Scans ("\"" ++ text ++ "\"") [(.string, text)] := by
  refine ⟨by simpa using h.newline_notMem, fun rest hrest => ?_⟩
  have hread := contents_spelling h hrest
  simpa [spelling] using hread

/-- The tokens on either side of a blank do not run together. -/
theorem Scans.blank {a b : String} {x y : List Content} (ha : Scans a x) (hb : Scans b y) :
    Scans (a ++ " " ++ b) (x ++ y) := by
  refine ⟨by simpa using ⟨ha.1, hb.1⟩, fun rest hrest => ?_⟩
  have hbreak : Breaks (' ' :: (b.toList ++ rest)) := breaks_cons (by decide)
  have hfirst := ha.2 _ hbreak
  rw [contents_blank, hb.2 rest hrest] at hfirst
  simpa using hfirst

def Symbol.content (s : Symbol) : Content := (.symbol s, s.char.toString)

theorem Scans.cons_symbol {a : String} {x : List Content} (ha : Scans a x) (s : Symbol) :
    Scans (s.char.toString ++ a) (s.content :: x) := by
  refine ⟨by simpa using ⟨s.char_ne_newline.symm, ha.1⟩, fun rest hrest => ?_⟩
  have hread := contents_symbol s (a.toList ++ rest)
  rw [ha.2 rest hrest] at hread
  simpa [Symbol.content] using hread

theorem Scans.concat_symbol {a : String} {x : List Content} (ha : Scans a x) (s : Symbol) :
    Scans (a ++ s.char.toString) (x ++ [s.content]) := by
  refine ⟨by simpa using ⟨ha.1, s.char_ne_newline.symm⟩, fun rest hrest => ?_⟩
  have hread := ha.2 (s.char :: rest) (breaks_cons s.isIdentifierPart_char)
  rw [contents_symbol] at hread
  simpa [Symbol.content] using hread

theorem scans_symbol (s : Symbol) : Scans s.char.toString [s.content] :=
  scans_spelled (.symbol s) (by simp)

def Keyword.content (k : Keyword) : Content := (.keyword k, k.spelling)

theorem scans_keyword (k : Keyword) : Scans k.spelling [k.content] :=
  scans_spelled (.keyword k) (by simp)

theorem scans_empty : Scans "" [] := ⟨by simp, fun _ _ => rfl⟩

theorem Scans.eq_nil {x : List Content} (h : Scans "" x) : x = [] := by
  have hread := h.2 [] breaks_nil
  simpa using hread

end NumberedBasic
