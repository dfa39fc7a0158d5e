import Mathlib.Data.List.Forall2
import Mathlib.Tactic.IntervalCases
import NumberedBasic.Batch
import NumberedBasic.Batch.Inputs

/-! Texts written as a JSON array are read back as they were. -/
namespace NumberedBasic.Batch

/-- A JSON array of the texts. -/
def document (texts : List String) : String :=
  "[" ++ ",".intercalate (texts.map encodeString) ++ "]"

/-- A part that stands for one character whatever comes before or behind it. -/
inductive Denotes : StringPart → Char → Prop
  | char (c : Char) : Denotes (.char c) c
  | unit (c : Char) : c.toNat < 0xd800 → Denotes (.unit c.toNat) c

theorem joinParts_unit {n : Nat} (h : n < 0xd800) (rest : List StringPart) :
    joinParts (.unit n :: rest) = loneUnit n :: joinParts rest := by
  have hhigh : isHighSurrogate n = false := by simp [isHighSurrogate]; omega
  cases rest with
  | nil => rfl
  | cons part rest =>
      cases part with
      | char c => rfl
      | unit low => simp [joinParts, hhigh]

theorem loneUnit_toNat {c : Char} (h : c.toNat < 0xd800) : loneUnit c.toNat = c := by
  have hhigh : isHighSurrogate c.toNat = false := by simp [isHighSurrogate]; omega
  have hlow : isLowSurrogate c.toNat = false := by simp [isLowSurrogate]; omega
  simp [loneUnit, hhigh, hlow, Char.ofNat_toNat]

theorem joinParts_eq {parts : List StringPart} {chars : List Char}
    (h : List.Forall₂ Denotes parts chars) : joinParts parts = chars := by
  induction h with
  | nil => rfl
  | cons hpart _ ih =>
      cases hpart with
      | char c => rw [joinParts, ih]
      | unit c hc => rw [joinParts_unit hc, loneUnit_toNat hc, ih]

/-- What is read is one part for the character, and then whatever is read behind it. -/
def Spells (written : List Char) (c : Char) : Prop :=
  ∃ part, Denotes part c ∧ ∀ {rest parts left}, stringParts? rest = some (parts, left) →
    stringParts? (written ++ rest) = some (part :: parts, left)

theorem spells_short {e c : Char} (he : e ≠ 'u') (h : shortEscape? e = some c) :
    Spells ['\\', e] c := by
  refine ⟨.char c, .char c, ?_⟩
  intro rest parts left hrest
  simp [stringParts?, he, h, hrest]

theorem spells_plain {c : Char} (hquote : c ≠ '"') (hslash : c ≠ '\\') (hcontrol : ¬ c < ' ') :
    Spells [c] c := by
  refine ⟨.char c, .char c, ?_⟩
  intro rest parts left hrest
  simp [stringParts?, hslash, hcontrol, hrest]

theorem spells_unit {c : Char} (hc : c.toNat < 0xd800) {digits : List Char}
    (h : ∃ a b d e, digits = [a, b, d, e] ∧ unit? a b d e = some c.toNat) :
    Spells ('\\' :: 'u' :: digits) c := by
  obtain ⟨a, b, d, e, rfl, hunit⟩ := h
  refine ⟨.unit c.toNat, .unit c hc, ?_⟩
  intro rest parts left hrest
  simp [stringParts?, hunit, hrest]

/-- Four digits are enough for every character that is written by its number. -/
theorem hex_four {n : Nat} (h : n < 0x20 ∨ n ∈ [0x3c, 0x3e, 0x26, 0x2028, 0x2029]) :
    ∃ a b c d, (Text.hex 4 n).toList = [a, b, c, d] ∧ unit? a b c d = some n := by
  rw [Text.hex, String.toList_ofList]
  cases h with
  | inl h => interval_cases n <;> exact ⟨_, _, _, _, rfl, rfl⟩
  | inr h =>
      simp only [List.mem_cons, List.not_mem_nil, or_false] at h
      rcases h with rfl | rfl | rfl | rfl | rfl <;> exact ⟨_, _, _, _, rfl, rfl⟩

theorem spells_number {c : Char}
    (h : c < ' ' ∨ c = '<' ∨ c = '>' ∨ c = '&' ∨ c = '\u2028' ∨ c = '\u2029') :
    Spells ("\\u" ++ Text.hex 4 c.toNat).toList c := by
  have hnumber : c.toNat < 0x20 ∨ c.toNat ∈ [0x3c, 0x3e, 0x26, 0x2028, 0x2029] := by
    cases h with
    | inl h => exact .inl h
    | inr h => rcases h with rfl | rfl | rfl | rfl | rfl <;> exact .inr (by decide)
  have hsmall : c.toNat < 0xd800 := by
    simp only [List.mem_cons, List.not_mem_nil, or_false] at hnumber
    omega
  rw [String.toList_append]
  exact spells_unit hsmall (hex_four hnumber)

theorem spells_escapeChar (c : Char) : Spells (escapeChar c).toList c := by
  unfold escapeChar
  split
  -- Seven characters have an escape of one letter.
  iterate 7 exact spells_short (by decide) rfl
  rename_i hquote hslash _ _ _ _ _
  split
  · rename_i h
    apply spells_number
    simpa [or_assoc] using h
  · rename_i h
    have hcontrol : ¬ c < ' ' := fun hlt => h (by simp [hlt])
    simpa using spells_plain hquote hslash hcontrol

theorem stringParts?_escaped (chars rest : List Char) :
    ∃ parts, List.Forall₂ Denotes parts chars ∧
      stringParts? (chars.flatMap (fun c => (escapeChar c).toList) ++ '"' :: rest) =
        some (parts, rest) := by
  induction chars with
  | nil => exact ⟨[], .nil, by simp [stringParts?]⟩
  | cons c chars ih =>
      obtain ⟨parts, hdenotes, hread⟩ := ih
      obtain ⟨part, hpart, hspells⟩ := spells_escapeChar c
      refine ⟨part :: parts, .cons hpart hdenotes, ?_⟩
      rw [List.flatMap_cons, List.append_assoc]
      exact hspells hread

/-- A text between quotes is read up to the closing quote, and nothing of it is lost. -/
theorem element?_encodeString (text : String) (rest : List Char) :
    element? ((encodeString text).toList ++ rest) = some (text, rest) := by
  obtain ⟨parts, hdenotes, hread⟩ := stringParts?_escaped text.toList rest
  simp [encodeString, String.toList_join, List.flatMap_map, element?, hread, joinParts_eq hdenotes]

theorem skipBlanks_encodeString (text : String) (rest : List Char) :
    skipBlanks ((encodeString text).toList ++ rest) = (encodeString text).toList ++ rest := by
  simp [encodeString, skipBlanks, isBlank]

/-- The texts as they stand between the brackets. -/
def row (texts : List String) : List Char := (",".intercalate (texts.map encodeString)).toList

theorem row_cons_cons (text next : String) (more : List String) :
    row (text :: next :: more) = (encodeString text).toList ++ ',' :: row (next :: more) := by
  simp [row, String.intercalate_cons_cons]

theorem row_cons (text : String) (more : List String) :
    ∃ tail, row (text :: more) = '"' :: tail := by
  cases more with
  | nil => simp [row, encodeString]
  | cons next more => simp [row_cons_cons, encodeString]

theorem length_le_row (texts : List String) : texts.length ≤ (row texts).length := by
  induction texts with
  | nil => simp
  | cons text more ih =>
      cases more with
      | nil => simp [row, encodeString]
      | cons next more =>
          rw [row_cons_cons]
          simp only [List.length_cons, List.length_append] at ih ⊢
          omega

theorem elements?_row (text : String) (more : List String) {bound : List Char}
    (h : more.length < bound.length) (rest : List Char) :
    elements? bound (row (text :: more) ++ ']' :: rest) = some (text :: more, rest) := by
  induction more generalizing text bound with
  | nil =>
      cases bound with
      | nil => simp at h
      | cons b bound =>
          have hrow : row [text] = (encodeString text).toList := by simp [row]
          rw [hrow, elements?, skipBlanks_encodeString, element?_encodeString]
          simp [skipBlanks, isBlank]
  | cons next more ih =>
      cases bound with
      | nil => simp at h
      | cons b bound =>
          have hbound : more.length < bound.length := by simpa using h
          have hmore := ih next hbound
          rw [row_cons_cons, List.append_assoc, elements?, skipBlanks_encodeString,
            element?_encodeString]
          simp [skipBlanks, isBlank, hmore]

theorem array?_row (texts : List String) (rest : List Char) :
    array? (row texts ++ ']' :: rest) = some (texts, rest) := by
  cases texts with
  | nil => simp [row, array?, skipBlanks, isBlank]
  | cons text more =>
      obtain ⟨tail, htail⟩ := row_cons text more
      have hbound : more.length < (row (text :: more) ++ ']' :: rest).length := by
        have hlength := length_le_row (text :: more)
        simp only [List.length_cons, List.length_append] at hlength ⊢
        omega
      have hread := elements?_row text more hbound rest
      rw [htail] at hread ⊢
      simpa [array?, skipBlanks, isBlank] using hread

theorem inputs?_document (texts : List String) : inputs? (document texts) = some texts := by
  have hdocument : (document texts).toList = '[' :: (row texts ++ [']']) := by
    simp [document, row]
  have hspace : Text.isSpace '[' = false := by decide
  rw [inputs?, hdocument]
  simp [document?, skipBlanks, isBlank, hspace, array?_row]

end NumberedBasic.Batch
