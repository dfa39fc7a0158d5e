import NumberedBasic.Text.Utf8

/-! The encoding of a text is read as that text, so the bytes that encode some text are those that
survive being read. -/
namespace NumberedBasic.Text.Utf8

theorem encode_append (a b : String) : encode (a ++ b) = encode a ++ encode b := by
  rw [encode, String.toList_append, List.flatMap_append]
  rfl

/-- A character is encoded in at least one byte. -/
theorem isEmpty_encode (text : String) : (encode text).isEmpty = text.isEmpty := by
  rw [Bool.eq_iff_iff, List.isEmpty_iff, String.isEmpty_iff, encode, List.flatMap_eq_nil_iff]
  constructor
  · intro h
    rw [← String.toList_eq_nil_iff]
    refine List.eq_nil_iff_forall_not_mem.mpr fun c hc => ?_
    exact absurd (h c hc) String.utf8EncodeChar_ne_nil
  · rintro rfl c hc
    cases hc

theorem encode_intercalate (separator : String) (texts : List String) :
    encode (separator.intercalate texts) = (encode separator).intercalate (texts.map encode) := by
  induction texts with
  | nil => rfl
  | cons text texts ih =>
      cases texts with
      | nil => simp
      | cons next texts =>
          rw [String.intercalate_cons_cons, encode_append, encode_append, ih]
          simp [List.intercalate_cons_cons]

theorem isTail_iff {b : UInt8} : isTail b = true ↔ 0x80 ≤ b.toNat ∧ b.toNat ≤ 0xbf := by
  rw [isTail, Bool.and_eq_true, decide_eq_true_eq, decide_eq_true_eq]

/-- A byte behind a leading one is refused only where the character would have a shorter form, be a
surrogate or lie above the last code point. -/
theorem isSecond_of_isTail {a b : UInt8} (hb : isTail b = true)
    (he0 : a.toNat = 0xe0 → 0xa0 ≤ b.toNat) (hed : a.toNat = 0xed → b.toNat ≤ 0x9f)
    (hf0 : a.toNat = 0xf0 → 0x90 ≤ b.toNat) (hf4 : a.toNat = 0xf4 → b.toNat ≤ 0x8f) :
    isSecond a b = true := by
  rw [isTail_iff] at hb
  rw [isSecond, Bool.and_eq_true, decide_eq_true_eq, decide_eq_true_eq, secondRange]
  grind

theorem toNat_ofNat {n : Nat} (h : n < 256) : (UInt8.ofNat n).toNat = n :=
  UInt8.toNat_ofNat_of_lt' h

/-- Six bits of a character. -/
theorem toNat_tail (n : Nat) : (UInt8.ofNat (n % 64 + 128)).toNat = n % 64 + 128 :=
  toNat_ofNat (by omega)

theorem isTail_tail (n : Nat) : isTail (UInt8.ofNat (n % 64 + 128)) = true := by
  rw [isTail_iff, toNat_tail]
  omega

section

variable {n : Nat} {rest : List UInt8}

theorem sequence?_one (h : n ≤ 0x7f) :
    sequence? (UInt8.ofNat n) rest = some (Char.ofNat n, 0) := by
  unfold sequence?
  rw [toNat_ofNat (by omega)]
  exact if_pos (by omega)

theorem sequence?_two (hlow : 0x7f < n) (hhigh : n ≤ 0x7ff) :
    sequence? (UInt8.ofNat (n / 64 % 32 + 192)) (UInt8.ofNat (n % 64 + 128) :: rest) =
      some (Char.ofNat n, 1) := by
  have ha : (UInt8.ofNat (n / 64 % 32 + 192)).toNat = n / 64 % 32 + 192 := toNat_ofNat (by omega)
  have hb := toNat_tail n
  have hsecond := isSecond_of_isTail (a := UInt8.ofNat (n / 64 % 32 + 192)) (isTail_tail n)
    (by omega) (by omega) (by omega) (by omega)
  have hn : (n / 64 % 32 + 192 - 0xc0) * 0x40 + (n % 64 + 128 - 0x80) = n := by omega
  have h1 : ¬ n / 64 % 32 + 192 < 0x80 := by omega
  have h2 : 0xc2 ≤ n / 64 % 32 + 192 ∧ n / 64 % 32 + 192 ≤ 0xdf := by omega
  simp only [sequence?, ha, hb, hsecond, h1, h2, hn, if_true, if_false, decide_true, Bool.and_self]

theorem sequence?_three (hlow : 0x7ff < n) (hhigh : n ≤ 0xffff)
    (hvalid : n < 0xd800 ∨ 0xdfff < n) :
    sequence? (UInt8.ofNat (n / 4096 % 16 + 224))
        (UInt8.ofNat (n / 64 % 64 + 128) :: UInt8.ofNat (n % 64 + 128) :: rest) =
      some (Char.ofNat n, 2) := by
  have ha : (UInt8.ofNat (n / 4096 % 16 + 224)).toNat = n / 4096 % 16 + 224 :=
    toNat_ofNat (by omega)
  have hb := toNat_tail (n / 64)
  have hc := toNat_tail n
  have hsecond := isSecond_of_isTail (a := UInt8.ofNat (n / 4096 % 16 + 224)) (isTail_tail (n / 64))
    (by omega) (by omega) (by omega) (by omega)
  have hn : (n / 4096 % 16 + 224 - 0xe0) * 0x1000 + (n / 64 % 64 + 128 - 0x80) * 0x40 +
      (n % 64 + 128 - 0x80) = n := by omega
  have h1 : ¬ n / 4096 % 16 + 224 < 0x80 := by omega
  have h2 : ¬ n / 4096 % 16 + 224 ≤ 0xdf := by omega
  have h3 : 0xe0 ≤ n / 4096 % 16 + 224 ∧ n / 4096 % 16 + 224 ≤ 0xef := by omega
  simp only [sequence?, ha, hb, hc, hsecond, isTail_tail, h1, h2, h3, hn, if_true, if_false,
    decide_true, decide_false, Bool.and_self, Bool.and_false, Bool.false_eq_true]

theorem sequence?_four (hlow : 0xffff < n) (hhigh : n < 0x110000) :
    sequence? (UInt8.ofNat (n / 262144 % 8 + 240))
        (UInt8.ofNat (n / 4096 % 64 + 128) :: UInt8.ofNat (n / 64 % 64 + 128) ::
          UInt8.ofNat (n % 64 + 128) :: rest) =
      some (Char.ofNat n, 3) := by
  have ha : (UInt8.ofNat (n / 262144 % 8 + 240)).toNat = n / 262144 % 8 + 240 :=
    toNat_ofNat (by omega)
  have hb := toNat_tail (n / 4096)
  have hc := toNat_tail (n / 64)
  have hd := toNat_tail n
  have hsecond := isSecond_of_isTail (a := UInt8.ofNat (n / 262144 % 8 + 240))
    (isTail_tail (n / 4096)) (by omega) (by omega) (by omega) (by omega)
  have hn : (n / 262144 % 8 + 240 - 0xf0) * 0x40000 + (n / 4096 % 64 + 128 - 0x80) * 0x1000 +
      (n / 64 % 64 + 128 - 0x80) * 0x40 + (n % 64 + 128 - 0x80) = n := by omega
  have h1 : ¬ n / 262144 % 8 + 240 < 0x80 := by omega
  have h2 : ¬ n / 262144 % 8 + 240 ≤ 0xdf := by omega
  have h3 : ¬ n / 262144 % 8 + 240 ≤ 0xef := by omega
  have h4 : 0xf0 ≤ n / 262144 % 8 + 240 ∧ n / 262144 % 8 + 240 ≤ 0xf4 := by omega
  simp only [sequence?, ha, hb, hc, hd, hsecond, isTail_tail, h1, h2, h3, h4, hn, if_true, if_false,
    decide_true, decide_false, Bool.and_self, Bool.and_false, Bool.false_eq_true]

end

/-- The bytes of a character are read as that character, whatever follows them. -/
theorem sequence?_encodeChar (c : Char) (rest : List UInt8) :
    ∃ a bytes, String.utf8EncodeChar c = a :: bytes ∧
      sequence? a (bytes ++ rest) = some (c, bytes.length) := by
  have hc : Char.ofNat c.val.toNat = c := Char.ofNat_toNat c
  have hvalid : c.val.toNat < 0xd800 ∨ 0xdfff < c.val.toNat ∧ c.val.toNat < 0x110000 := c.valid
  rw [String.utf8EncodeChar]
  generalize c.val.toNat = n at hc hvalid
  subst hc
  by_cases h1 : n ≤ 0x7f
  · exact ⟨_, _, if_pos h1, sequence?_one h1⟩
  · by_cases h2 : n ≤ 0x7ff
    · exact ⟨_, _, (if_neg h1).trans (if_pos h2), sequence?_two (by omega) h2⟩
    · by_cases h3 : n ≤ 0xffff
      · exact ⟨_, _, (if_neg h1).trans ((if_neg h2).trans (if_pos h3)),
          sequence?_three (by omega) h3 (by omega)⟩
      · exact ⟨_, _, (if_neg h1).trans ((if_neg h2).trans (if_neg h3)),
          sequence?_four (by omega) (by omega)⟩

theorem decodeAfter_append (skipped rest : List UInt8) :
    decodeAfter skipped.length (skipped ++ rest) = decodeAfter 0 rest := by
  induction skipped with
  | nil => rfl
  | cons a skipped ih => exact ih

theorem decode_encode (text : String) : decode (encode text) = Glyph.ofString text := by
  rw [encode, Glyph.ofString]
  induction text.toList with
  | nil => rfl
  | cons c cs ih =>
      obtain ⟨a, bytes, hbytes, hread⟩ := sequence?_encodeChar c (cs.flatMap String.utf8EncodeChar)
      rw [List.flatMap_cons, hbytes, decode, List.cons_append, decodeAfter, hread]
      exact congrArg (.char c :: ·) ((decodeAfter_append _ _).trans ih)

theorem toText_encode (text : String) : toText (encode text) = text := by
  rw [toText, decode_encode, Glyph.toText_ofString]

/-- The bytes encode some text. -/
def Valid (bytes : List UInt8) : Prop := ∃ text, encode text = bytes

theorem valid_iff {bytes : List UInt8} : Valid bytes ↔ encode (toText bytes) = bytes := by
  constructor
  · rintro ⟨text, rfl⟩
    rw [toText_encode]
  · intro h
    exact ⟨_, h⟩

instance (bytes : List UInt8) : Decidable (Valid bytes) := decidable_of_iff _ valid_iff.symm

/-- The bytes below 0x80 stand for themselves and for nothing else. -/
theorem mem_encodeChar_iff {b : UInt8} (hb : b.toNat < 0x80) (c : Char) :
    b ∈ String.utf8EncodeChar c ↔ c.toNat = b.toNat := by
  have hhigh {k : Nat} (hlow : 0x80 ≤ k) (hk : k < 256) : b ≠ UInt8.ofNat k := by
    rintro rfl
    rw [toNat_ofNat hk] at hb
    omega
  change b ∈ String.utf8EncodeChar c ↔ c.val.toNat = b.toNat
  rw [String.utf8EncodeChar]
  generalize c.val.toNat = n
  by_cases h1 : n ≤ 0x7f
  · have hn : n < 256 := by omega
    rw [if_pos h1, List.mem_singleton, ← UInt8.toNat_inj, toNat_ofNat hn, eq_comm]
  · have hne : n ≠ b.toNat := by omega
    rw [if_neg h1]
    refine iff_of_false ?_ hne
    intro hmem
    split at hmem
    · simp only [List.mem_cons, List.not_mem_nil, or_false] at hmem
      rcases hmem with h | h <;> exact hhigh (by omega) (by omega) h
    · split at hmem
      · simp only [List.mem_cons, List.not_mem_nil, or_false] at hmem
        rcases hmem with h | h | h <;> exact hhigh (by omega) (by omega) h
      · simp only [List.mem_cons, List.not_mem_nil, or_false] at hmem
        rcases hmem with h | h | h | h <;> exact hhigh (by omega) (by omega) h

theorem mem_encode_iff {b : UInt8} (hb : b.toNat < 0x80) (text : String) :
    b ∈ encode text ↔ ∃ c ∈ text.toList, c.toNat = b.toNat := by
  rw [encode, List.mem_flatMap]
  simp only [mem_encodeChar_iff hb]

end NumberedBasic.Text.Utf8
