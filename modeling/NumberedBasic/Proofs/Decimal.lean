import Mathlib.Data.List.Induction
import NumberedBasic.Decimal

/-! Which numerals denote which integers. Reading accepts exactly the numerals of signed 64-bit
integers, and what is written reads back. -/
namespace NumberedBasic.Decimal
open NumberedBasic.Text (isAsciiDigit)

/-- Digits, the most significant first, and the number they stand for. -/
inductive Digits : List Char → Nat → Prop
  | one {d : Nat} : d < 10 → Digits [d.digitChar] d
  | more {cs : List Char} {n d : Nat} :
      Digits cs n → d < 10 → Digits (cs ++ [d.digitChar]) (n * 10 + d)

/-- A numeral is a run of digits behind an optional sign. -/
inductive Denotes : List Char → Int → Prop
  | plain {cs : List Char} {n : Nat} : Digits cs n → Denotes cs n
  | plus {cs : List Char} {n : Nat} : Digits cs n → Denotes ('+' :: cs) n
  | minus {cs : List Char} {n : Nat} : Digits cs n → Denotes ('-' :: cs) (-n)

theorem isAsciiDigit_iff {c : Char} : isAsciiDigit c = true ↔ 48 ≤ c.toNat ∧ c.toNat ≤ 57 := by
  simp only [isAsciiDigit, Bool.and_eq_true, decide_eq_true_eq, Char.le_def, UInt32.le_iff_toNat_le]
  exact Iff.rfl

theorem isAsciiDigit_digitChar {d : Nat} (h : d < 10) : isAsciiDigit d.digitChar = true := by
  rw [isAsciiDigit_iff, Nat.toNat_digitChar_of_lt_ten h]
  omega

theorem exists_digitChar {c : Char} (h : isAsciiDigit c = true) : ∃ d < 10, c = d.digitChar := by
  obtain ⟨hlow, hhigh⟩ := isAsciiDigit_iff.mp h
  refine ⟨c.toNat - 48, by omega, Char.toNat_inj.mp ?_⟩
  rw [Nat.toNat_digitChar_of_lt_ten (by omega)]
  omega

theorem digitsValue_eq (acc : Nat) (cs : List Char) :
    digitsValue acc cs = Nat.ofDigitChars 10 cs acc := by
  induction cs generalizing acc with
  | nil => rfl
  | cons c cs ih =>
      rw [Nat.ofDigitChars_cons, ← ih, Nat.mul_comm 10 acc]
      rfl

theorem digitsValue_concat {cs : List Char} {d : Nat} (h : d < 10) :
    digitsValue 0 (cs ++ [d.digitChar]) = digitsValue 0 cs * 10 + d := by
  simp only [digitsValue_eq, Nat.ofDigitChars_append,
    Nat.ofDigitChars_cons_digitChar_of_lt_ten h, Nat.ofDigitChars_nil]
  omega

theorem Digits.all {cs : List Char} {n : Nat} (h : Digits cs n) :
    ∀ c ∈ cs, isAsciiDigit c = true := by
  induction h with
  | one hd => simpa using isAsciiDigit_digitChar hd
  | more h hd ih =>
      intro c hc
      cases List.mem_append.mp hc with
      | inl hc => exact ih c hc
      | inr hc => exact List.mem_singleton.mp hc ▸ isAsciiDigit_digitChar hd

theorem Digits.ne_nil {cs : List Char} {n : Nat} (h : Digits cs n) : cs ≠ [] := by
  cases h <;> simp

theorem Digits.value {cs : List Char} {n : Nat} (h : Digits cs n) : digitsValue 0 cs = n := by
  induction h with
  | @one d hd =>
      have h := @digitsValue_concat [] d hd
      rw [List.nil_append] at h
      simpa [digitsValue] using h
  | more h hd ih => rw [digitsValue_concat hd, ih]

theorem digits_of_all {cs : List Char} (hne : cs ≠ []) (h : ∀ c ∈ cs, isAsciiDigit c = true) :
    Digits cs (digitsValue 0 cs) := by
  induction cs using List.reverseRecOn with
  | nil => exact absurd rfl hne
  | append_singleton cs c ih =>
      obtain ⟨d, hd, rfl⟩ := exists_digitChar (h c (by simp))
      rw [digitsValue_concat hd]
      by_cases hcs : cs = []
      · simpa [hcs, digitsValue] using Digits.one hd
      · exact .more (ih hcs fun c hc => h c (by simp [hc])) hd

theorem readDigits?_eq_some_iff {cs : List Char} {n : Nat} :
    readDigits? cs = some n ↔ Digits cs n := by
  simp only [readDigits?, Option.ite_none_right_eq_some, Option.some.injEq, Bool.and_eq_true,
    Bool.not_eq_true', List.isEmpty_eq_false_iff, List.all_eq_true]
  constructor
  · rintro ⟨⟨hne, hall⟩, rfl⟩
    exact digits_of_all hne hall
  · intro h
    exact ⟨⟨h.ne_nil, h.all⟩, h.value⟩

theorem Digits.not_sign {c : Char} {cs : List Char} {n : Nat} (h : Digits (c :: cs) n) :
    c ≠ '+' ∧ c ≠ '-' := by
  have hc := h.all c (by simp)
  constructor
  · rintro rfl
    exact absurd hc (by decide)
  · rintro rfl
    exact absurd hc (by decide)

theorem readSigned?_of_digits {cs : List Char} {n : Nat} (h : Digits cs n) :
    readSigned? cs = some (n : Int) := by
  have hread := readDigits?_eq_some_iff.mpr h
  cases cs with
  | nil => exact absurd rfl h.ne_nil
  | cons c cs =>
      obtain ⟨hplus, hminus⟩ := h.not_sign
      rw [readSigned?]
      · simp [hread]
      · rintro rest ⟨rfl, rfl⟩
        exact hplus rfl
      · rintro rest ⟨rfl, rfl⟩
        exact hminus rfl

theorem readSigned?_eq_some_iff {cs : List Char} {n : Int} :
    readSigned? cs = some n ↔ Denotes cs n := by
  constructor
  · intro h
    unfold readSigned? at h
    split at h
    all_goals
      obtain ⟨m, hm, rfl⟩ := Option.map_eq_some_iff.mp h
      have hm := readDigits?_eq_some_iff.mp hm
    · exact .plus hm
    · exact .minus hm
    · exact .plain hm
  · intro h
    cases h with
    | plain h => exact readSigned?_of_digits h
    | plus h => simp [readSigned?, readDigits?_eq_some_iff.mpr h]
    | minus h => simp [readSigned?, readDigits?_eq_some_iff.mpr h]

theorem Denotes.ne_nil {cs : List Char} {n : Int} (h : Denotes cs n) : cs ≠ [] := by
  cases h with
  | plain h => exact h.ne_nil
  | plus h => exact List.cons_ne_nil _ _
  | minus h => exact List.cons_ne_nil _ _

/-- Reading accepts the numerals of signed 64-bit integers and no other text. -/
theorem read?_eq_some_iff {cs : List Char} {n : Int} :
    read? cs = some n ↔ Denotes cs n ∧ InRange n := by
  rw [read?, Option.filter_eq_some_iff, readSigned?_eq_some_iff, decide_eq_true_eq]

theorem digits_repr (n : Nat) : Digits n.repr.toList n := by
  have h : Digits (Nat.toDigits 10 n) (digitsValue 0 (Nat.toDigits 10 n)) := by
    refine digits_of_all Nat.toDigits_ne_nil fun c hc => ?_
    have hc := Nat.isDigit_of_mem_toDigits (by decide) (by decide) hc
    simpa [Char.isDigit, isAsciiDigit, Char.le_def] using hc
  rw [digitsValue_eq, Nat.ofDigitChars_ten_toDigits] at h
  rwa [Nat.toList_repr]

theorem denotes_write (n : Int) : Denotes (write n).toList n := by
  cases n with
  | ofNat n => exact .plain (digits_repr n)
  | negSucc n =>
      rw [write, String.toList_append]
      exact .minus (digits_repr (n + 1))

theorem read?_write {n : Int} (h : InRange n) : read? (write n).toList = some n :=
  read?_eq_some_iff.mpr ⟨denotes_write n, h⟩

theorem inRange_toInt (value : Int64) : InRange value.toInt :=
  ⟨value.le_toInt, Int.le_of_lt_add_one value.toInt_lt⟩

theorem write_injective {a b : Int} (h : write a = write b) : a = b := by
  have ha := readSigned?_eq_some_iff.mpr (denotes_write a)
  have hb := readSigned?_eq_some_iff.mpr (denotes_write b)
  rw [h, hb] at ha
  exact (Option.some.inj ha).symm

end NumberedBasic.Decimal
