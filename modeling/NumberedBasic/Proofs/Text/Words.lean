import Mathlib.Data.List.TakeWhile
import NumberedBasic.Text.Glyph

/-! Where the words of a text come from: from its lines one after the other, from a line without its
end, and from each word itself. -/
namespace NumberedBasic.Text

variable {α : Type} {sep : α → Bool}

theorem pieces_of_forall {text : List α} (h : ∀ a ∈ text, sep a = false) :
    pieces sep text = [text] := by
  induction text with
  | nil => rfl
  | cons a rest ih =>
      obtain ⟨ha, hrest⟩ := List.forall_mem_cons.mp h
      simp [pieces, ha, ih hrest]

theorem words_append_eq {lineEnd : α → Bool} (h : ∀ a, lineEnd a = true → sep a = true)
    (front text : List α) : words sep (front ++ text) =
      ((pieces lineEnd text).modifyHead (front ++ ·)).flatMap (words sep) := by
  induction text generalizing front with
  | nil => simp [pieces]
  | cons a rest ih =>
      rw [pieces]
      cases hrest : pieces lineEnd rest with
      | nil => exact absurd hrest (pieces_ne_nil lineEnd rest)
      | cons line more =>
          rw [hrest] at ih
          by_cases ha : lineEnd a = true
          · have hcut := words_append_cons (h a ha) front rest
            have hlines := ih []
            simp only [List.nil_append, List.modifyHead_cons] at hlines
            simp [ha, hcut, hlines]
          · have hlines := ih (front ++ [a])
            simp only [List.append_assoc, List.singleton_append, List.modifyHead_cons] at hlines
            simp [ha, hlines]

/-- Lines are cut into words one by one, where the end of a line separates words. -/
theorem words_eq_flatMap {lineEnd : α → Bool} (h : ∀ a, lineEnd a = true → sep a = true)
    (text : List α) : words sep text = (pieces lineEnd text).flatMap (words sep) := by
  have hall := words_append_eq h [] text
  cases hlines : pieces lineEnd text with
  | nil => exact absurd hlines (pieces_ne_nil lineEnd text)
  | cons line more =>
      rw [hlines] at hall
      exact hall

/-- What separates words adds none behind them. -/
theorem words_append_of_forall {tail : List α} (h : ∀ a ∈ tail, sep a = true) (text : List α) :
    words sep (text ++ tail) = words sep text := by
  induction tail generalizing text with
  | nil => rw [List.append_nil]
  | cons a tail ih =>
      obtain ⟨ha, htail⟩ := List.forall_mem_cons.mp h
      have hnone := ih htail []
      rw [List.nil_append] at hnone
      rw [words_append_cons ha, hnone]
      exact List.append_nil _

theorem words_trimEnd {p : α → Bool} (h : ∀ a, p a = true → sep a = true) (text : List α) :
    words sep (trimEnd p text) = words sep text := by
  have hcut : trimEnd p text ++ (text.reverse.takeWhile p).reverse = text := by
    rw [trimEnd, ← List.reverse_append, List.takeWhile_append_dropWhile, List.reverse_reverse]
  have htail : ∀ a ∈ (text.reverse.takeWhile p).reverse, sep a = true := by
    intro a ha
    exact h a (List.mem_takeWhile_imp (List.mem_reverse.mp ha))
  calc words sep (trimEnd p text)
      = words sep (trimEnd p text ++ (text.reverse.takeWhile p).reverse) :=
        (words_append_of_forall htail _).symm
    _ = words sep text := by rw [hcut]

/-- A text that holds something but no separator is one word. -/
theorem words_of_forall {text : List α} (hne : text ≠ []) (h : ∀ a ∈ text, sep a = false) :
    words sep text = [text] := by
  rw [words, pieces_of_forall h]
  simp [hne]

/-- A word is the one word of itself. -/
theorem words_of_mem_words {text word : List α} (h : word ∈ words sep text) :
    words sep word = [word] := by
  obtain ⟨hne, hplain⟩ := mem_words h
  exact words_of_forall hne hplain

end NumberedBasic.Text
