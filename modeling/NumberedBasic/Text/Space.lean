/-! Sets of characters, white space, and the pieces of a text: between separators, and between the
ends of its lines. -/
namespace NumberedBasic.Text

/-- Membership in ascending ranges, both ends included. The search stops at the first range that
begins above the code point. -/
def inRanges (n : Nat) : List (Nat × Nat) → Bool
  | [] => false
  | (low, high) :: rest => if n < low then false else n ≤ high || inRanges n rest

/-- Whatever is found lies between the ends of one of the ranges. -/
theorem exists_of_inRanges {n : Nat} {ranges : List (Nat × Nat)} (h : inRanges n ranges = true) :
    ∃ r ∈ ranges, r.1 ≤ n ∧ n ≤ r.2 := by
  induction ranges with
  | nil => simp [inRanges] at h
  | cons r rest ih =>
      rw [inRanges] at h
      split at h
      · simp at h
      · simp only [Bool.or_eq_true, decide_eq_true_eq] at h
        cases h with
        | inl h => exact ⟨r, by simp, by omega, h⟩
        | inr h =>
            obtain ⟨s, hs, hn⟩ := ih h
            exact ⟨s, by simp [hs], hn⟩

def spaceRanges : List (Nat × Nat) :=
  [(0x9, 0xd), (0x20, 0x20), (0x85, 0x85), (0xa0, 0xa0), (0x1680, 0x1680), (0x2000, 0x200a),
   (0x2028, 0x2029), (0x202f, 0x202f), (0x205f, 0x205f), (0x3000, 0x3000)]

/-- A white space character of any script. -/
def isSpace (c : Char) : Bool := inRanges c.toNat spaceRanges

/-- The stretches between the separators, empty ones included: one more than there are
separators. -/
def pieces {α : Type} (sep : α → Bool) : List α → List (List α)
  | [] => [[]]
  | a :: rest =>
      if sep a then [] :: pieces sep rest
      else match pieces sep rest with
        | [] => [[a]]
        | piece :: more => (a :: piece) :: more

/-- The stretches between the separators that hold something. -/
def words {α : Type} (sep : α → Bool) (text : List α) : List (List α) :=
  (pieces sep text).filter fun piece => !piece.isEmpty

/-- Drops what satisfies the test from the end. -/
def trimEnd {α : Type} (p : α → Bool) (text : List α) : List α :=
  (text.reverse.dropWhile p).reverse

/-- Drops what satisfies the test from both ends. -/
def trim {α : Type} (p : α → Bool) (text : List α) : List α :=
  trimEnd p (text.dropWhile p)

theorem pieces_ne_nil {α : Type} (sep : α → Bool) (text : List α) : pieces sep text ≠ [] := by
  cases text with
  | nil => simp [pieces]
  | cons a rest =>
      rw [pieces]
      split
      · simp
      · split <;> simp

/-- A separator cuts the text in two. -/
theorem pieces_append_cons {α : Type} {sep : α → Bool} {a : α} (h : sep a = true)
    (front back : List α) :
    pieces sep (front ++ a :: back) = pieces sep front ++ pieces sep back := by
  induction front with
  | nil => simp [pieces, h]
  | cons b front ih =>
      rw [List.cons_append, pieces, pieces, ih]
      by_cases hb : sep b = true
      · simp [hb]
      · cases hp : pieces sep front with
        | nil => exact absurd hp (pieces_ne_nil sep front)
        | cons piece more => simp [hb]

theorem words_append_cons {α : Type} {sep : α → Bool} {a : α} (h : sep a = true)
    (front back : List α) :
    words sep (front ++ a :: back) = words sep front ++ words sep back := by
  simp [words, pieces_append_cons h]

/-- No word holds a separator, and none is empty. -/
theorem mem_words {α : Type} {sep : α → Bool} {text word : List α} (h : word ∈ words sep text) :
    word ≠ [] ∧ ∀ a ∈ word, sep a = false := by
  refine ⟨by simpa using (List.mem_filter.mp h).2, ?_⟩
  have hp := (List.mem_filter.mp h).1
  clear h
  induction text generalizing word with
  | nil => simp only [pieces, List.mem_singleton] at hp; simp [hp]
  | cons a rest ih =>
      rw [pieces] at hp
      split at hp
      · cases List.mem_cons.mp hp with
        | inl h => simp [h]
        | inr h => exact ih h
      · rename_i ha
        split at hp
        · rename_i h; exact absurd h (pieces_ne_nil sep rest)
        · rename_i piece more hpieces
          cases List.mem_cons.mp hp with
          | inl h =>
              intro b hb
              rw [h] at hb
              cases List.mem_cons.mp hb with
              | inl hb => simpa [hb] using ha
              | inr hb => exact ih (by simp [hpieces]) b hb
          | inr h => exact ih (by simp [hpieces, h])

def isNewline (c : Char) : Bool := c == '\n'

/-- Line ends written as carriage return and newline become plain newlines. -/
def plainNewlines : List Char → List Char
  | [] => []
  | '\r' :: '\n' :: rest => '\n' :: plainNewlines rest
  | c :: rest => c :: plainNewlines rest

def withPlainNewlines (text : String) : String := String.ofList (plainNewlines text.toList)

/-- The lines of a source text. Newlines at its end add none, and an empty text is one empty
line. -/
def physicalLines (text : String) : List String :=
  (pieces isNewline (trimEnd isNewline text.toList)).map String.ofList

/-- A tab is shown as four spaces. -/
def expandTabs (text : String) : String :=
  String.ofList (text.toList.flatMap fun c => if c == '\t' then [' ', ' ', ' ', ' '] else [c])

end NumberedBasic.Text
