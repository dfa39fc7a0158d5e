import Mathlib.Data.List.Basic

/-! Parentheses in a text: how many of them are open at a place, how deep they nest, and which of
them close which. -/
namespace NumberedBasic.Text

/-- How many parentheses the text opens and does not close. -/
def opened (cs : List Char) : Int := cs.count '(' - cs.count ')'

@[simp] theorem opened_nil : opened [] = 0 := rfl

@[simp] theorem opened_append (a b : List Char) : opened (a ++ b) = opened a + opened b := by
  simp only [opened, List.count_append]
  omega

@[simp] theorem opened_cons_open (rest : List Char) : opened ('(' :: rest) = opened rest + 1 := by
  have hcons := opened_append ['('] rest
  have hone : opened ['('] = 1 := rfl
  rw [List.singleton_append] at hcons
  omega

@[simp] theorem opened_cons_close (rest : List Char) : opened (')' :: rest) = opened rest - 1 := by
  have hcons := opened_append [')'] rest
  have hone : opened [')'] = -1 := rfl
  rw [List.singleton_append] at hcons
  omega

/-- No parenthesis stands in the text. -/
def Bare (cs : List Char) : Prop := '(' ∉ cs ∧ ')' ∉ cs

theorem Bare.opened_eq {cs : List Char} (h : Bare cs) : opened cs = 0 := by
  rw [opened, List.count_eq_zero_of_not_mem h.1, List.count_eq_zero_of_not_mem h.2]
  rfl

/-- Every parenthesis of the text is closed in it, and none is closed that was not opened. -/
structure Balanced (cs : List Char) : Prop where
  closed : opened cs = 0
  nonneg : ∀ front back, cs = front ++ back → 0 ≤ opened front

/-- No more than so many parentheses are open at any place of the text. -/
def ParensWithin (n : Nat) (cs : List Char) : Prop :=
  ∀ front back, cs = front ++ back → opened front ≤ n

variable {a b x y z cs : List Char} {n : Nat}

theorem Bare.front {front back : List Char} (h : Bare (front ++ back)) : Bare front := by
  constructor
  · intro hmem
    exact h.1 (List.mem_append_left back hmem)
  · intro hmem
    exact h.2 (List.mem_append_left back hmem)

theorem Bare.balanced (h : Bare cs) : Balanced cs := by
  refine ⟨h.opened_eq, ?_⟩
  rintro front back rfl
  exact Int.le_of_eq h.front.opened_eq.symm

theorem Bare.parensWithin (h : Bare cs) (n : Nat) : ParensWithin n cs := by
  rintro front back rfl
  rw [h.front.opened_eq]
  omega

theorem Balanced.append (ha : Balanced a) (hb : Balanced b) : Balanced (a ++ b) := by
  constructor
  · rw [opened_append, ha.closed, hb.closed]
    rfl
  · intro front back h
    rcases List.append_eq_append_iff.mp h with ⟨m, rfl, hm⟩ | ⟨m, hm, -⟩
    · rw [opened_append, ha.closed, Int.zero_add]
      exact hb.nonneg m back hm
    · exact ha.nonneg front m hm

/-- What stands in front of a part of a wrapped text. -/
theorem wrapped_front {front back : List Char} (h : '(' :: (a ++ [')']) = front ++ back) :
    front = [] ∨ (∃ m k, a = m ++ k ∧ front = '(' :: m) ∨ front = '(' :: (a ++ [')']) := by
  cases front with
  | nil => exact .inl rfl
  | cons c front =>
      obtain ⟨rfl, hrest⟩ := List.cons.inj h
      rcases List.append_eq_append_iff.mp hrest with ⟨m, rfl, hm⟩ | ⟨m, hm, -⟩
      · rcases List.append_eq_singleton_iff.mp hm.symm with ⟨rfl, -⟩ | ⟨rfl, -⟩
        · exact .inr (.inl ⟨a, [], by simp, by simp⟩)
        · exact .inr (.inr rfl)
      · exact .inr (.inl ⟨front, m, hm, rfl⟩)

theorem Balanced.wrap (h : Balanced a) : Balanced ('(' :: (a ++ [')'])) := by
  have hclosed := h.closed
  constructor
  · simp [hclosed]
  · intro front back heq
    rcases wrapped_front heq with rfl | ⟨m, k, hm, rfl⟩ | rfl
    · exact Int.le_refl 0
    · have hfront := h.nonneg m k hm
      rw [opened_cons_open]
      omega
    · simp [hclosed]

theorem parensWithin_append (ha : opened a = 0) :
    ParensWithin n (a ++ b) ↔ ParensWithin n a ∧ ParensWithin n b := by
  constructor
  · intro h
    constructor
    · rintro front back rfl
      exact h front (back ++ b) (List.append_assoc _ _ _)
    · rintro front back rfl
      have hfront := h (a ++ front) back (List.append_assoc _ _ _).symm
      rwa [opened_append, ha, Int.zero_add] at hfront
  · rintro ⟨hina, hinb⟩ front back h
    rcases List.append_eq_append_iff.mp h with ⟨m, rfl, hm⟩ | ⟨m, hm, -⟩
    · rw [opened_append, ha, Int.zero_add]
      exact hinb m back hm
    · exact hina front m hm

theorem parensWithin_wrap (ha : opened a = 0) :
    ParensWithin n ('(' :: (a ++ [')'])) ↔ ∃ m, n = m + 1 ∧ ParensWithin m a := by
  constructor
  · intro h
    have hone : (0 : Int) + 1 ≤ n := h ['('] (a ++ [')']) rfl
    refine ⟨n - 1, by omega, ?_⟩
    rintro front back rfl
    have hfront := h ('(' :: front) (back ++ [')']) (by simp)
    rw [opened_cons_open] at hfront
    omega
  · rintro ⟨m, rfl, h⟩ front back heq
    rcases wrapped_front heq with rfl | ⟨k, l, hk, rfl⟩ | rfl
    · exact Int.natCast_nonneg _
    · have hfront := h k l hk
      rw [opened_cons_open]
      omega
    · simp only [opened_cons_open, opened_append, ha, opened_cons_close, opened_nil]
      omega

section Pairs

/-! A pair of parentheses that match has a balanced text between them. -/

/-- A matching pair does not reach out of a balanced text. -/
theorem Balanced.pair_append (ha : Balanced a) (hy : Balanced y)
    (h : a ++ b = x ++ '(' :: (y ++ ')' :: z)) :
    (∃ z', a = x ++ '(' :: (y ++ ')' :: z') ∧ z = z' ++ b) ∨
      ∃ x', b = x' ++ '(' :: (y ++ ')' :: z) ∧ x = a ++ x' := by
  rcases List.append_eq_append_iff.mp h with ⟨x', hx, hb⟩ | ⟨m, hm, hrest⟩
  · exact .inr ⟨x', hb, hx⟩
  cases m with
  | nil =>
      rw [List.append_nil] at hm
      exact .inr ⟨[], hrest.symm, by rw [hm, List.append_nil]⟩
  | cons c m =>
      obtain ⟨rfl, hbehind⟩ := List.cons.inj hrest
      -- In front of the pair nothing is closed too often, so the pair leaves one open in `a`.
      have hfront := ha.nonneg x ('(' :: m) hm
      have hclosed := ha.closed
      rw [hm, opened_append, opened_cons_open] at hclosed
      rcases List.append_eq_append_iff.mp hbehind with ⟨k, hk, hclose⟩ | ⟨k, hk, -⟩
      · cases k with
        | nil =>
            rw [List.append_nil] at hk
            have hinner := hy.closed
            rw [hk] at hclosed
            omega
        | cons c k =>
            obtain ⟨rfl, hz⟩ := List.cons.inj hclose
            exact .inl ⟨k, by rw [hm, hk], hz⟩
      · have hinner := hy.nonneg m k hk
        omega

/-- In a wrapped text a matching pair is the outer one, or stands inside. -/
theorem Balanced.pair_wrap (ha : Balanced a) (hy : Balanced y)
    (h : '(' :: (a ++ [')']) = x ++ '(' :: (y ++ ')' :: z)) :
    (x = [] ∧ y = a ∧ z = []) ∨
      ∃ x' z', a = x' ++ '(' :: (y ++ ')' :: z') ∧ x = '(' :: x' ∧ z = z' ++ [')'] := by
  cases x with
  | nil =>
      obtain ⟨-, h⟩ := List.cons.inj h
      rcases List.append_eq_append_iff.mp h with ⟨k, hk, hclose⟩ | ⟨k, hk, hclose⟩
      · rcases List.append_eq_singleton_iff.mp hclose.symm with ⟨rfl, hz⟩ | ⟨-, hz⟩
        · rw [List.append_nil] at hk
          exact .inl ⟨rfl, hk, (List.cons.inj hz).2⟩
        · cases hz
      · cases k with
        | nil =>
            rw [List.append_nil] at hk
            exact .inl ⟨rfl, hk.symm, (List.cons.inj hclose).2⟩
        | cons c k =>
            obtain ⟨rfl, -⟩ := List.cons.inj hclose
            have hfront := ha.nonneg (y ++ [')']) k (by rw [hk]; simp)
            have hinner := hy.closed
            rw [opened_append, opened_cons_close, opened_nil] at hfront
            omega
  | cons c x =>
      obtain ⟨rfl, hrest⟩ := List.cons.inj h
      rcases List.eq_nil_or_concat z with rfl | ⟨z', c, rfl⟩
      · have hlast : a ++ [')'] = (x ++ '(' :: y) ++ [')'] := by simpa using hrest
        obtain rfl := List.append_cancel_right hlast
        have hfront := ha.nonneg x ('(' :: y) rfl
        have hclosed := ha.closed
        have hinner := hy.closed
        rw [opened_append, opened_cons_open] at hclosed
        omega
      · rw [List.concat_eq_append] at hrest ⊢
        have hlast : a ++ [')'] = (x ++ '(' :: (y ++ ')' :: z')) ++ [c] := by simpa using hrest
        obtain ⟨rfl, hc⟩ := List.append_inj' hlast rfl
        obtain ⟨rfl, -⟩ := List.cons.inj hc
        exact .inr ⟨x, z', rfl, rfl, rfl⟩

end Pairs

end NumberedBasic.Text
