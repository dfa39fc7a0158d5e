import NumberedBasic.Proofs.Listing.Expr

/-! Statements as they are written, and those whose text is read as the same statement again. -/
namespace NumberedBasic
open Grammar Text Lexeme

def PrintItem.contents : PrintItem → List Content
  | .string text => [(.string, text)]
  | .comma => [Symbol.comma.content]
  | .semicolon => [Symbol.semicolon.content]
  | .expr e => e.contents
  | .other _ e => e.contents

def namesContents : List String → List Content
  | [] => []
  | [name] => [(.identifier, name)]
  | name :: next :: names =>
      (.identifier, name) :: Symbol.comma.content :: namesContents (next :: names)

def Condition.contents (c : Condition) : List Content :=
  c.left.contents ++ c.op.symbol.content :: c.right.contents

/-- The tokens that a statement is written with. -/
def Statement.contents : Statement → List Content
  | .let_ name value =>
      Keyword.let_.content :: (.identifier, name) :: Symbol.eq.content :: value.contents
  | .print items => Keyword.print.content :: items.flatMap PrintItem.contents
  | .input none names => Keyword.input.content :: namesContents names
  | .input (some prompt) names =>
      Keyword.input.content :: (.string, prompt) :: namesContents names
  | .for_ name first last =>
      Keyword.for_.content :: (.identifier, name) :: Symbol.eq.content ::
        (first.contents ++ Keyword.to.content :: last.contents)
  | .next name => [Keyword.next.content, (.identifier, name)]
  | .if_ c body => Keyword.if_.content :: (c.contents ++ Keyword.then_.content :: body.contents)
  | .goto target => Keyword.goto.content :: numeralContents target
  | .gosub target => Keyword.gosub.content :: numeralContents target
  | .return_ => [Keyword.return_.content]
  | .end_ => [Keyword.end_.content]
  | .empty => []
  | .missing => []

/-- The expressions that some text stands for. -/
structure Expr.Readable (e : Expr) : Prop where
  writable : e.Writable
  unsigned : e.Unsigned
  nesting_le : e.nesting ≤ nestingLimit - 1

/-- The items that some text stands for, where the texts between quotes are of the given kind. -/
def PrintItem.ReadableWith {τ : Type} (quotable : τ → Prop) : PrintItem τ → Prop
  | .string text => quotable text
  | .comma => True
  | .semicolon => True
  | .expr e => e.Readable
  | .other _ _ => False

structure Condition.Readable (c : Condition) : Prop where
  relational : c.op.isRelational = true
  left : c.left.Readable
  right : c.right.Readable

/-- The statements that some text stands for. -/
def Statement.ReadableWith {τ : Type} (quotable : τ → Prop) : Statement τ → Prop
  | .let_ name value => Spelled .identifier name ∧ value.Readable
  | .print items => ∀ item ∈ items, item.ReadableWith quotable
  | .input prompt names =>
      (∀ text ∈ prompt, quotable text) ∧ names ≠ [] ∧ ∀ name ∈ names, Spelled .identifier name
  | .for_ name first last => Spelled .identifier name ∧ first.Readable ∧ last.Readable
  | .next name => Spelled .identifier name
  | .if_ c body => c.Readable ∧ body.ReadableWith quotable
  | .goto target => IsNumeral target
  | .gosub target => IsNumeral target
  | .return_ => True
  | .end_ => True
  | .empty => True
  | .missing => False

structure Line.ReadableWith {τ : Type} (quotable : τ → Prop) (l : Line τ) : Prop where
  number : IsNumeral l.number
  statement : l.statement.ReadableWith quotable

/-- Where the texts are characters, a quote and a newline are all that cannot stand between
quotes. -/
abbrev PrintItem.Readable (item : PrintItem) : Prop := item.ReadableWith (Spelled .string)

abbrev Statement.Readable (s : Statement) : Prop := s.ReadableWith (Spelled .string)

abbrev Line.Readable (l : Line) : Prop := l.ReadableWith (Spelled .string)

theorem scans_identifier {name : String} (h : Spelled .identifier name) :
    Scans name [(.identifier, name)] :=
  scans_spelled h (by simp)

theorem PrintItem.scans_format {item : PrintItem} (h : item.Readable) :
    Scans item.format item.contents := by
  cases item with
  | string text => exact scans_string h
  | comma => exact scans_symbol .comma
  | semicolon => exact scans_symbol .semicolon
  | expr e => exact e.scans_format h.writable
  | other code e => exact h.elim

theorem scans_items {items : List PrintItem} (h : ∀ item ∈ items, item.Readable) :
    Scans (" ".intercalate (items.map PrintItem.format)) (items.flatMap PrintItem.contents) := by
  induction items with
  | nil => exact scans_empty
  | cons item items ih =>
      obtain ⟨hitem, hitems⟩ := List.forall_mem_cons.mp h
      cases items with
      | nil => simpa using item.scans_format hitem
      | cons next items =>
          have hscan := (item.scans_format hitem).blank (ih hitems)
          simpa [String.intercalate_cons_cons] using hscan

theorem scans_names {names : List String} (h : ∀ name ∈ names, Spelled .identifier name) :
    Scans (", ".intercalate names) (namesContents names) := by
  induction names with
  | nil => exact scans_empty
  | cons name names ih =>
      obtain ⟨hname, hnames⟩ := List.forall_mem_cons.mp h
      cases names with
      | nil => simpa [namesContents] using scans_identifier hname
      | cons next names =>
          have hscan := ((scans_identifier hname).concat_symbol .comma).blank (ih hnames)
          rw [String.intercalate_cons_cons]
          simpa [Scans, Symbol.char, namesContents] using hscan

theorem Condition.scans_format {c : Condition} (h : c.Readable) : Scans c.format c.contents := by
  have hleft := c.left.scans_format h.left.writable
  have hright := c.right.scans_format h.right.writable
  have hscan := (hleft.blank (scans_symbol c.op.symbol)).blank hright
  rw [Condition.format, Operator.spelling_eq (.inr h.relational)]
  rwa [List.append_assoc] at hscan

/-- The text of a statement is cut into its tokens. -/
theorem Statement.scans_format {s : Statement} (h : s.Readable) : Scans s.format s.contents := by
  induction s with
  | let_ name value =>
      have hscan := (scans_keyword .let_).blank ((scans_identifier h.1).blank
        ((scans_symbol .eq).blank (value.scans_format h.2.writable)))
      simpa [Scans, Statement.format, Statement.contents, Keyword.spelling, Symbol.char] using hscan
  | print items =>
      cases items with
      | nil => exact scans_keyword .print
      | cons item items =>
          have hscan := (scans_keyword .print).blank (scans_items h)
          simpa [Scans, Statement.format, Statement.contents, Keyword.spelling] using hscan
  | input prompt names =>
      obtain ⟨hprompt, -, hnames⟩ := h
      have hscan := scans_names hnames
      cases prompt with
      | none =>
          have hscan := (scans_keyword .input).blank hscan
          simpa [Scans, Statement.format, Statement.contents, Keyword.spelling] using hscan
      | some prompt =>
          have hstring := scans_string (hprompt prompt rfl)
          have hscan := (scans_keyword .input).blank (hstring.blank hscan)
          simpa [Scans, Statement.format, Statement.contents, Keyword.spelling] using hscan
  | for_ name first last =>
      obtain ⟨hname, hfirst, hlast⟩ := h
      have hscan := (scans_keyword .for_).blank ((scans_identifier hname).blank
        ((scans_symbol .eq).blank ((first.scans_format hfirst.writable).blank
          ((scans_keyword .to).blank (last.scans_format hlast.writable)))))
      simpa [Scans, Statement.format, Statement.contents, Keyword.spelling, Symbol.char] using hscan
  | next name =>
      have hscan := (scans_keyword .next).blank (scans_identifier h)
      simpa [Scans, Statement.format, Statement.contents, Keyword.spelling] using hscan
  | if_ c body ih =>
      have hcondition := (scans_keyword .if_).blank
        ((Condition.scans_format h.1).blank (scans_keyword .then_))
      have hbody := ih h.2
      by_cases hempty : body.format.isEmpty = true
      · rw [String.isEmpty_iff.mp hempty] at hbody
        rw [Statement.contents, hbody.eq_nil, Statement.format, Script.isEmpty_eq, if_pos hempty]
        simpa [Scans, Keyword.spelling] using hcondition
      · rw [Statement.contents, Statement.format, Script.isEmpty_eq, if_neg hempty]
        simpa [Scans, Keyword.spelling] using hcondition.blank hbody
  | goto target =>
      have hscan := (scans_keyword .goto).blank (scans_write target)
      simpa [Scans, Statement.format, Statement.contents, Keyword.spelling] using hscan
  | gosub target =>
      have hscan := (scans_keyword .gosub).blank (scans_write target)
      simpa [Scans, Statement.format, Statement.contents, Keyword.spelling] using hscan
  | return_ => exact scans_keyword .return_
  | end_ => exact scans_keyword .end_
  | empty => exact scans_empty
  | missing => exact h.elim

theorem Line.scans_format {l : Line} (h : l.Readable) :
    Scans l.format (numeralContents l.number ++ l.statement.contents) := by
  have hnumber := scans_write l.number
  have hbody := l.statement.scans_format h.statement
  by_cases hempty : l.statement.format.isEmpty = true
  · rw [String.isEmpty_iff.mp hempty] at hbody
    rwa [hbody.eq_nil, List.append_nil, Line.format, Script.isEmpty_eq, if_pos hempty]
  · rw [Line.format, Script.isEmpty_eq, if_neg hempty]
    exact hnumber.blank hbody

theorem Expr.Readable.derives {e : Expr} (h : e.Readable) {u : List Token}
    (hu : u.map Token.content = e.contents) : Derives .sum (nestingLimit - 1) u e :=
  Expr.derives_sum h.writable h.unsigned h.nesting_le hu

/-- No operator stands in front. -/
def Inert (tokens : List Content) : Prop :=
  ∀ c ∈ tokens.head?, additive? c.1 = none ∧ multiplicative? c.1 = none

theorem Inert.stops {u : List Token} (h : Inert (u.map Token.content)) : Stops u := by
  cases u with
  | nil => exact ⟨rfl, rfl⟩
  | cons t rest => exact h t.content rfl

theorem Expr.inert_contents {e : Expr} (hw : e.Writable) (hs : e.Unsigned) :
    e.contents ≠ [] ∧ Inert e.contents := by
  induction e with
  | lit value =>
      obtain ⟨k, hk⟩ := Int.eq_ofNat_of_zero_le hs
      simp [Expr.contents, hk, numeralContents, Inert, additive?, multiplicative?]
  | var name => simp [Expr.contents, Inert, additive?, multiplicative?]
  | binary op left right ihl _ =>
      obtain ⟨hne, hinert⟩ := ihl hw.2.1 hs.1
      rw [Expr.contents]
      cases left.isLoose op.precedence with
      | true => simp [bracket, Inert, Symbol.content, additive?, multiplicative?]
      | false =>
          obtain ⟨c, rest, hcons⟩ := List.exists_cons_of_ne_nil hne
          rw [hcons] at hinert ⊢
          exact ⟨by simp [bracket], hinert⟩
  | missing => exact hw.elim

theorem PrintItem.inert_contents {item : PrintItem} (h : item.Readable) :
    item.contents ≠ [] ∧ Inert item.contents := by
  cases item with
  | string text => simp [PrintItem.contents, Inert, additive?, multiplicative?]
  | comma => simp [PrintItem.contents, Inert, Symbol.content, additive?, multiplicative?]
  | semicolon => simp [PrintItem.contents, Inert, Symbol.content, additive?, multiplicative?]
  | expr e => exact Expr.inert_contents h.writable h.unsigned
  | other code e => exact h.elim

theorem inert_items {items : List PrintItem} (h : ∀ item ∈ items, item.Readable) :
    Inert (items.flatMap PrintItem.contents) := by
  cases items with
  | nil => simp [Inert]
  | cons item items =>
      obtain ⟨hne, hinert⟩ := PrintItem.inert_contents (h item (by simp))
      obtain ⟨c, rest, hcons⟩ := List.exists_cons_of_ne_nil hne
      rw [List.flatMap_cons]
      rw [hcons] at hinert ⊢
      exact hinert

theorem items_of_contents {items : List PrintItem} (h : ∀ item ∈ items, item.Readable)
    {u : List Token} (hu : u.map Token.content = items.flatMap PrintItem.contents) :
    Items Separated (nestingLimit - 1) u items := by
  induction items generalizing u with
  | nil =>
      rw [List.map_eq_nil_iff.mp hu]
      exact .nil
  | cons item items ih =>
      obtain ⟨hitem, hitems⟩ := List.forall_mem_cons.mp h
      rw [List.flatMap_cons] at hu
      obtain ⟨v, w, rfl, hv, hw⟩ := List.map_eq_append_iff.mp hu
      have hrest := ih hitems hw
      cases item with
      | string text =>
          obtain ⟨t, rfl, hk, rfl⟩ := exists_token hv
          exact .string hk hrest
      | comma =>
          obtain ⟨t, rfl, hk, -⟩ := exists_token hv
          exact .comma hk hrest
      | semicolon =>
          obtain ⟨t, rfl, hk, -⟩ := exists_token hv
          exact .semicolon hk hrest
      | expr e =>
          have hinert := inert_items hitems
          rw [← hw] at hinert
          exact .expr (hitem.derives hv) hinert.stops hrest
      | other code e => exact hitem.elim

theorem names_of_contents {names : List String} (h : names ≠ []) {u : List Token}
    (hu : u.map Token.content = namesContents names) : Names u names := by
  fun_induction namesContents names generalizing u with
  | case1 => exact absurd rfl h
  | case2 name =>
      obtain ⟨t, rfl, hk, rfl⟩ := exists_token hu
      exact .one hk
  | case3 name next names ih =>
      obtain ⟨t, v, rfl, hk, rfl, hv⟩ := exists_cons hu
      obtain ⟨c, w, rfl, hc, -, hw⟩ := exists_cons hv
      exact .more hk hc (ih (by simp) hw)

theorem Operator.comparison {op : Operator} (h : op.isRelational = true) :
    Comparison (.symbol op.symbol) op := by
  cases op with
  | lt => exact .less
  | eq => exact .equal
  | gt => exact .greater
  | _ => cases h

/-- The tokens that a statement is written with derive it. -/
theorem Statement.read {s : Statement} (h : s.Readable) {u : List Token}
    (hu : u.map Token.content = s.contents) : Read u s := by
  induction s generalizing u with
  | let_ name value =>
      obtain ⟨k, v, rfl, hk, -, hv⟩ := exists_cons hu
      obtain ⟨x, w, rfl, hx, rfl, hw⟩ := exists_cons hv
      obtain ⟨e, y, rfl, he, -, hy⟩ := exists_cons hw
      exact .let_ hk hx he (h.2.derives hy)
  | print items =>
      obtain ⟨k, v, rfl, hk, -, hv⟩ := exists_cons hu
      exact .print hk (items_of_contents h hv)
  | input prompt names =>
      cases prompt with
      | none =>
          obtain ⟨k, v, rfl, hk, -, hv⟩ := exists_cons hu
          exact .input hk (names_of_contents h.2.1 hv)
      | some prompt =>
          obtain ⟨k, v, rfl, hk, -, hv⟩ := exists_cons hu
          obtain ⟨p, w, rfl, hp, rfl, hw⟩ := exists_cons hv
          exact .prompt hk hp (names_of_contents h.2.1 hw)
  | for_ name first last =>
      obtain ⟨k, v, rfl, hk, -, hv⟩ := exists_cons hu
      obtain ⟨x, w, rfl, hx, rfl, hw⟩ := exists_cons hv
      obtain ⟨e, y, rfl, he, -, hy⟩ := exists_cons hw
      obtain ⟨a, t, b, rfl, ha, ht, hb⟩ := exists_around hy
      exact .for_ hk hx he (h.2.1.derives ha) ht (h.2.2.derives hb)
  | next name =>
      obtain ⟨k, v, rfl, hk, -, hv⟩ := exists_cons hu
      obtain ⟨x, rfl, hx, rfl⟩ := exists_token hv
      exact .next hk hx
  | if_ c body ih =>
      obtain ⟨hc, hbody⟩ := h
      obtain ⟨k, v, rfl, hk, -, hv⟩ := exists_cons hu
      obtain ⟨y, t, w, rfl, hy, ht, hw⟩ := exists_around hv
      obtain ⟨a, r, b, rfl, ha, hr, hb⟩ := exists_around hy
      have hcompare := Operator.comparison hc.relational
      change r.kind = .symbol c.op.symbol at hr
      rw [← hr] at hcompare
      rw [List.append_assoc]
      exact .if_ hk (hc.left.derives ha) hcompare (hc.right.derives hb) ht (ih hbody hw)
  | goto target =>
      obtain ⟨k, v, rfl, hk, -, hv⟩ := exists_cons hu
      obtain ⟨t, rfl, ht⟩ := h.exists_number hv
      exact .goto hk ht
  | gosub target =>
      obtain ⟨k, v, rfl, hk, -, hv⟩ := exists_cons hu
      obtain ⟨t, rfl, ht⟩ := h.exists_number hv
      exact .gosub hk ht
  | return_ =>
      obtain ⟨k, rfl, hk, -⟩ := exists_token hu
      exact .return_ hk
  | end_ =>
      obtain ⟨k, rfl, hk, -⟩ := exists_token hu
      exact .end_ hk
  | empty =>
      rw [List.map_eq_nil_iff.mp hu]
      exact .empty
  | missing => exact h.elim

theorem Grammar.Derives.readable {u : List Token} {e : Expr}
    (h : Derives .sum (nestingLimit - 1) u e) (hu : ∀ t ∈ u, Spelled t.kind t.text) :
    e.Readable := by
  obtain ⟨hw, hs⟩ := h.writable hu
  exact ⟨hw, hs, Nat.le_of_add_right_le h.nesting_le⟩

theorem Grammar.Items.readable {cut : Cut} {u : List Token} {items : List PrintItem}
    (h : Items cut (nestingLimit - 1) u items) (hu : ∀ t ∈ u, Spelled t.kind t.text) :
    ∀ item ∈ items, item.Readable := by
  induction h with
  | nil => simp
  | string hk _ ih =>
      obtain ⟨ht, hrest⟩ := List.forall_mem_cons.mp hu
      rw [hk] at ht
      exact List.forall_mem_cons.mpr ⟨ht, ih hrest⟩
  | comma _ _ ih =>
      exact List.forall_mem_cons.mpr ⟨trivial, ih (List.forall_mem_cons.mp hu).2⟩
  | semicolon _ _ ih =>
      exact List.forall_mem_cons.mpr ⟨trivial, ih (List.forall_mem_cons.mp hu).2⟩
  | expr he _ _ ih =>
      obtain ⟨hexpr, hrest⟩ := List.forall_mem_append.mp hu
      exact List.forall_mem_cons.mpr ⟨he.readable hexpr, ih hrest⟩

theorem Grammar.Names.spelled {u : List Token} {names : List String} (h : Names u names)
    (hu : ∀ t ∈ u, Spelled t.kind t.text) :
    names ≠ [] ∧ ∀ name ∈ names, Spelled .identifier name := by
  induction h with
  | one hk =>
      have ht := hu _ (List.mem_singleton_self _)
      rw [hk] at ht
      exact ⟨by simp, by simpa using ht⟩
  | more hk _ _ ih =>
      obtain ⟨ht, hrest⟩ := List.forall_mem_cons.mp hu
      rw [hk] at ht
      have hnames := ih (List.forall_mem_cons.mp hrest).2
      exact ⟨by simp, List.forall_mem_cons.mpr ⟨ht, hnames.2⟩⟩

theorem Grammar.Comparison.isRelational {k : Kind} {op : Operator} (h : Comparison k op) :
    op.isRelational = true := by
  cases h <;> rfl

/-- What was derived from well spelled tokens can be read again. -/
theorem Grammar.Command.readable {cut : Cut} {u : List Token} {s : Statement}
    (h : Command cut (nestingLimit - 1) u s) (hu : ∀ t ∈ u, Spelled t.kind t.text) :
    s.Readable := by
  induction h with
  | empty => trivial
  | let_ _ hx _ he =>
      simp only [List.forall_mem_cons] at hu
      obtain ⟨-, hname, -, hvalue⟩ := hu
      rw [hx] at hname
      exact ⟨hname, he.readable hvalue⟩
  | print _ hitems => exact hitems.readable (List.forall_mem_cons.mp hu).2
  | input _ hnames => exact ⟨by simp, hnames.spelled (List.forall_mem_cons.mp hu).2⟩
  | prompt _ hp hnames =>
      simp only [List.forall_mem_cons] at hu
      obtain ⟨-, hprompt, hrest⟩ := hu
      rw [hp] at hprompt
      exact ⟨by simpa using hprompt, hnames.spelled hrest⟩
  | for_ _ hx _ he _ hf =>
      simp only [List.forall_mem_cons, List.forall_mem_append] at hu
      obtain ⟨-, hname, -, hfirst, -, hlast⟩ := hu
      rw [hx] at hname
      exact ⟨hname, he.readable hfirst, hf.readable hlast⟩
  | next _ hx =>
      simp only [List.forall_mem_cons] at hu
      have hname := hu.2.1
      rwa [hx] at hname
  | if_ _ he hc hf _ _ ih =>
      simp only [List.forall_mem_cons, List.forall_mem_append] at hu
      obtain ⟨-, hleft, -, hright, -, hbody⟩ := hu
      exact ⟨⟨hc.isRelational, he.readable hleft, hf.readable hright⟩, ih hbody⟩
  | goto _ ht => exact ht.isNumeral (hu _ (by simp))
  | gosub _ ht => exact ht.isNumeral (hu _ (by simp))
  | return_ _ => trivial
  | end_ _ => trivial

end NumberedBasic
