import NumberedBasic.Node
import NumberedBasic.Proofs.Listing.Program

/-! The plain trees of programs that were read. Nothing of a program is lost in its trees: two
programs with the same trees have the same lines, even if the order of the fields counts for
nothing. -/
namespace NumberedBasic

namespace Node

/-- The fields have the same keys in some order, and what stands under a key is related. -/
inductive Matched (R : Node → Node → Prop) :
    List (String × Node) → List (String × Node) → Prop
  | nil : Matched R [] []
  | cons {key : String} {v w : Node} {fields front back : List (String × Node)} :
      R v w → Matched R fields (front ++ back) →
      Matched R ((key, v) :: fields) (front ++ (key, w) :: back)

/-- The same tree, but for the order of the fields in each record. -/
inductive Same : Node → Node → Prop
  | null : Same .null .null
  | int (value : Int) : Same (.int value) (.int value)
  | text (value : String) : Same (.text value) (.text value)
  | list {items items' : List Node} : List.Forall₂ Same items items' →
      Same (.list items) (.list items')
  | record {fields fields' : List (String × Node)} : Matched Same fields fields' →
      Same (.record fields) (.record fields')

mutual

theorem Same.refl : (n : Node) → Same n n
  | .null => .null
  | .int value => .int value
  | .text value => .text value
  | .list items => .list (Same.refl_items items)
  | .record fields => .record (Same.refl_fields fields)

theorem Same.refl_items : (items : List Node) → List.Forall₂ Same items items
  | [] => .nil
  | item :: items => .cons (Same.refl item) (Same.refl_items items)

theorem Same.refl_fields : (fields : List (String × Node)) → Matched Same fields fields
  | [] => .nil
  | (_, v) :: fields =>
      have hrest : Matched Same fields ([] ++ fields) := Same.refl_fields fields
      .cons (Same.refl v) hrest

end

/-- Whatever stands under a key of one record, the same stands under that key of the other. -/
structure Shared (fields fields' : List (String × Node)) : Prop where
  right : ∀ key {v}, (key, v) ∈ fields → ∃ w, (key, w) ∈ fields' ∧ Same v w
  left : ∀ key {w}, (key, w) ∈ fields' → ∃ v, (key, v) ∈ fields ∧ Same v w

theorem Matched.shared {fields fields' : List (String × Node)} (h : Matched Same fields fields') :
    Shared fields fields' := by
  induction h with
  | nil => exact ⟨fun _ _ h => absurd h List.not_mem_nil, fun _ _ h => absurd h List.not_mem_nil⟩
  | @cons k a b fields front back hab _ ih =>
      have hmem : ∀ {key w}, (key, w) ∈ front ++ (k, b) :: back ↔
          (key, w) = (k, b) ∨ (key, w) ∈ front ++ back := by
        intro key w
        simp only [List.mem_append, List.mem_cons]
        tauto
      constructor
      · intro key v hv
        rcases List.mem_cons.mp hv with heq | hv
        · cases heq
          exact ⟨b, hmem.mpr (.inl rfl), hab⟩
        · obtain ⟨w, hw, hvw⟩ := ih.right key hv
          exact ⟨w, hmem.mpr (.inr hw), hvw⟩
      · intro key w hw
        rcases hmem.mp hw with heq | hw
        · cases heq
          exact ⟨a, List.mem_cons_self, hab⟩
        · obtain ⟨v, hv, hvw⟩ := ih.left key hw
          exact ⟨v, List.mem_cons_of_mem _ hv, hvw⟩

theorem Same.shared {fields fields' : List (String × Node)}
    (h : Same (.record fields) (.record fields')) : Shared fields fields' := by
  cases h with
  | record h => exact h.shared

/-- What stands under one key is the same, where the key stands once. -/
theorem Shared.under {fields fields' : List (String × Node)} (h : Shared fields fields')
    (key : String) {v w : Node} (hv : (key, v) ∈ fields)
    (hw : ∀ x, (key, x) ∈ fields' → x = w) : Same v w := by
  obtain ⟨x, hx, hvx⟩ := h.right key hv
  rwa [hw x hx] at hvx

theorem Same.text_eq {a b : String} (h : Same (.text a) (.text b)) : a = b := by
  cases h with
  | text => rfl

theorem Same.int_eq {a b : Int} (h : Same (.int a) (.int b)) : a = b := by
  cases h with
  | int => rfl

theorem Same.items {items items' : List Node} (h : Same (.list items) (.list items')) :
    List.Forall₂ Same items items' := by
  cases h with
  | list h => exact h

/-- Lists of equal trees come from equal lists. -/
theorem eq_of_forall₂_map {α : Type} {f : α → Node} {xs ys : List α}
    (hf : ∀ x ∈ xs, ∀ y ∈ ys, Same (f x) (f y) → x = y)
    (h : List.Forall₂ Same (xs.map f) (ys.map f)) : xs = ys := by
  induction xs generalizing ys with
  | nil =>
      cases ys with
      | nil => rfl
      | cons y ys => cases h
  | cons x xs ih =>
      cases ys with
      | nil => cases h
      | cons y ys =>
          cases h with
          | cons hhead htail =>
              rw [hf x (by simp) y (by simp) hhead, ih ?_ htail]
              intro a ha b hb
              exact hf a (List.mem_cons_of_mem _ ha) b (List.mem_cons_of_mem _ hb)

theorem mem_insertField {key k : String} {value v : Node} {fields : List (String × Node)} :
    (k, v) ∈ insertField key value fields ↔ (k, v) = (key, value) ∨ (k, v) ∈ fields := by
  induction fields with
  | nil => simp [insertField]
  | cons head rest ih =>
      rw [insertField]
      split
      · exact List.mem_cons
      · rw [List.mem_cons, ih, List.mem_cons]
        tauto

/-- A field that was put in under a new key does not disturb the others. -/
theorem Shared.of_insertField {key : String} {value value' : Node}
    {fields fields' : List (String × Node)}
    (h : Shared (insertField key value fields) (insertField key value' fields'))
    (hnew : ∀ v, (key, v) ∉ fields) (hnew' : ∀ v, (key, v) ∉ fields') :
    Same value value' ∧ Shared fields fields' := by
  refine ⟨h.under key (mem_insertField.mpr (.inl rfl)) ?_, ?_, ?_⟩
  · intro x hx
    rcases mem_insertField.mp hx with heq | hx
    · exact congrArg Prod.snd heq
    · exact absurd hx (hnew' x)
  · intro k v hv
    obtain ⟨w, hw, hvw⟩ := h.right k (mem_insertField.mpr (.inr hv))
    rcases mem_insertField.mp hw with heq | hw
    · cases heq
      exact absurd hv (hnew v)
    · exact ⟨w, hw, hvw⟩
  · intro k w hw
    obtain ⟨v, hv, hvw⟩ := h.left k (mem_insertField.mpr (.inr hw))
    rcases mem_insertField.mp hv with heq | hv
    · cases heq
      exact absurd hw (hnew' w)
    · exact ⟨v, hv, hvw⟩

end Node

open Node

namespace Operator

/-- The operators that texts give are told apart by their spelling. -/
theorem eq_of_spelling {op op' : Operator} (hop : op ∈ listed) (hop' : op' ∈ listed)
    (h : op.spelling = op'.spelling) : op = op' := by
  have hfound : ∀ op ∈ listed, ofSpelling? op.spelling = some op := by decide +kernel
  apply Option.some.inj
  rw [← hfound op hop, h, hfound op' hop']

theorem mem_listed_of_precedence {op : Operator} (h : op.precedence ≠ 0) : op ∈ listed := by
  cases op with
  | other code => exact absurd rfl h
  | _ => decide

theorem mem_listed_of_isRelational {op : Operator} (h : op.isRelational = true) :
    op ∈ listed := by
  cases op with
  | other code => cases h
  | _ => decide

end Operator

/-- The tree of an operation or a comparison gives back its parts. -/
theorem parts_of_same {op op' : Operator} {l l' r r' : Node}
    (h : Same (.record [("left", l), ("op", .text op.spelling), ("right", r)])
      (.record [("left", l'), ("op", .text op'.spelling), ("right", r')])) :
    Same l l' ∧ op.spelling = op'.spelling ∧ Same r r' :=
  ⟨h.shared.under "left" (by simp) (by simp), (h.shared.under "op" (by simp) (by simp)).text_eq,
    h.shared.under "right" (by simp) (by simp)⟩

/-- No two expressions that can be written have the same tree. -/
theorem Expr.eq_of_same {e f : Expr} (he : e.Writable) (hf : f.Writable)
    (h : Same e.toNode f.toNode) : e = f := by
  induction e generalizing f with
  | missing => exact he.elim
  | lit v =>
      cases f with
      | missing => exact hf.elim
      | lit w => rw [Int64.toInt_inj.mp h.int_eq]
      | var name => cases h
      | binary op left right => cases h
  | var name =>
      cases f with
      | missing => exact hf.elim
      | lit w => cases h
      | var name' =>
          have hname : Same (.text name) (.text name') := h.shared.under "var" (by simp) (by simp)
          rw [hname.text_eq]
      | binary op left right =>
          obtain ⟨w, hw, -⟩ := h.shared.right "var" List.mem_cons_self
          simp at hw
  | binary op left right ihl ihr =>
      cases f with
      | missing => exact hf.elim
      | lit w => cases h
      | var name =>
          obtain ⟨w, hw, -⟩ := h.shared.right "left" List.mem_cons_self
          simp at hw
      | binary op' left' right' =>
          obtain ⟨hop, hleft, hright⟩ := he
          obtain ⟨hop', hleft', hright'⟩ := hf
          obtain ⟨hl, hs, hr⟩ := parts_of_same h
          rw [ihl hleft hleft' hl, ihr hright hright' hr,
            Operator.eq_of_spelling (Operator.mem_listed_of_precedence hop)
              (Operator.mem_listed_of_precedence hop') hs]

theorem Condition.eq_of_same {c d : Condition} (hc : c.Readable) (hd : d.Readable)
    (h : Same c.toNode d.toNode) : c = d := by
  obtain ⟨hl, hs, hr⟩ := parts_of_same h
  have hleft := Expr.eq_of_same hc.left.writable hd.left.writable hl
  have hright := Expr.eq_of_same hc.right.writable hd.right.writable hr
  have hop := Operator.eq_of_spelling (Operator.mem_listed_of_isRelational hc.relational)
    (Operator.mem_listed_of_isRelational hd.relational) hs
  obtain ⟨op, left, right⟩ := c
  cases hop
  cases hleft
  cases hright
  rfl

theorem Expr.not_same_string {e : Expr} {text : String} :
    ¬ Same (PrintItem.string text).toNode e.toNode ∧
      ¬ Same e.toNode (PrintItem.string text).toNode := by
  have hkey : ∀ {fields v}, e.toNode = .record fields → ("string", v) ∉ fields := by
    intro fields v he
    cases e with
    | lit v => cases he
    | missing => cases he
    | var name =>
        cases he
        simp
    | binary op left right =>
        cases he
        simp
  constructor
  · intro h
    generalize he : e.toNode = n at h
    cases h with
    | record h =>
        obtain ⟨w, hw, -⟩ := h.shared.right "string" List.mem_cons_self
        exact hkey he hw
  · intro h
    generalize he : e.toNode = n at h
    cases h with
    | record h =>
        obtain ⟨v, hv, -⟩ := h.shared.left "string" List.mem_cons_self
        exact hkey he hv

/-- Strings, separators and expressions stand in one list and are still told apart. -/
theorem PrintItem.eq_of_same {a b : PrintItem} (ha : a.Readable) (hb : b.Readable)
    (h : Same a.toNode b.toNode) : a = b := by
  cases a with
  | other code e => exact ha.elim
  | string text =>
      cases b with
      | other code e => exact hb.elim
      | string text' =>
          have htext : Same (.text text) (.text text') :=
            h.shared.under "string" (by simp) (by simp)
          rw [htext.text_eq]
      | comma => cases h
      | semicolon => cases h
      | expr e => exact absurd h Expr.not_same_string.1
  | comma =>
      cases b with
      | other code e => exact hb.elim
      | string text => cases h
      | comma => rfl
      | semicolon => exact absurd h.text_eq (by decide)
      | expr e => cases e <;> cases h
  | semicolon =>
      cases b with
      | other code e => exact hb.elim
      | string text => cases h
      | comma => exact absurd h.text_eq (by decide)
      | semicolon => rfl
      | expr e => cases e <;> cases h
  | expr e =>
      cases b with
      | other code f => exact hb.elim
      | string text => exact absurd h Expr.not_same_string.2
      | comma => cases e <;> cases h
      | semicolon => cases e <;> cases h
      | expr f => rw [Expr.eq_of_same ha.writable hb.writable h]

theorem eq_of_same_namesNode {names names' : List String}
    (h : Same (namesNode names) (namesNode names')) : names = names' := by
  cases names with
  | nil =>
      cases names' with
      | nil => rfl
      | cons name' names' => cases h
  | cons name names =>
      cases names' with
      | nil => cases h
      | cons name' names' => exact eq_of_forall₂_map (fun _ _ _ _ h => h.text_eq) h.items

namespace Statement

def kind : Statement → String
  | .let_ _ _ => "let"
  | .print _ => "print"
  | .input _ _ => "input"
  | .for_ _ _ _ => "for"
  | .next _ => "next"
  | .if_ _ _ => "if"
  | .goto _ => "goto"
  | .gosub _ => "gosub"
  | .return_ => "return"
  | .end_ => "end"
  | .empty => "empty"
  | .missing => "empty"

theorem mem_fields_kind {s : Statement} {v : Node} :
    ("kind", v) ∈ s.fields ↔ v = .text s.kind := by
  cases s with
  | input prompt names => cases prompt <;> simp [fields, kind]
  | _ => simp [fields, kind]

theorem notMem_fields_line {s : Statement} {v : Node} : ("line", v) ∉ s.fields := by
  cases s with
  | input prompt names => cases prompt <;> simp [fields]
  | _ => simp [fields]

theorem kind_of_shared {s t : Statement} (h : Shared s.fields t.fields) : s.kind = t.kind :=
  (h.under "kind" (mem_fields_kind.mpr rfl) fun _ hx => mem_fields_kind.mp hx).text_eq

-- The induction is on the first statement. The kinds agree, so the second one has the same form,
-- and field by field the parts agree.
theorem eq_of_shared {s t : Statement} (hs : s.Readable) (ht : t.Readable)
    (h : Shared s.fields t.fields) : s = t := by
  have hkind := kind_of_shared h
  induction s generalizing t with
  | let_ name value =>
      cases t with
      | let_ name' value' =>
          have hname : Same (.text name) (.text name') :=
            h.under "name" (by simp [fields]) (by simp [fields])
          have hvalue : Same value.toNode value'.toNode :=
            h.under "expr" (by simp [fields]) (by simp [fields])
          rw [hname.text_eq, Expr.eq_of_same hs.2.writable ht.2.writable hvalue]
      | _ => simp [kind] at hkind
  | print items =>
      cases t with
      | print items' =>
          have hitems : Same (.list (items.map PrintItem.toNode))
              (.list (items'.map PrintItem.toNode)) :=
            h.under "items" (by simp [fields]) (by simp [fields])
          rw [eq_of_forall₂_map (fun a ha b hb => PrintItem.eq_of_same (hs a ha) (ht b hb))
            hitems.items]
      | _ => simp [kind] at hkind
  | input prompt names =>
      cases t with
      | input prompt' names' =>
          cases prompt with
          | none =>
              cases prompt' with
              | none =>
                  have hnames : Same (namesNode names) (namesNode names') :=
                    h.under "names" (by simp [fields]) (by simp [fields])
                  rw [eq_of_same_namesNode hnames]
              | some text' =>
                  obtain ⟨v, hv, -⟩ := h.left "prompt" (w := .text text') (by simp [fields])
                  simp [fields] at hv
          | some text =>
              cases prompt' with
              | none =>
                  obtain ⟨w, hw, -⟩ := h.right "prompt" (v := .text text) (by simp [fields])
                  simp [fields] at hw
              | some text' =>
                  have hnames : Same (namesNode names) (namesNode names') :=
                    h.under "names" (by simp [fields]) (by simp [fields])
                  have htext : Same (.text text) (.text text') :=
                    h.under "prompt" (by simp [fields]) (by simp [fields])
                  rw [eq_of_same_namesNode hnames, htext.text_eq]
      | _ => simp [kind] at hkind
  | for_ name first last =>
      cases t with
      | for_ name' first' last' =>
          have hname : Same (.text name) (.text name') :=
            h.under "var" (by simp [fields]) (by simp [fields])
          have hfirst : Same first.toNode first'.toNode :=
            h.under "from" (by simp [fields]) (by simp [fields])
          have hlast : Same last.toNode last'.toNode :=
            h.under "to" (by simp [fields]) (by simp [fields])
          rw [hname.text_eq, Expr.eq_of_same hs.2.1.writable ht.2.1.writable hfirst,
            Expr.eq_of_same hs.2.2.writable ht.2.2.writable hlast]
      | _ => simp [kind] at hkind
  | next name =>
      cases t with
      | next name' =>
          have hname : Same (.text name) (.text name') :=
            h.under "var" (by simp [fields]) (by simp [fields])
          rw [hname.text_eq]
      | _ => simp [kind] at hkind
  | if_ c body ih =>
      cases t with
      | if_ c' body' =>
          have hc : Same c.toNode c'.toNode := h.under "cond" (by simp [fields]) (by simp [fields])
          have hbody : Same (.record body.fields) (.record body'.fields) :=
            h.under "then" (by simp [fields]) (by simp [fields])
          rw [Condition.eq_of_same hs.1 ht.1 hc,
            ih hs.2 ht.2 hbody.shared (kind_of_shared hbody.shared)]
      | _ => simp [kind] at hkind
  | goto target =>
      cases t with
      | goto target' =>
          have htarget : Same (.int target) (.int target') :=
            h.under "target" (by simp [fields]) (by simp [fields])
          rw [htarget.int_eq]
      | _ => simp [kind] at hkind
  | gosub target =>
      cases t with
      | gosub target' =>
          have htarget : Same (.int target) (.int target') :=
            h.under "target" (by simp [fields]) (by simp [fields])
          rw [htarget.int_eq]
      | _ => simp [kind] at hkind
  | return_ =>
      cases t with
      | return_ => rfl
      | _ => simp [kind] at hkind
  | end_ =>
      cases t with
      | end_ => rfl
      | _ => simp [kind] at hkind
  | empty =>
      cases t with
      | empty => rfl
      | missing => exact ht.elim
      | _ => simp [kind] at hkind
  | missing => exact hs.elim

end Statement

/-- The number of a line has a key that no statement uses. -/
theorem Line.eq_of_same {l l' : Line} (hl : l.Readable) (hl' : l'.Readable)
    (h : Same l.toNode l'.toNode) : l = l' := by
  obtain ⟨hnumber, hfields⟩ := h.shared.of_insertField (fun _ => Statement.notMem_fields_line)
    fun _ => Statement.notMem_fields_line
  have hstatement := Statement.eq_of_shared hl.statement hl'.statement hfields
  obtain ⟨number, s⟩ := l
  cases hnumber.int_eq
  cases hstatement
  rfl

/-- Programs that were read have the same lines exactly if they have the same trees, the order of
fields apart. -/
theorem parseProgram_toNodes_iff {source source' : String} {p q : Program}
    (hp : parseProgram source = .ok p) (hq : parseProgram source' = .ok q) :
    List.Forall₂ Same p.toNodes q.toNodes ↔ p.lines = q.lines := by
  obtain ⟨-, hreadable⟩ := parseProgram_eq_ok hp
  obtain ⟨-, hreadable'⟩ := parseProgram_eq_ok hq
  constructor
  · intro h
    exact eq_of_forall₂_map
      (fun l hl l' hl' => Line.eq_of_same (hreadable l hl) (hreadable' l' hl')) h
  · intro h
    rw [Program.toNodes, Program.toNodes, h]
    exact Same.refl_items _

def askingLines (prompt : Option String) : List Line :=
  [⟨10, .if_ ⟨.lt, .lit 1, .lit 2⟩ (.input prompt ["a"])⟩, ⟨20, .print [.expr (.var "a")]⟩]

/-- An empty prompt is told apart from none, inside an IF too. -/
theorem parseProgram_toNodes_iff_prompt :
    ∃ p q, parseProgram "10 if 1<2 then input \"\" a\n20 print a" = .ok p ∧
      parseProgram "10 if 1<2 then input a\n20 print a" = .ok q ∧
      ¬ List.Forall₂ Same p.toNodes q.toNodes := by
  have hread : parseLines 1 (Text.physicalLines "10 if 1<2 then input \"\" a\n20 print a") =
      .ok (askingLines (some "")) := by decide +kernel
  have hread' : parseLines 1 (Text.physicalLines "10 if 1<2 then input a\n20 print a") =
      .ok (askingLines none) := by decide +kernel
  refine ⟨.ofLines (askingLines (some "")), .ofLines (askingLines none), ?_, ?_, ?_⟩
  · rw [parseProgram, hread, Grammar.ok_map]
  · rw [parseProgram, hread', Grammar.ok_map]
  · intro h
    have hlines := (parseProgram_toNodes_iff (by rw [parseProgram, hread, Grammar.ok_map])
      (by rw [parseProgram, hread', Grammar.ok_map])).mp h
    exact absurd hlines (by decide)

end NumberedBasic
