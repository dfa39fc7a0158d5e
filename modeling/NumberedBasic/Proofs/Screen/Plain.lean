import NumberedBasic.Proofs.Screen.Gist

/-! The transcript and the plain output. The rows on the screen are those that the same output
leaves on a plain page, with one exception: as long as the only finished row is blank, it is not
shown. -/
namespace NumberedBasic

namespace Text

/-- Drops one newline from the end, if there is one. -/
def chomp (text : String) : String :=
  if text.toList.getLast? = some '\n' then String.ofList text.toList.dropLast else text

theorem chomp_append_newline (text : String) : chomp (text ++ "\n") = text := by
  simp [chomp]

theorem chomp_append {tail : String} (hne : tail ≠ "")
    (hlast : tail.toList.getLast? ≠ some '\n') (front : String) :
    chomp (front ++ tail) = front ++ tail := by
  apply if_neg
  rw [String.toList_append, List.getLast?_append]
  cases h : tail.toList.getLast? with
  | none => exact absurd (by simpa using h) hne
  | some c =>
      rw [h] at hlast
      exact hlast

theorem intercalate_append_newline {rows : List String} (h : rows ≠ []) :
    "\n".intercalate rows ++ "\n" = String.join (rows.map (· ++ "\n")) := by
  induction rows with
  | nil => contradiction
  | cons row rows ih =>
      cases rows with
      | nil => simp
      | cons next rows =>
          rw [String.intercalate_cons_cons, String.append_assoc, String.append_assoc,
            ih (List.cons_ne_nil next rows)]
          simp [String.append_assoc]

theorem intercalate_eq_empty {rows : List String} (h : "\n".intercalate rows = "") :
    rows = [] ∨ rows = [""] := by
  cases rows with
  | nil => exact .inl rfl
  | cons row rows =>
      cases rows with
      | nil =>
          rw [String.intercalate_singleton] at h
          exact .inr (by rw [h])
      | cons next rows =>
          rw [String.intercalate_cons_cons] at h
          simp at h

end Text

namespace Page

/-- The page as plain text: every finished row with its line end, and then the open one. -/
def text (p : Page) : String := String.join (p.history.map (· ++ "\n")) ++ p.tail

theorem text_write (p : Page) (out : Output) : (p.write out).text = p.text ++ out.render := by
  unfold write Output.render text
  split <;> simp [String.append_assoc]

theorem text_writeAll (p : Page) (outs : List Output) :
    (p.writeAll outs).text = p.text ++ String.join (outs.map Output.render) := by
  induction outs generalizing p with
  | nil => simp [writeAll]
  | cons out outs ih =>
      change ((p.write out).writeAll outs).text = _
      rw [ih, text_write]
      simp [String.append_assoc]

end Page

theorem Viewport.lines_setContent (v : Viewport) (content : String) :
    (v.setContent content).lines =
      (Text.pieces Text.isNewline (Text.plainNewlines content.toList)).map String.ofList := by
  unfold setContent
  dsimp only
  split <;> rfl

namespace Screen

variable {s : Screen}

theorem page_appendAll (s : Screen) (outs : List Output) :
    (outs.foldl append s).page = s.page.writeAll outs := by
  induction outs generalizing s with
  | nil => rfl
  | cons out outs ih =>
      change (outs.foldl append (s.append out)).page = (s.page.write out).writeAll outs
      rw [ih, page_append]

/-- What has been appended is what the viewport has been given. -/
theorem lines_append (s : Screen) (out : Output) :
    (s.append out).viewport.lines =
      (Text.pieces Text.isNewline (Text.plainNewlines (s.append out).content.toList)).map
        String.ofList :=
  Viewport.lines_setContent _ _

theorem lines_appendAll (s : Screen) {outs : List Output} (h : outs ≠ []) :
    (outs.foldl append s).viewport.lines =
      (Text.pieces Text.isNewline (Text.plainNewlines (outs.foldl append s).content.toList)).map
        String.ofList := by
  obtain ⟨front, last, rfl⟩ := (List.eq_nil_or_concat outs).resolve_left h
  rw [List.concat_eq_append, List.foldl_append]
  exact lines_append _ last

/-- Finished rows are shown with a newline between them; the plain text has one more behind them. -/
theorem content_of_closed (htail : s.tail = "") (hrows : s.history ≠ [])
    (hblank : s.history ≠ [""]) : s.content ++ "\n" = s.page.text := by
  have hne : "\n".intercalate s.history ≠ "" := fun hempty =>
    (Text.intercalate_eq_empty hempty).elim hrows hblank
  have hcontent : s.content = "\n".intercalate s.history := by
    simp [content, htail, hne]
  rw [hcontent, Text.intercalate_append_newline hrows, Page.text]
  simp [page, htail]

theorem content_of_open (htail : s.tail ≠ "") (hblank : s.history ≠ [""]) :
    s.content = s.page.text := by
  by_cases hrows : s.history = []
  · simp [content, page, Page.text, htail, hrows]
  · have hne : "\n".intercalate s.history ≠ "" := fun hempty =>
      (Text.intercalate_eq_empty hempty).elim hrows hblank
    rw [Page.text]
    change s.content = String.join (s.history.map (· ++ "\n")) ++ s.tail
    rw [← Text.intercalate_append_newline hrows]
    simp [content, htail, hne]

/-- A single blank row is taken for no row at all. -/
theorem content_of_blank (hblank : s.history = [""]) :
    s.content = if s.tail = "" then "(no output yet)" else s.tail := by
  by_cases htail : s.tail = ""
  · simp [content, hblank, htail]
  · simp [content, hblank, htail]

/-- Nothing is dropped behind an open row, and one newline behind a finished one. -/
theorem content_eq_iff (htext : s.page.text ≠ "") :
    s.content = (if s.tail.toList.getLast? = some '\n' then s.page.text
        else Text.chomp s.page.text) ↔ s.history ≠ [""] := by
  by_cases htail : s.tail = ""
  · rw [if_neg (by simp [htail])]
    constructor
    · intro heq hblank
      rw [content_of_blank hblank, if_pos htail, Page.text] at heq
      simp [page, hblank, htail, Text.chomp] at heq
    · intro hblank
      have hrows : s.history ≠ [] := by
        intro hnil
        exact htext (by simp [page, Page.text, hnil, htail])
      rw [← content_of_closed htail hrows hblank, Text.chomp_append_newline]
  · have hwhole : (if s.tail.toList.getLast? = some '\n' then s.page.text
        else Text.chomp s.page.text) = s.page.text := by
      split
      · rfl
      · rename_i hlast
        exact Text.chomp_append htail hlast _
    rw [hwhole]
    constructor
    · intro heq hblank
      have hpage : s.page.text = "\n" ++ s.tail := by simp [page, Page.text, hblank]
      rw [content_of_blank hblank, if_neg htail, hpage] at heq
      have hlength := congrArg String.length heq
      rw [String.length_append] at hlength
      have hnewline : "\n".length = 1 := rfl
      omega
    · exact content_of_open htail

/-- On a screen that is new or has just been restarted, the transcript of any output is the text
that the same output leaves on a plain page, without the newline at its end, unless the only
finished row is blank. Such a row is dropped in front of an open one, and by itself it is taken for
no output. (A newline in which the text of the open row ends is not the end of a row, and stays.) -/
theorem appendAll_content_iff (hs : s.page = .empty) {outs : List Output} {t : Screen}
    (ht : outs.foldl append s = t) {text : String}
    (htext : String.join (outs.map Output.render) = text) (hne : text ≠ "") :
    (t.content = (if t.tail.toList.getLast? = some '\n' then text else Text.chomp text) ↔
      t.history ≠ [""]) ∧
    (t.history = [""] → t.content = if t.tail = "" then "(no output yet)" else t.tail) ∧
    t.viewport.lines =
      (Text.pieces Text.isNewline (Text.plainNewlines t.content.toList)).map String.ofList := by
  have hpage : t.page.text = text := by
    rw [← ht, page_appendAll, hs, Page.text_writeAll, htext]
    exact String.empty_append
  have houts : outs ≠ [] := by
    rintro rfl
    exact hne htext.symm
  rw [← hpage] at hne
  refine ⟨?_, content_of_blank, ?_⟩
  · rw [← hpage]
    exact content_eq_iff hne
  · rw [← ht]
    exact s.lines_appendAll houts

/-- Blank rows, an empty prompt and a row in two parts. -/
def ragged : List Output :=
  [⟨"", true⟩, ⟨"", true⟩, ⟨"", false⟩, ⟨"n? ", false⟩, ⟨"5", true⟩, ⟨"", true⟩]

theorem appendAll_content_iff_ragged :
    ∃ t, ragged.foldl append ((new "prog").append ⟨"before", true⟩).restart = t ∧
      t.history = ["", "", "n? 5", ""] ∧ t.content = "\n\nn? 5\n" := by
  have hhistory : (ragged.foldl append ((new "prog").append ⟨"before", true⟩).restart).history =
      ["", "", "n? 5", ""] := by decide +kernel
  have htail : (ragged.foldl append ((new "prog").append ⟨"before", true⟩).restart).tail = "" := by
    decide +kernel
  have htext : String.join (ragged.map Output.render) = "\n\nn? 5\n\n" := by decide +kernel
  have hshown := (appendAll_content_iff rfl rfl htext (by decide)).1.mpr (by rw [hhistory]; decide)
  rw [htail] at hshown
  refine ⟨_, rfl, hhistory, hshown.trans ?_⟩
  decide +kernel

/-- A blank row is lost in front of a prompt, and it is lost by itself. -/
theorem blank_row_lost :
    ([⟨"", true⟩, ⟨"n? ", false⟩].foldl append (new "prog")).content = "n? " ∧
      Text.chomp (String.join ([⟨"", true⟩, ⟨"n? ", false⟩].map Output.render)) = "\nn? " ∧
      ([⟨"", true⟩].foldl append (new "prog")).content = "(no output yet)" ∧
      Text.chomp (String.join ([⟨"", true⟩].map Output.render)) = "" := by
  decide +kernel

end Screen

end NumberedBasic
