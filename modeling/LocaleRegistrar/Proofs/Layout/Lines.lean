import LocaleRegistrar.Proofs.Lexing.Rows

/-!
The rows of a laid out text and the logical lines in them. An item is sound if its tokens come from
lexemes that were read as a line, and if its block is indented deeper. The rows of sound items are
read again as their lines.
-/

namespace LocaleRegistrar.Python

open Lexeme (isSpace IsLineEnd IsComment Closes Gapped Lexed Reads spellAll)

namespace Layout

/-! ### Blanks between lexemes -/

/-- The text of lines that each follow a line end. -/
def moreText (more : List (String × List Char)) : List Char :=
  more.flatMap fun (ending, line) => ending.toList ++ line

theorem gapLines_eq (comment : Bool) (gap : List Char) :
    gap = (gapLines comment gap).1 ++ moreText (gapLines comment gap).2 := by
  fun_induction gapLines comment gap with
  | case1 => rfl
  | case2 comment rest first more h ih => simpa [moreText, h] using ih
  | case3 rest first more h ih => simpa [moreText, h] using ih
  | case4 comment rest hc first more h ih => simpa [moreText, h] using ih
  | case5 comment c rest hpair hc first more h ih => simpa [moreText, h] using ih
  | case6 comment c rest hpair hc first more h ih => simpa [moreText, h] using ih
  | case7 comment c rest _ _ _ hc first more h ih => simpa [moreText, h] using ih
  | case8 comment c rest _ _ _ hc first more h ih => simpa [moreText, h] using ih

theorem piecesText_textPieces (c : Context) (cs : List Char) :
    piecesText c (textPieces cs) = cs := by
  cases cs <;> simp [textPieces]

theorem piecesText_cutMargin (c : Context) (line : List Char) :
    piecesText c (cutMargin c.margin.toList line) = line := by
  unfold cutMargin
  split
  · next rest h =>
    rw [piecesText_cons, piecesText_textPieces, Lexeme.after_eq_some_iff.mp h]
    rfl
  · exact piecesText_textPieces c line

/-- Blanks that were cut into pieces are written as they were. -/
theorem piecesText_gapPieces (c : Context) (gap : List Char) :
    piecesText c (gapPieces c.margin.toList gap) = gap := by
  have hmore (more : List (String × List Char)) :
      piecesText c (more.flatMap fun (ending, line) =>
        .lineEnd (.literal ending) :: cutMargin c.margin.toList line) = moreText more := by
    induction more with
    | nil => rfl
    | cons x more ih =>
      simp [ih, moreText, piecesText_cutMargin, Piece.write, LineEnd.write]
  conv => rhs; rw [gapLines_eq false gap]
  simp [gapPieces, piecesText_textPieces, hmore]

end Layout

/-- The lexeme that a token comes from. -/
def Token.lexeme (c : Context) (t : Token) : Lexeme := ⟨t.kind, t.text, piecesText c t.gap⟩

theorem Token.lexeme_token (c : Context) (l : Lexeme) :
    (Layout.token c.margin.toList l).lexeme c = l := by
  simp [Token.lexeme, Layout.token, Layout.piecesText_gapPieces]

/-- The tokens of a logical line come from lexemes that are read as a line. -/
def Lined (c : Context) (tokens : List Token) : Prop :=
  ∃ l ls, l.gap = [] ∧ Lexed [] (l :: ls) ∧ tokens = (l :: ls).map (Layout.token c.margin.toList)

theorem piecesText_spelled (c : Context) (tokens : List Token) :
    piecesText c (spelled tokens) = spellAll (tokens.map (·.lexeme c)) := by
  induction tokens with
  | nil => rfl
  | cons t rest ih =>
    have hcons : spelled (t :: rest) = t.gap ++ [.text t.text] ++ spelled rest := by
      simp [spelled, Token.pieces]
    rw [hcons, piecesText_append, ih]
    simp [Token.lexeme]

theorem Lined.text {c : Context} {tokens : List Token} (h : Lined c tokens) :
    piecesText c (Grammar.bare tokens) = spellAll (tokens.map (·.lexeme c)) := by
  obtain ⟨l, ls, hgap, -, rfl⟩ := h
  have hhead : Grammar.headGap ((l :: ls).map (Layout.token c.margin.toList)) = [] := by
    simp [Grammar.headGap, Layout.token, hgap, Layout.gapPieces, Layout.gapLines,
      Layout.textPieces]
  rw [← piecesText_spelled, Grammar.spelled_eq, hhead, List.nil_append]

/-! ### Sound items -/

def BlankLine.Sound (c : Context) (b : BlankLine) : Prop :=
  Closes (b.write c).row.1 (b.write c).row.2 ∧ IsLineEnd (b.write c).row.2

structure Tail.Sound (c : Context) (t : Tail) : Prop where
  closes : Closes (t.blank.toList ++ t.comment.toList) (t.lineEnd.write c).toList
  lineEnd : IsLineEnd (t.lineEnd.write c).toList
  comment : IsComment t.comment.toList
  blank : ∃ r, Gapped t.blank.toList r

structure LogicalLine.Sound (c : Context) (line : LogicalLine) : Prop where
  leading : ∀ b ∈ line.leading, b.Sound c
  tokens : Lined c line.tokens
  tail : line.tail.Sound c

/-- The context of a block that is indented by `indent`. -/
def Context.indented (c : Context) (indent : String) : Context :=
  { c with margin := c.margin ++ indent }

/-- The indentation `indent` makes the margin of the context wider, by both measures. -/
structure Context.Widens (c : Context) (indent : String) : Prop where
  spaces : ∀ a ∈ indent.toList, isSpace a = true
  wide : (Layout.width c.margin.toList).wide < (Layout.width (c.indented indent).margin.toList).wide
  narrow : (Layout.width c.margin.toList).narrow <
    (Layout.width (c.indented indent).margin.toList).narrow

inductive Item.Sound : Context → Item → Prop
  | plain {c : Context} {line : LogicalLine} (hline : line.Sound c) : Sound c (.plain line)
  | headed {c : Context} {line : LogicalLine} {indent : String} {items : List Item}
      {footer : List BlankLine} (hline : line.Sound c) (hindent : c.Widens indent)
      (hne : items ≠ []) (hitems : ∀ item ∈ items, Sound (c.indented indent) item)
      (hfooter : ∀ b ∈ footer, b.Sound (c.indented indent)) :
      Sound c (.headed line indent items footer)

/-! ### The lines of an item -/

/-- The indentation and the lexemes of a line. -/
def LogicalLine.entry (c : Context) (line : LogicalLine) : List Char × List Lexeme :=
  (c.margin.toList, line.tokens.map (·.lexeme c))

mutual

/-- The indentation and the lexemes of the lines of an item. -/
def Item.entries (c : Context) : Item → List (List Char × List Lexeme)
  | .plain line => [line.entry c]
  | .headed line indent items _ => line.entry c :: Item.entriesAll (c.indented indent) items

def Item.entriesAll (c : Context) : List Item → List (List Char × List Lexeme)
  | [] => []
  | item :: rest => item.entries c ++ Item.entriesAll c rest

end

theorem reads_blankRows {c : Context} {blanks : List BlankLine} (h : ∀ b ∈ blanks, b.Sound c) :
    Reads (blankRows c blanks) [] := by
  induction blanks with
  | nil => exact .nil
  | cons b blanks ih =>
    obtain ⟨hb, hrest⟩ := List.forall_mem_cons.mp h
    exact .blank hb.1 hb.2 (ih hrest)

theorem LogicalLine.Sound.reads {c : Context} {line : LogicalLine} (h : line.Sound c)
    (hc : ∀ a ∈ c.margin.toList, isSpace a = true) : Reads (line.rows c) [line.entry c] := by
  have htext := h.tokens.text
  obtain ⟨l, ls, hgap, hlexed, htokens⟩ := h.tokens
  have hlexemes : line.tokens.map (·.lexeme c) = l :: ls := by
    rw [htokens, List.map_map]
    simp [Function.comp_def, Token.lexeme_token]
  rw [hlexemes] at htext
  have hline : Reads [(c.margin.toList ++ spellAll (l :: ls) ++
      (line.tail.blank.toList ++ line.tail.comment.toList), (line.tail.lineEnd.write c).toList)]
      [line.entry c] := by
    rw [LogicalLine.entry, hlexemes]
    exact .line hc hgap hlexed h.tail.closes h.tail.lineEnd .nil
  have hrows := (reads_blankRows h.leading).append hline
  simpa [LogicalLine.rows, htext] using hrows

theorem Context.Widens.indented {c : Context} {indent : String} (h : c.Widens indent)
    (hc : ∀ a ∈ c.margin.toList, isSpace a = true) :
    ∀ a ∈ (c.indented indent).margin.toList, isSpace a = true := by
  intro a ha
  rw [Context.indented, String.toList_append, List.mem_append] at ha
  exact ha.elim (hc a) (h.spaces a)

theorem reads_rowsAll {c : Context} {items : List Item}
    (h : ∀ item ∈ items, Reads (item.rows c) (item.entries c)) :
    Reads (Item.rowsAll c items) (Item.entriesAll c items) := by
  induction items with
  | nil => exact .nil
  | cons item items ih =>
    obtain ⟨hitem, hitems⟩ := List.forall_mem_cons.mp h
    exact hitem.append (ih hitems)

theorem Item.Sound.reads {c : Context} {item : Item} (h : item.Sound c)
    (hc : ∀ a ∈ c.margin.toList, isSpace a = true) : Reads (item.rows c) (item.entries c) := by
  induction h with
  | plain hline => exact hline.reads hc
  | @headed c line indent items footer hline hindent _ _ hfooter ih =>
    have hinner := reads_rowsAll fun item hitem => ih item hitem (hindent.indented hc)
    have hrows := ((hline.reads hc).append hinner).append (reads_blankRows hfooter)
    simpa [Item.rows, Item.entries, Context.indented] using hrows

end LocaleRegistrar.Python
