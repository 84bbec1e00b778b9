import LocaleRegistrar.Proofs.Layout.Soundness

/-! The characters of a layout. The lines of a text keep its characters, and what is written around
them is indentation and line ends. Main statement: a character that is no space and not in the usual
line end is in no row of the layout of a text if it is not in the text. -/

namespace LocaleRegistrar.Python

open Lexeme (isSpace ending spellAll spellAll_cons rowsText rowsText_cons rowsText_append)

variable {x : Char}

namespace Lexeme

/-! ### Lines as they are read -/

/-- The character is neither in the blank line nor in what ends it. -/
def BlankFree (x : Char) (b : RawBlank) : Prop := x ∉ b.text ∧ x ∉ ending b.lineEnd

/-- The character is not in the line, nor in the blank lines before it, nor in what ends them. -/
structure LineFree (x : Char) (line : RawLine) : Prop where
  blanks : ∀ b ∈ line.blanks, BlankFree x b
  lexemes : x ∉ spellAll line.lexemes
  tail : x ∉ line.tail.blank ++ line.tail.comment
  lineEnd : x ∉ ending line.tail.lineEnd

theorem blankFree_takeBlanks {n : Nat} {cs rest : List Char} {blanks : List RawBlank}
    (h : takeBlanks n cs = some (blanks, rest)) (hcs : x ∉ cs) :
    (∀ b ∈ blanks, BlankFree x b) ∧ x ∉ rest := by
  induction n generalizing cs blanks with
  | zero =>
    cases h
    exact ⟨List.forall_mem_nil _, hcs⟩
  | succ n ih =>
    obtain ⟨next, hnext, h⟩ := Option.bind_eq_some_iff.mp h
    cases next with
    | none =>
      cases h
      exact ⟨List.forall_mem_nil _, hcs⟩
    | some next =>
      obtain ⟨b, cs'⟩ := next
      obtain ⟨⟨more, rest'⟩, hmore, h⟩ := Option.bind_eq_some_iff.mp h
      cases h
      obtain ⟨rfl, -⟩ := takeBlank_eq hnext
      simp only [List.mem_append, not_or] at hcs
      obtain ⟨hblanks, hrest⟩ := ih hmore hcs.2.2
      exact ⟨List.forall_mem_cons.mpr ⟨⟨hcs.1, hcs.2.1⟩, hblanks⟩, hrest⟩

theorem lineFree_readLines {fuel : Nat} {cs : List Char} {lines : List RawLine}
    {last : List RawBlank} (h : readLines fuel cs = some (lines, last)) (hcs : x ∉ cs) :
    (∀ line ∈ lines, LineFree x line) ∧ ∀ b ∈ last, BlankFree x b := by
  induction fuel generalizing cs lines last with
  | zero => cases h
  | succ fuel ih =>
    rw [readLines_succ] at h
    obtain ⟨⟨blanks, cs'⟩, hblanks, h⟩ := Option.bind_eq_some_iff.mp h
    obtain ⟨hbefore, hcs'⟩ := blankFree_takeBlanks hblanks hcs
    unfold readAfter at h
    split at h
    · cases h
      exact ⟨List.forall_mem_nil _, hbefore⟩
    · obtain ⟨⟨indent, after⟩, -, h⟩ := Option.bind_eq_some_iff.mp h
      obtain ⟨⟨lexemes, tail, rest⟩, hread, h⟩ := Option.bind_eq_some_iff.mp h
      obtain ⟨⟨more, last'⟩, hmore, h⟩ := Option.bind_eq_some_iff.mp h
      obtain ⟨rfl, -⟩ := readLine_lexed hread
      simp only [List.mem_append, not_or] at hcs'
      obtain ⟨hlexemes, htail, hend, hrest⟩ := hcs'
      obtain ⟨hlines, hlast⟩ := ih hmore hrest
      have htail : x ∉ tail.blank ++ tail.comment := by simpa using htail
      cases lexemes with
      | nil =>
        cases h
        exact ⟨List.forall_mem_cons.mpr ⟨⟨hbefore, hlexemes, htail, hend⟩, hlines⟩, hlast⟩
      | cons l ls =>
        cases h
        rw [spellAll_cons] at hlexemes
        refine ⟨List.forall_mem_cons.mpr ⟨⟨hbefore, ?_, htail, hend⟩, hlines⟩, hlast⟩
        rw [spellAll_cons]
        simp only [List.mem_append, not_or] at hlexemes ⊢
        exact ⟨⟨List.not_mem_nil, hlexemes.1.2⟩, hlexemes.2⟩

end Lexeme

open Lexeme (BlankFree LineFree)

namespace Layout

/-! ### Rows -/

/-- The character is neither in the rows of the item nor in what ends them. -/
def ItemFree (x : Char) (u : Usual) (margin : List Char) (item : Item) : Prop :=
  x ∉ rowsText (item.rows (context u margin))

section

variable {u : Usual} (hu : x ∉ u.lineEnd.toList)

include hu

theorem not_mem_lineEnd {e : Option String} (h : x ∉ ending e) :
    x ∉ (e.getD u.lineEnd).toList := by
  cases e with
  | none => exact hu
  | some s => exact h

theorem not_mem_blanks {blanks : List RawBlank} (h : ∀ b ∈ blanks, BlankFree x b) :
    x ∉ rowsText (blanks.map fun b => (b.text, (b.lineEnd.getD u.lineEnd).toList)) := by
  induction blanks with
  | nil => exact List.not_mem_nil
  | cons b blanks ih =>
    obtain ⟨hb, hblanks⟩ := List.forall_mem_cons.mp h
    rw [List.map_cons, rowsText_cons]
    simp only [List.mem_append, not_or]
    exact ⟨hb.1, not_mem_lineEnd hu hb.2, ih hblanks⟩

theorem not_mem_blankRows (margin : List Char) {blanks : List RawBlank}
    (h : ∀ b ∈ blanks, BlankFree x b) :
    x ∉ rowsText (blankRows (context u margin) (blanks.map (blankLine u.lineEnd margin))) := by
  simpa [blankRows, Function.comp_def, row_blankLine] using not_mem_blanks hu h

theorem itemFree_lineItem {margin : List Char} (hmargin : x ∉ margin) {blanks : List RawBlank}
    (hblanks : ∀ b ∈ blanks, BlankFree x b) {line : RawLine} (hraw : Lexeme.Raw line)
    (hline : LineFree x line) :
    ItemFree x u margin (Levels.lineItem u.lineEnd margin blanks line) := by
  have htail : x ∉ line.tail.blank ∧ x ∉ line.tail.comment := by simpa using hline.tail
  rw [ItemFree, rows_lineItem u margin blanks hraw, rowsText_append, rowsText_cons]
  simp only [List.mem_append, not_or]
  exact ⟨not_mem_blanks hu hblanks, ⟨⟨⟨hmargin, hline.lexemes⟩, htail.1⟩, htail.2⟩,
    not_mem_lineEnd hu hline.lineEnd, List.not_mem_nil⟩

end

theorem not_mem_rowsAll_iff {c : Context} {items : List Item} :
    x ∉ rowsText (Item.rowsAll c items) ↔ ∀ item ∈ items, x ∉ rowsText (item.rows c) := by
  induction items with
  | nil => simp [Item.rowsAll]
  | cons item items ih =>
    rw [Item.rowsAll, rowsText_append, List.mem_append, not_or, ih, List.forall_mem_cons]

/-! ### Open blocks -/

namespace Levels

/-- The character is in no line that has been added and in no margin of an open block. -/
structure Free (x : Char) (u : Usual) (ls : Levels) : Prop where
  margins : ∀ level ∈ ls.inner, x ∉ level.margin
  items : ∀ level ∈ ls.inner, ∀ item ∈ level.items, ItemFree x u level.margin item
  base : ∀ item ∈ ls.base, ItemFree x u [] item

variable {u : Usual} {ls ls' : Levels}

theorem Free.top (h : ls.Free x u) : x ∉ ls.top.1 := by
  obtain ⟨inner, base⟩ := ls
  cases inner with
  | nil => exact List.not_mem_nil
  | cons level outer => exact h.margins level List.mem_cons_self

theorem Free.push (h : ls.Free x u) {item : Item} (hitem : ItemFree x u ls.top.1 item) :
    (ls.push item).Free x u := by
  obtain ⟨inner, base⟩ := ls
  cases inner with
  | nil => exact ⟨h.margins, h.items, List.forall_mem_cons.mpr ⟨hitem, h.base⟩⟩
  | cons level outer =>
    obtain ⟨hmargin, hmargins⟩ := List.forall_mem_cons.mp h.margins
    obtain ⟨hlevel, houter⟩ := List.forall_mem_cons.mp h.items
    exact ⟨List.forall_mem_cons.mpr ⟨hmargin, hmargins⟩,
      List.forall_mem_cons.mpr ⟨List.forall_mem_cons.mpr ⟨hitem, hlevel⟩, houter⟩, h.base⟩

theorem headLatest_free {margin indent : List Char} {block items items' : List Item}
    {footer : List BlankLine}
    (h : headLatest (String.ofList indent) block footer items = some items')
    (hitems : ∀ item ∈ items, ItemFree x u margin item)
    (hblock : ∀ item ∈ block, ItemFree x u (margin ++ indent) item)
    (hfooter : x ∉ rowsText (blankRows (context u (margin ++ indent)) footer)) :
    ∀ item ∈ items', ItemFree x u margin item := by
  unfold headLatest at h
  split at h
  · next line before =>
    cases h
    obtain ⟨hline, hbefore⟩ := List.forall_mem_cons.mp hitems
    refine List.forall_mem_cons.mpr ⟨?_, hbefore⟩
    have hinner := context_indented u margin indent
    simp only [Context.indented] at hinner
    rw [ItemFree, Item.rows, hinner, rowsText_append, rowsText_append]
    simp only [List.mem_append, not_or]
    refine ⟨⟨hline, not_mem_rowsAll_iff.mpr fun item hitem => ?_⟩, hfooter⟩
    exact hblock item (List.mem_reverse.mp hitem)
  · cases h

theorem Free.close {footer : List BlankLine} (h : ls.Free x u) (hclose : ls.close footer = some ls')
    (hfooter : x ∉ rowsText (blankRows (context u ls.top.1) footer)) : ls'.Free x u := by
  obtain ⟨inner, base⟩ := ls
  match inner with
  | [] => cases hclose
  | [level] =>
    obtain ⟨base', hlatest, hclose⟩ := Option.bind_eq_some_iff.mp hclose
    cases hclose
    exact ⟨List.forall_mem_nil _, List.forall_mem_nil _,
      @headLatest_free x u [] _ _ _ _ _ hlatest h.base (h.items level List.mem_cons_self) hfooter⟩
  | level :: around :: outer =>
    obtain ⟨indent, hindent, hclose⟩ := Option.bind_eq_some_iff.mp hclose
    obtain ⟨items, hlatest, hclose⟩ := Option.bind_eq_some_iff.mp hclose
    cases hclose
    have hmargin := Lexeme.after_eq_some_iff.mp hindent
    obtain ⟨-, hmargins⟩ := List.forall_mem_cons.mp h.margins
    obtain ⟨hlevel, hothers⟩ := List.forall_mem_cons.mp h.items
    obtain ⟨haround, houter⟩ := List.forall_mem_cons.mp hothers
    obtain ⟨hmargin', hmargins⟩ := List.forall_mem_cons.mp hmargins
    have hitems := headLatest_free hlatest haround (hmargin ▸ hlevel) (hmargin ▸ hfooter)
    exact ⟨List.forall_mem_cons.mpr ⟨hmargin', hmargins⟩,
      List.forall_mem_cons.mpr ⟨hitems, houter⟩, h.base⟩

variable (hu : x ∉ u.lineEnd.toList)

include hu

theorem Free.closeTo {w n : Nat} {blanks blanks' : List RawBlank} (h : ls.Free x u)
    (hblanks : ∀ b ∈ blanks, BlankFree x b)
    (hclose : closeTo u.lineEnd w n ls blanks = some (ls', blanks')) :
    ls'.Free x u ∧ ∀ b ∈ blanks', BlankFree x b := by
  induction n generalizing ls blanks with
  | zero =>
    cases hclose
    exact ⟨h, hblanks⟩
  | succ n ih =>
    rw [Levels.closeTo] at hclose
    split at hclose
    · cases hclose
      exact ⟨h, hblanks⟩
    · obtain ⟨ls1, hls1, hclose⟩ := Option.bind_eq_some_iff.mp hclose
      obtain ⟨hfooter, hrest⟩ := @mem_splitFooter ls.top.1 blanks
      have hwritten := not_mem_blankRows hu ls.top.1 fun b hb => hblanks b (hfooter b hb)
      exact ih (h.close hls1 hwritten) (fun b hb => hblanks b (hrest b hb)) hclose

theorem Free.goTo {indent : List Char} {blanks blanks' : List RawBlank} (h : ls.Free x u)
    (hindent : x ∉ indent) (hblanks : ∀ b ∈ blanks, BlankFree x b)
    (hgo : goTo u.lineEnd indent ls blanks = some (ls', blanks')) :
    ls'.Free x u ∧ ∀ b ∈ blanks', BlankFree x b := by
  simp only [Levels.goTo] at hgo
  split at hgo
  · split at hgo
    · cases hgo
      exact ⟨⟨List.forall_mem_cons.mpr ⟨hindent, h.margins⟩,
        List.forall_mem_cons.mpr ⟨List.forall_mem_nil _, h.items⟩, h.base⟩, hblanks⟩
    · cases hgo
  · obtain ⟨⟨ls1, blanks1⟩, hclose, hgo⟩ := Option.bind_eq_some_iff.mp hgo
    dsimp only at hgo
    split at hgo
    · cases hgo
      exact h.closeTo hu hblanks hclose
    · cases hgo

theorem Free.addLines (hx : isSpace x = false) {lines : List RawLine} (h : ls.Free x u)
    (hraw : ∀ line ∈ lines, Lexeme.Raw line) (hlines : ∀ line ∈ lines, LineFree x line)
    (hadd : addLines u.lineEnd lines ls = some ls') : ls'.Free x u := by
  induction lines generalizing ls with
  | nil =>
    cases hadd
    exact h
  | cons line rest ih =>
    obtain ⟨hline, hrest⟩ := List.forall_mem_cons.mp hlines
    obtain ⟨hrawline, hrawrest⟩ := List.forall_mem_cons.mp hraw
    rw [addLines_cons] at hadd
    obtain ⟨⟨ls1, blanks⟩, hplace, hadd⟩ := Option.bind_eq_some_iff.mp hadd
    have hplaced : ls1.Free x u ∧ ∀ b ∈ blanks, BlankFree x b := by
      unfold place at hplace
      split at hplace
      · next indent hindent =>
        -- a margin is made of spaces
        refine h.goTo hu (fun hmem => ?_) hline.blanks hplace
        rw [hrawline.indent indent hindent x hmem] at hx
        cases hx
      · cases hplace
        exact ⟨h, hline.blanks⟩
    have hitem := itemFree_lineItem hu hplaced.1.top hplaced.2 hrawline hline
    exact ih (hplaced.1.push hitem) hrawrest hrest hadd

end Levels

/-- What is in the rows of a layout is a space, in the usual line end, or in the text. -/
theorem not_mem_ofText {u : Usual} (hu : x ∉ u.lineEnd.toList) (hx : isSpace x = false)
    {cs : List Char} {layout : Layout} (h : ofText u.lineEnd cs = some layout) (hcs : x ∉ cs) :
    x ∉ rowsText (Item.rowsAll (context u []) layout.items ++
      blankRows (context u []) layout.footer) := by
  obtain ⟨⟨lines, blanks⟩, hread, h⟩ := Option.bind_eq_some_iff.mp h
  obtain ⟨ls, hadd, h⟩ := Option.bind_eq_some_iff.mp h
  obtain ⟨⟨done, last⟩, hclose, h⟩ := Option.bind_eq_some_iff.mp h
  cases h
  obtain ⟨hlines, hblanks⟩ := Lexeme.lineFree_readLines hread hcs
  have hempty : Levels.Free x u ⟨[], []⟩ :=
    ⟨List.forall_mem_nil _, List.forall_mem_nil _, List.forall_mem_nil _⟩
  have hadded := hempty.addLines hu hx (Lexeme.readLines_raw hread).1 hlines hadd
  obtain ⟨hdone, hlast⟩ := hadded.closeTo hu hblanks hclose
  rw [rowsText_append, List.mem_append, not_or]
  exact ⟨not_mem_rowsAll_iff.mpr fun item hitem => hdone.base item (List.mem_reverse.mp hitem),
    not_mem_blankRows hu [] hlast⟩

end Layout

end LocaleRegistrar.Python
