import LocaleRegistrar.Proofs.Layout.Nesting

/-!
The layout of a text consists of sound items: what has been read and nested is sound after each line
that is added and each block that ends.
-/

namespace LocaleRegistrar.Python.Layout

open Lexeme (isSpace IsLineEnd IsComment Closes Ended Raw)

/-- Where a block with this margin is written. -/
def context (u : Usual) (margin : List Char) : Context := ⟨u, String.ofList margin⟩

@[simp] theorem toList_margin_context (u : Usual) (margin : List Char) :
    (context u margin).margin.toList = margin := by
  simp [context]

theorem context_indented (u : Usual) (margin indent : List Char) :
    (context u margin).indented (String.ofList indent) = context u (margin ++ indent) := by
  simp [context, Context.indented]

/-! ### Lines -/

theorem write_lineEnd (u : Usual) (margin : List Char) (e : Option String) :
    (lineEnd u.lineEnd e).write (context u margin) = e.getD u.lineEnd := by
  cases e with
  | none => rfl
  | some s =>
    exact LineEnd.write_relativeTo (context u margin) (.literal s)

/-- A blank line is written as it was read. -/
theorem row_blankLine (u : Usual) (margin : List Char) (b : RawBlank) :
    ((blankLine u.lineEnd margin b).write (context u margin)).row =
      (b.text, (b.lineEnd.getD u.lineEnd).toList) := by
  unfold blankLine
  split
  · next rest hafter =>
    rw [Lexeme.after_eq_some_iff.mp hafter]
    simp [BlankLine.write, WrittenLine.row, write_lineEnd]
  · simp [BlankLine.write, WrittenLine.row, write_lineEnd]

/-- A line is written after the margin of its block, with the blanks and the comment after it. -/
theorem rows_lineItem (u : Usual) (margin : List Char) (blanks : List RawBlank) {line : RawLine}
    (h : Raw line) :
    (Levels.lineItem u.lineEnd margin blanks line).rows (context u margin) =
      (blanks.map fun b => (b.text, (b.lineEnd.getD u.lineEnd).toList)) ++
        [(margin ++ Lexeme.spellAll line.lexemes ++ line.tail.blank ++ line.tail.comment,
          (line.tail.lineEnd.getD u.lineEnd).toList)] := by
  obtain ⟨l, ls, hlexemes, hgap, hlexed⟩ := h.lexemes
  have hlined : Lined (context u margin) (line.lexemes.map (token margin)) :=
    ⟨l, ls, hgap, hlexed, by simp [hlexemes]⟩
  have htext : piecesText (context u margin) (Grammar.bare (line.lexemes.map (token margin))) =
      Lexeme.spellAll line.lexemes := by
    rw [hlined.text, List.map_map]
    have htoken := Token.lexeme_token (context u margin)
    simp only [toList_margin_context] at htoken
    simp [Function.comp_def, htoken]
  simp [Levels.lineItem, Item.rows, LogicalLine.rows, blankRows, htext, tail, write_lineEnd,
    Function.comp_def, row_blankLine]

/-- A line that ends in the text, or at its end, ends where it is written. -/
theorem Ended.written {u : Usual} (hu : IsLineEnd u.lineEnd.toList) {t : List Char}
    {e : Option String} (h : Ended t e) (margin : List Char) :
    Closes t ((lineEnd u.lineEnd e).write (context u margin)).toList ∧
      IsLineEnd ((lineEnd u.lineEnd e).write (context u margin)).toList := by
  rw [write_lineEnd]
  cases e with
  | none => exact ⟨h.closes.extend u.lineEnd.toList, hu⟩
  | some s => exact ⟨h.closes, h.isLineEnd s rfl⟩

theorem sound_blankLine {u : Usual} (hu : IsLineEnd u.lineEnd.toList) {b : RawBlank}
    (h : Ended b.text b.lineEnd) (margin : List Char) :
    (blankLine u.lineEnd margin b).Sound (context u margin) := by
  have hwritten := Ended.written hu h margin
  unfold blankLine
  split
  · next rest hafter =>
    rw [Lexeme.after_eq_some_iff.mp hafter] at hwritten
    simpa [BlankLine.Sound, BlankLine.write, WrittenLine.row] using hwritten
  · simpa [BlankLine.Sound, BlankLine.write, WrittenLine.row] using hwritten

theorem sound_tail {u : Usual} (hu : IsLineEnd u.lineEnd.toList) {line : RawLine} (h : Raw line)
    (margin : List Char) : (tail u.lineEnd line.tail).Sound (context u margin) := by
  obtain ⟨hcloses, hend⟩ := Ended.written hu h.tail margin
  exact ⟨by simpa [tail] using hcloses, hend, by simpa [tail] using h.comment,
    by simpa [tail] using h.blank⟩

theorem sound_lineItem {u : Usual} (hu : IsLineEnd u.lineEnd.toList) {line : RawLine}
    (h : Raw line) (margin : List Char) {blanks : List RawBlank}
    (hblanks : ∀ b ∈ blanks, Ended b.text b.lineEnd) :
    (Levels.lineItem u.lineEnd margin blanks line).Sound (context u margin) := by
  refine .plain ⟨?_, ?_, sound_tail hu h margin⟩
  · intro b hb
    obtain ⟨raw, hraw, rfl⟩ := List.mem_map.mp hb
    exact sound_blankLine hu (hblanks raw hraw) margin
  · obtain ⟨l, ls, hlexemes, hgap, hlexed⟩ := h.lexemes
    exact ⟨l, ls, hgap, hlexed, by simp [hlexemes]⟩

/-! ### Blocks -/

/-- The one indentation is less than the other by both measures. -/
structure Width.Below (v w : Width) : Prop where
  wide : v.wide < w.wide
  narrow : v.narrow < w.narrow

structure Level.Sound (u : Usual) (level : Level) : Prop where
  spaces : ∀ a ∈ level.margin, isSpace a = true
  width : level.width = Layout.width level.margin
  items : ∀ item ∈ level.items, item.Sound (context u level.margin)

/-- Each block is indented deeper than the one around it. -/
def Rising : List Level → Prop
  | [] => True
  | level :: outer => Width.Below (Levels.top ⟨outer, []⟩).2 level.width ∧ Rising outer

namespace Levels

structure Sound (u : Usual) (ls : Levels) : Prop where
  levels : ∀ level ∈ ls.inner, level.Sound u
  rising : Rising ls.inner
  base : ∀ item ∈ ls.base, item.Sound (context u [])

/-- Every open block has a line. -/
def Filled (ls : Levels) : Prop := ∀ level ∈ ls.inner, level.items ≠ []

theorem Sound.push {u : Usual} {ls : Levels} (h : ls.Sound u) {item : Item}
    (hitem : item.Sound (context u ls.top.1)) : (ls.push item).Sound u := by
  obtain ⟨inner, base⟩ := ls
  cases inner with
  | nil => exact ⟨by simp [Levels.push], trivial, List.forall_mem_cons.mpr ⟨hitem, h.base⟩⟩
  | cons level outer =>
    obtain ⟨hlevel, houter⟩ := List.forall_mem_cons.mp h.levels
    refine ⟨List.forall_mem_cons.mpr ⟨⟨hlevel.spaces, hlevel.width, ?_⟩, houter⟩, h.rising, h.base⟩
    exact List.forall_mem_cons.mpr ⟨hitem, hlevel.items⟩

theorem headLatest_sound {u : Usual} {margin indent : List Char} {block items items' : List Item}
    {footer : List BlankLine}
    (h : headLatest (String.ofList indent) block footer items = some items')
    (hitems : ∀ item ∈ items, item.Sound (context u margin))
    (hspaces : ∀ a ∈ indent, isSpace a = true)
    (hbelow : Width.Below (Layout.width margin) (Layout.width (margin ++ indent)))
    (hne : block ≠ []) (hblock : ∀ item ∈ block, item.Sound (context u (margin ++ indent)))
    (hfooter : ∀ b ∈ footer, b.Sound (context u (margin ++ indent))) :
    items' ≠ [] ∧ ∀ item ∈ items', item.Sound (context u margin) := by
  unfold headLatest at h
  split at h
  · next line before =>
    cases h
    obtain ⟨hline, hbefore⟩ := List.forall_mem_cons.mp hitems
    refine ⟨by simp, List.forall_mem_cons.mpr ⟨?_, hbefore⟩⟩
    cases hline with
    | plain hline =>
      refine .headed hline ⟨by simpa using hspaces, ?_, ?_⟩ (by simpa using hne) ?_ ?_
      · simpa [context_indented] using hbelow.wide
      · simpa [context_indented] using hbelow.narrow
      · simpa [context_indented] using hblock
      · simpa [context_indented] using hfooter
  · cases h

/-- A block that ends is sound in the block around it. -/
theorem Sound.close {u : Usual} {ls ls' : Levels} {footer : List BlankLine} (h : ls.Sound u)
    (hfilled : ls.Filled) (hclose : ls.close footer = some ls')
    (hfooter : ∀ b ∈ footer, b.Sound (context u ls.top.1)) : ls'.Sound u ∧ ls'.Filled := by
  obtain ⟨inner, base⟩ := ls
  match inner with
  | [] => cases hclose
  | [level] =>
    obtain ⟨base', hlatest, hclose⟩ := Option.bind_eq_some_iff.mp hclose
    cases hclose
    have hlevel := h.levels level (by simp)
    have hbelow := h.rising.1
    rw [hlevel.width] at hbelow
    obtain ⟨-, hbase⟩ := @headLatest_sound u [] _ _ _ _ _ hlatest h.base hlevel.spaces hbelow
      (hfilled level (by simp)) hlevel.items hfooter
    exact ⟨⟨by simp, trivial, hbase⟩, by simp [Filled]⟩
  | level :: around :: outer =>
    obtain ⟨indent, hindent, hclose⟩ := Option.bind_eq_some_iff.mp hclose
    obtain ⟨items, hlatest, hclose⟩ := Option.bind_eq_some_iff.mp hclose
    cases hclose
    have hmargin := Lexeme.after_eq_some_iff.mp hindent
    obtain ⟨hlevel, houter⟩ := List.forall_mem_cons.mp h.levels
    obtain ⟨haround, houter⟩ := List.forall_mem_cons.mp houter
    have hbelow : Width.Below around.width level.width := h.rising.1
    rw [hlevel.width, haround.width, hmargin] at hbelow
    obtain ⟨hne, hitems⟩ := headLatest_sound hlatest haround.items
      (fun a ha => hlevel.spaces a (by simp [hmargin, ha])) hbelow (hfilled level (by simp))
      (hmargin ▸ hlevel.items) (hmargin ▸ hfooter)
    obtain ⟨-, hfilled⟩ := List.forall_mem_cons.mp hfilled
    obtain ⟨-, hfilled⟩ := List.forall_mem_cons.mp hfilled
    exact ⟨⟨List.forall_mem_cons.mpr ⟨⟨haround.spaces, haround.width, hitems⟩, houter⟩,
      ⟨h.rising.2.1, h.rising.2.2⟩, h.base⟩, List.forall_mem_cons.mpr ⟨hne, hfilled⟩⟩

theorem mem_splitFooter {margin : List Char} {blanks : List RawBlank} :
    (∀ b ∈ (splitFooter margin blanks).1, b ∈ blanks) ∧
      ∀ b ∈ (splitFooter margin blanks).2, b ∈ blanks := by
  refine ⟨fun b hb => ?_, fun b hb => List.mem_of_mem_drop hb⟩
  exact List.mem_reverse.mp ((List.dropWhile_sublist _).mem (List.mem_reverse.mp hb))

theorem Sound.closeTo {u : Usual} (hu : IsLineEnd u.lineEnd.toList) {w n : Nat} {ls ls' : Levels}
    {blanks blanks' : List RawBlank} (h : ls.Sound u) (hfilled : ls.Filled)
    (hblanks : ∀ b ∈ blanks, Ended b.text b.lineEnd)
    (hclose : closeTo u.lineEnd w n ls blanks = some (ls', blanks')) :
    ls'.Sound u ∧ ls'.Filled ∧ ∀ b ∈ blanks', Ended b.text b.lineEnd := by
  induction n generalizing ls blanks with
  | zero =>
    cases hclose
    exact ⟨h, hfilled, hblanks⟩
  | succ n ih =>
    rw [Levels.closeTo] at hclose
    split at hclose
    · cases hclose
      exact ⟨h, hfilled, hblanks⟩
    · obtain ⟨ls1, hls1, hclose⟩ := Option.bind_eq_some_iff.mp hclose
      have hfooter : ∀ b ∈ (splitFooter ls.top.1 blanks).1.map (blankLine u.lineEnd ls.top.1),
          b.Sound (context u ls.top.1) := by
        intro b hb
        obtain ⟨raw, hraw, rfl⟩ := List.mem_map.mp hb
        exact sound_blankLine hu (hblanks raw (mem_splitFooter.1 raw hraw)) _
      obtain ⟨hsound, hfull⟩ := h.close hfilled hls1 hfooter
      exact ih hsound hfull (fun b hb => hblanks b (mem_splitFooter.2 b hb)) hclose

theorem Filled.push {ls : Levels} (h : ls.Filled) (item : Item) : (ls.push item).Filled := by
  obtain ⟨inner, base⟩ := ls
  cases inner with
  | nil => exact h
  | cons level outer =>
    exact List.forall_mem_cons.mpr ⟨List.cons_ne_nil _ _, (List.forall_mem_cons.mp h).2⟩

theorem Sound.goTo {u : Usual} (hu : IsLineEnd u.lineEnd.toList) {indent : List Char}
    {ls ls' : Levels} {blanks blanks' : List RawBlank} (h : ls.Sound u) (hfilled : ls.Filled)
    (hindent : ∀ a ∈ indent, isSpace a = true) (hblanks : ∀ b ∈ blanks, Ended b.text b.lineEnd)
    (hgo : goTo u.lineEnd indent ls blanks = some (ls', blanks')) :
    ls'.Sound u ∧ (∀ item, (ls'.push item).Filled) ∧ ∀ b ∈ blanks', Ended b.text b.lineEnd := by
  simp only [Levels.goTo] at hgo
  split at hgo
  · next hwide =>
    split at hgo
    · next hnarrow =>
      cases hgo
      have hlevel : Level.Sound u ⟨indent, Layout.width indent, []⟩ := ⟨hindent, rfl, by simp⟩
      exact ⟨⟨List.forall_mem_cons.mpr ⟨hlevel, h.levels⟩, ⟨⟨hwide, hnarrow⟩, h.rising⟩, h.base⟩,
        fun item => List.forall_mem_cons.mpr ⟨List.cons_ne_nil _ _, hfilled⟩, hblanks⟩
    · cases hgo
  · obtain ⟨⟨ls1, blanks1⟩, hclose, hgo⟩ := Option.bind_eq_some_iff.mp hgo
    obtain ⟨hsound, hfull, hrest⟩ := h.closeTo hu hfilled hblanks hclose
    dsimp only at hgo
    split at hgo
    · cases hgo
      exact ⟨hsound, hfull.push, hrest⟩
    · cases hgo

theorem Sound.addLines {u : Usual} (hu : IsLineEnd u.lineEnd.toList) {lines : List RawLine}
    {ls ls' : Levels} (h : ls.Sound u) (hfilled : ls.Filled) (hlines : ∀ line ∈ lines, Raw line)
    (hadd : addLines u.lineEnd lines ls = some ls') : ls'.Sound u ∧ ls'.Filled := by
  induction lines generalizing ls with
  | nil =>
    cases hadd
    exact ⟨h, hfilled⟩
  | cons line rest ih =>
    obtain ⟨hline, hrest⟩ := List.forall_mem_cons.mp hlines
    rw [addLines_cons] at hadd
    obtain ⟨⟨ls1, blanks⟩, hplace, hadd⟩ := Option.bind_eq_some_iff.mp hadd
    have hplaced : ls1.Sound u ∧ (∀ item, (ls1.push item).Filled) ∧
        ∀ b ∈ blanks, Ended b.text b.lineEnd := by
      unfold place at hplace
      split at hplace
      · next indent hindent =>
        exact h.goTo hu hfilled (hline.indent indent hindent) hline.blanks hplace
      · cases hplace
        exact ⟨h, hfilled.push, hline.blanks⟩
    obtain ⟨hsound, hfull, hblanks⟩ := hplaced
    exact ih (hsound.push (sound_lineItem hu hline _ hblanks)) (hfull _) hrest hadd

end Levels

theorem ofText_sound {u : Usual} (hu : IsLineEnd u.lineEnd.toList) {cs : List Char}
    {layout : Layout} (h : ofText u.lineEnd cs = some layout) :
    (∀ item ∈ layout.items, item.Sound (context u [])) ∧
      ∀ b ∈ layout.footer, b.Sound (context u []) := by
  obtain ⟨⟨lines, blanks⟩, hread, h⟩ := Option.bind_eq_some_iff.mp h
  obtain ⟨ls, hadd, h⟩ := Option.bind_eq_some_iff.mp h
  obtain ⟨⟨done, last⟩, hclose, h⟩ := Option.bind_eq_some_iff.mp h
  cases h
  obtain ⟨hlines, hblanks⟩ := Lexeme.readLines_raw hread
  have hempty : Levels.Sound u ⟨[], []⟩ := ⟨by simp, trivial, by simp⟩
  obtain ⟨hsound, hfilled⟩ := hempty.addLines hu (by simp [Levels.Filled]) hlines hadd
  obtain ⟨hdone, -, hlast⟩ := hsound.closeTo hu hfilled hblanks hclose
  refine ⟨fun item hitem => hdone.base item (List.mem_reverse.mp hitem), fun b hb => ?_⟩
  obtain ⟨raw, hraw, rfl⟩ := List.mem_map.mp hb
  exact sound_blankLine hu (hlast raw hraw) []

theorem isLineEnd_usualLineEnd (cs : List Char) : IsLineEnd (usualLineEnd cs).toList := by
  fun_induction usualLineEnd cs with
  | case1 => exact .inl rfl
  | case2 => exact .inr (.inr rfl)
  | case3 c rest _ hc =>
    have hc : c = '\n' ∨ c = '\r' := by simpa [Lexeme.isLineEnd] using hc
    rcases hc with rfl | rfl
    · exact .inl rfl
    · exact .inr (.inl rfl)
  | case4 _ _ _ _ ih => exact ih

end LocaleRegistrar.Python.Layout
