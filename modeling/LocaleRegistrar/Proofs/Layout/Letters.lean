import LocaleRegistrar.Proofs.Layout.Soundness
import Mathlib.Algebra.GroupWithZero.Nat

/-! The letters of a text. What reading a text leaves out are blanks, line ends and marks, so that
the lines of its layout have at least as many letters as the text. -/

namespace LocaleRegistrar.Python

/-- How many letters from A to Z there are, capital or small. -/
def letters (cs : List Char) : Nat := cs.countP Char.isAlpha

@[simp] theorem letters_nil : letters [] = 0 := rfl

@[simp] theorem letters_append (s t : List Char) : letters (s ++ t) = letters s + letters t :=
  List.countP_append

theorem letters_cons_of_not {c : Char} (h : c.isAlpha = false) (cs : List Char) :
    letters (c :: cs) = letters cs :=
  List.countP_cons_of_neg (by simp [h])

namespace Lexeme

/-! ### Lines as they are read -/

theorem Gapped.letters_eq_zero {g r : List Char} (h : Gapped g r) : letters g = 0 := by
  induction h with
  | nil => rfl
  | @space c g r hc _ ih =>
    have hspace : c.isAlpha = false := by
      have hc : (c = ' ' ∨ c = '\t') ∨ c = '\x0c' := by simpa [Lexeme.isSpace] using hc
      rcases hc with (rfl | rfl) | rfl <;> rfl
    rw [letters_cons_of_not hspace, ih]
  | joinedPair _ _ ih =>
    rw [letters_cons_of_not rfl, letters_cons_of_not rfl, letters_cons_of_not rfl, ih]
  | @joined c g r hc _ _ _ ih =>
    have hend : c.isAlpha = false := by
      have hc : c = '\n' ∨ c = '\r' := by simpa [isLineEnd] using hc
      rcases hc with rfl | rfl <;> rfl
    rw [letters_cons_of_not rfl, letters_cons_of_not hend, ih]

theorem Ended.letters_ending {t : List Char} {lineEnd : Option String} (h : Ended t lineEnd) :
    letters (ending lineEnd) = 0 := by
  cases lineEnd with
  | none => rfl
  | some s => rcases h.isLineEnd s rfl with hs | hs | hs <;> simp [ending, hs, letters]

def blankLetters (blanks : List RawBlank) : Nat := (blanks.map fun b => letters b.text).sum

@[simp] theorem blankLetters_nil : blankLetters [] = 0 := rfl

@[simp] theorem blankLetters_cons (b : RawBlank) (blanks : List RawBlank) :
    blankLetters (b :: blanks) = letters b.text + blankLetters blanks := by
  simp [blankLetters]

@[simp] theorem blankLetters_append (blanks more : List RawBlank) :
    blankLetters (blanks ++ more) = blankLetters blanks + blankLetters more := by
  simp [blankLetters]

/-- The letters of a line, not counting the blank lines before it. -/
def lineLetters (line : RawLine) : Nat :=
  letters (spellAll line.lexemes) + letters (line.tail.blank ++ line.tail.comment)

theorem letters_takeBlanks {n : Nat} {cs rest : List Char} {blanks : List RawBlank}
    (h : takeBlanks n cs = some (blanks, rest)) :
    letters cs = blankLetters blanks + letters rest := by
  induction n generalizing cs blanks with
  | zero =>
    cases h
    simp
  | succ n ih =>
    obtain ⟨next, hnext, h⟩ := Option.bind_eq_some_iff.mp h
    cases next with
    | none =>
      cases h
      simp
    | some x =>
      obtain ⟨b, cs'⟩ := x
      obtain ⟨⟨more, rest'⟩, hmore, h⟩ := Option.bind_eq_some_iff.mp h
      cases h
      obtain ⟨rfl, hb, -⟩ := takeBlank_eq hnext
      have hending := hb.letters_ending
      have hrest := ih hmore
      simp only [letters_append, blankLetters_cons]
      omega

/-- All letters of a text are in its lines. -/
theorem letters_readLines {fuel : Nat} {cs : List Char} {lines : List RawLine}
    {last : List RawBlank} (h : readLines fuel cs = some (lines, last)) :
    letters cs =
      (lines.map fun line => blankLetters line.blanks + lineLetters line).sum +
        blankLetters last := by
  induction fuel generalizing cs lines with
  | zero => cases h
  | succ fuel ih =>
    rw [readLines_succ] at h
    obtain ⟨⟨blanks, cs'⟩, hblanks, h⟩ := Option.bind_eq_some_iff.mp h
    have hstart := letters_takeBlanks hblanks
    unfold readAfter at h
    split at h
    · next hcs =>
      cases h
      obtain rfl := List.isEmpty_iff.mp hcs
      simpa using hstart
    · obtain ⟨⟨indent, after⟩, -, h⟩ := Option.bind_eq_some_iff.mp h
      obtain ⟨⟨lexemes, tail, rest⟩, hread, h⟩ := Option.bind_eq_some_iff.mp h
      obtain ⟨⟨more, last'⟩, hmore, h⟩ := Option.bind_eq_some_iff.mp h
      obtain ⟨rfl, hlexed, hended, -⟩ := readLine_lexed hread
      have hending := hended.letters_ending
      -- the blanks before the first lexeme are not kept with it
      cases lexemes with
      | nil =>
        cases h
        have hrest := ih hmore
        simp only [lineLetters, List.map_cons, List.sum_cons, letters_append] at hstart hrest ⊢
        omega
      | cons l ls =>
        cases h
        have hrest := ih hmore
        obtain ⟨-, ⟨r, hgap⟩, -⟩ := hlexed.first
        have hzero := hgap.letters_eq_zero
        simp only [lineLetters, List.map_cons, List.sum_cons, letters_append, spellAll_cons,
          letters_nil] at hstart hrest ⊢
        omega

end Lexeme

/-! ### Rows -/

open Lexeme (blankLetters blankLetters_append lineLetters)

/-- The letters of rows, not counting what ends them. -/
def rowLetters (rows : List Row) : Nat := (rows.map fun row => letters row.1).sum

@[simp] theorem rowLetters_nil : rowLetters [] = 0 := rfl

@[simp] theorem rowLetters_cons (row : Row) (rows : List Row) :
    rowLetters (row :: rows) = letters row.1 + rowLetters rows := by
  simp [rowLetters]

@[simp] theorem rowLetters_append (rows more : List Row) :
    rowLetters (rows ++ more) = rowLetters rows + rowLetters more := by
  simp [rowLetters]

theorem rowLetters_le (rows : List Row) : rowLetters rows ≤ letters (Lexeme.rowsText rows) := by
  induction rows with
  | nil => exact Nat.zero_le _
  | cons row rows ih =>
    simp only [rowLetters_cons, Lexeme.rowsText_cons, letters_append]
    omega

namespace Layout

open Lexeme (IsLineEnd)

theorem letters_blankLines (u : Usual) (margin : List Char) (blanks : List RawBlank) :
    rowLetters (blankRows (context u margin) (blanks.map (blankLine u.lineEnd margin))) =
      blankLetters blanks := by
  induction blanks with
  | nil => rfl
  | cons b blanks ih =>
    rw [List.map_cons, blankRows, List.map_cons, rowLetters_cons, row_blankLine]
    simpa [blankRows] using ih

theorem letters_lineItem (u : Usual) (margin : List Char) (blanks : List RawBlank) {line : RawLine}
    (h : Lexeme.Raw line) :
    blankLetters blanks + lineLetters line ≤
      rowLetters ((Levels.lineItem u.lineEnd margin blanks line).rows (context u margin)) := by
  have hblanks := letters_blankLines u margin blanks
  simp only [blankRows, List.map_map, Function.comp_def, row_blankLine] at hblanks
  rw [rows_lineItem u margin blanks h]
  simp only [rowLetters_append, rowLetters_cons, rowLetters_nil, letters_append, hblanks,
    lineLetters]
  omega

/-! ### Items and open blocks -/

/-- The letters of the rows of items in a block with this margin. -/
def itemLetters (u : Usual) (margin : List Char) (items : List Item) : Nat :=
  rowLetters (Item.rowsAll (context u margin) items)

@[simp] theorem itemLetters_nil (u : Usual) (margin : List Char) :
    itemLetters u margin [] = 0 :=
  rfl

@[simp] theorem itemLetters_cons (u : Usual) (margin : List Char) (item : Item)
    (items : List Item) :
    itemLetters u margin (item :: items) =
      rowLetters (item.rows (context u margin)) + itemLetters u margin items := by
  simp [itemLetters, Item.rowsAll]

theorem itemLetters_append (u : Usual) (margin : List Char) (items more : List Item) :
    itemLetters u margin (items ++ more) =
      itemLetters u margin items + itemLetters u margin more := by
  induction items with
  | nil => simp
  | cons item items ih =>
    rw [List.cons_append, itemLetters_cons, itemLetters_cons, ih]
    omega

@[simp] theorem itemLetters_reverse (u : Usual) (margin : List Char) (items : List Item) :
    itemLetters u margin items.reverse = itemLetters u margin items := by
  induction items with
  | nil => rfl
  | cons item items ih =>
    rw [List.reverse_cons, itemLetters_append, ih, itemLetters_cons, itemLetters_cons,
      itemLetters_nil]
    omega

namespace Levels

/-- The letters of all lines that have been added. -/
def letters (u : Usual) (ls : Levels) : Nat :=
  itemLetters u [] ls.base + (ls.inner.map fun level => itemLetters u level.margin level.items).sum

theorem letters_push (u : Usual) (ls : Levels) (item : Item) :
    (ls.push item).letters u = ls.letters u + rowLetters (item.rows (context u ls.top.1)) := by
  obtain ⟨inner, base⟩ := ls
  cases inner with
  | nil =>
    simp only [push, top, letters, itemLetters_cons]
    omega
  | cons level outer =>
    simp only [push, top, letters, List.map_cons, List.sum_cons, itemLetters_cons]
    omega

theorem letters_headLatest {u : Usual} {margin indent : List Char} {block items items' : List Item}
    {footer : List BlankLine}
    (h : headLatest (String.ofList indent) block footer items = some items') :
    itemLetters u margin items' = itemLetters u margin items +
      itemLetters u (margin ++ indent) block +
      rowLetters (blankRows (context u (margin ++ indent)) footer) := by
  unfold headLatest at h
  split at h
  · next line before =>
    cases h
    have hinner := context_indented u margin indent
    simp only [Context.indented] at hinner
    have hblock := itemLetters_reverse u (margin ++ indent) block
    simp only [itemLetters] at hblock
    simp only [itemLetters_cons, Item.rows, rowLetters_append, hinner, hblock]
    simp only [itemLetters]
    omega
  · cases h

/-- A block that ends keeps its letters and gets those of its footer. -/
theorem letters_close {u : Usual} {ls ls' : Levels} {footer : List BlankLine}
    (h : ls.close footer = some ls') :
    ls'.letters u = ls.letters u + rowLetters (blankRows (context u ls.top.1) footer) := by
  obtain ⟨inner, base⟩ := ls
  match inner with
  | [] => cases h
  | [level] =>
    obtain ⟨base', hlatest, h⟩ := Option.bind_eq_some_iff.mp h
    cases h
    have hlatest := @letters_headLatest u [] _ _ _ _ _ hlatest
    simp only [letters, top, List.map_cons, List.map_nil, List.sum_cons, List.sum_nil, hlatest,
      List.nil_append]
    omega
  | level :: around :: outer =>
    obtain ⟨indent, hindent, h⟩ := Option.bind_eq_some_iff.mp h
    obtain ⟨items, hlatest, h⟩ := Option.bind_eq_some_iff.mp h
    cases h
    have hlatest := @letters_headLatest u around.margin _ _ _ _ _ hlatest
    rw [← Lexeme.after_eq_some_iff.mp hindent] at hlatest
    simp only [letters, top, List.map_cons, List.sum_cons, hlatest]
    omega

theorem append_splitFooter (margin : List Char) (blanks : List RawBlank) :
    (splitFooter margin blanks).1 ++ (splitFooter margin blanks).2 = blanks := by
  let p (b : RawBlank) : Bool := (Lexeme.after? margin b.text).isNone
  obtain ⟨footer, hfooter⟩ : ∃ footer, footer = (blanks.reverse.dropWhile p).reverse := ⟨_, rfl⟩
  have hcut : blanks = footer ++ (blanks.reverse.takeWhile p).reverse := by
    rw [hfooter, ← List.reverse_append, List.takeWhile_append_dropWhile, List.reverse_reverse]
  have hrest : blanks.drop footer.length = (blanks.reverse.takeWhile p).reverse := by
    have hdrop := congrArg (List.drop footer.length) hcut
    rwa [List.drop_left] at hdrop
  change (blanks.reverse.dropWhile p).reverse ++
    blanks.drop (blanks.reverse.dropWhile p).reverse.length = blanks
  rw [← hfooter, hrest, ← hcut]

theorem letters_closeTo {u : Usual} {w n : Nat} {ls ls' : Levels} {blanks blanks' : List RawBlank}
    (h : closeTo u.lineEnd w n ls blanks = some (ls', blanks')) :
    ls'.letters u + blankLetters blanks' = ls.letters u + blankLetters blanks := by
  induction n generalizing ls blanks with
  | zero =>
    cases h
    rfl
  | succ n ih =>
    rw [closeTo] at h
    split at h
    · cases h
      rfl
    · obtain ⟨ls1, hclose, h⟩ := Option.bind_eq_some_iff.mp h
      have hletters : ls1.letters u =
          ls.letters u + blankLetters (splitFooter ls.top.1 blanks).1 := by
        rw [letters_close hclose, letters_blankLines]
        rfl
      have hrest : ls'.letters u + blankLetters blanks' =
          ls1.letters u + blankLetters (splitFooter ls.top.1 blanks).2 := ih h
      have hsplit := congrArg blankLetters (append_splitFooter ls.top.1 blanks)
      rw [blankLetters_append] at hsplit
      omega

theorem letters_goTo {u : Usual} {indent : List Char} {ls ls' : Levels}
    {blanks blanks' : List RawBlank} (h : goTo u.lineEnd indent ls blanks = some (ls', blanks')) :
    ls'.letters u + blankLetters blanks' = ls.letters u + blankLetters blanks := by
  simp only [goTo] at h
  split at h
  · split at h
    · cases h
      simp [letters]
    · cases h
  · obtain ⟨⟨ls1, blanks1⟩, hclose, h⟩ := Option.bind_eq_some_iff.mp h
    dsimp only at h
    split at h
    · cases h
      exact letters_closeTo hclose
    · cases h

/-- Adding lines adds their letters. -/
theorem letters_addLines {u : Usual} {lines : List RawLine} {ls ls' : Levels}
    (hlines : ∀ line ∈ lines, Lexeme.Raw line) (h : addLines u.lineEnd lines ls = some ls') :
    ls.letters u + (lines.map fun line => blankLetters line.blanks + lineLetters line).sum ≤
      ls'.letters u := by
  induction lines generalizing ls with
  | nil =>
    cases h
    simp
  | cons line rest ih =>
    obtain ⟨hline, hrest⟩ := List.forall_mem_cons.mp hlines
    rw [addLines_cons] at h
    obtain ⟨⟨ls1, blanks⟩, hplace, h⟩ := Option.bind_eq_some_iff.mp h
    have hplaced : ls1.letters u + blankLetters blanks =
        ls.letters u + blankLetters line.blanks := by
      unfold place at hplace
      split at hplace
      · exact letters_goTo hplace
      · cases hplace
        rfl
    dsimp only at h
    have hitem := letters_lineItem u ls1.top.1 blanks hline
    have hmore := ih hrest h
    rw [letters_push] at hmore
    rw [List.map_cons, List.sum_cons]
    omega

end Levels

/-- Closing goes on until a block is narrow enough. -/
theorem Levels.wide_closeTo {usual : String} {w n : Nat} {ls ls' : Levels}
    {blanks blanks' : List RawBlank} (h : closeTo usual w n ls blanks = some (ls', blanks'))
    (hn : ls.inner.length ≤ n) : ls'.top.2.wide ≤ w := by
  induction n generalizing ls blanks with
  | zero =>
    cases h
    have hinner : ls'.inner = [] := List.length_eq_zero_iff.mp (by omega)
    simp [top, hinner]
  | succ n ih =>
    rw [closeTo] at h
    split at h
    · next hwide =>
      cases h
      exact hwide
    · obtain ⟨ls1, hclose, h⟩ := Option.bind_eq_some_iff.mp h
      have hlength := length_of_close hclose
      exact ih h (by omega)

/-- All letters of a text are in the lines of its layout. -/
theorem letters_ofText {u : Usual} (hu : IsLineEnd u.lineEnd.toList) {cs : List Char}
    {layout : Layout} (h : ofText u.lineEnd cs = some layout) :
    letters cs ≤ rowLetters (Item.rowsAll (context u []) layout.items ++
      blankRows (context u []) layout.footer) := by
  obtain ⟨⟨lines, blanks⟩, hread, h⟩ := Option.bind_eq_some_iff.mp h
  obtain ⟨ls, hadd, h⟩ := Option.bind_eq_some_iff.mp h
  obtain ⟨⟨done, last⟩, hclose, h⟩ := Option.bind_eq_some_iff.mp h
  cases h
  obtain ⟨hraw, hblanks⟩ := Lexeme.readLines_raw hread
  -- no block is left open at the end, as every block is indented
  have hempty : Levels.Sound u ⟨[], []⟩ := ⟨by simp, trivial, by simp⟩
  obtain ⟨hsound, hfilled⟩ := hempty.addLines hu (by simp [Levels.Filled]) hraw hadd
  obtain ⟨hdone, -, -⟩ := hsound.closeTo hu hfilled hblanks hclose
  have hwide := Levels.wide_closeTo hclose le_rfl
  have hinner : done.inner = [] := by
    obtain ⟨inner, base⟩ := done
    cases inner with
    | nil => rfl
    | cons level outer =>
      exact absurd hwide (Nat.not_le.mpr (Nat.zero_lt_of_lt hdone.rising.1.wide))
  have htext := Lexeme.letters_readLines hread
  have hlines := Levels.letters_addLines hraw hadd
  have hblocks := Levels.letters_closeTo hclose
  have hitems := itemLetters_reverse u [] done.base
  have hfooter := letters_blankLines u [] last
  simp only [itemLetters] at hitems
  simp only [Levels.letters, hinner, itemLetters, List.map_nil, List.sum_nil] at hblocks hlines
  simp only [rowLetters_append, hitems, hfooter]
  omega

end Layout

end LocaleRegistrar.Python
