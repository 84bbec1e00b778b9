import LocaleRegistrar.Proofs.Layout.Lines

/-!
Nesting lines by their indentation. Blank lines and line ends play no part in it, so they are erased
first. The lines of sound items are nested as the items are.
-/

namespace LocaleRegistrar.Python

/-! ### Erasing -/

/-- The line without the blank lines before it and without what ends it. -/
def LogicalLine.erase (line : LogicalLine) : LogicalLine := ⟨[], line.tokens, {}⟩

mutual

/-- The item without blank lines and without the ends of its lines. -/
def Item.erase : Item → Item
  | .plain line => .plain line.erase
  | .headed line indent items _ => .headed line.erase indent (Item.eraseAll items) []

def Item.eraseAll : List Item → List Item
  | [] => []
  | item :: rest => item.erase :: Item.eraseAll rest

end

@[simp] theorem Item.eraseAll_eq (items : List Item) : Item.eraseAll items = items.map (·.erase) := by
  induction items with
  | nil => rfl
  | cons item items ih => simp [Item.eraseAll, ih]

namespace Layout

/-- A line with this indentation and these lexemes, and nothing else. -/
def entryLine (entry : Option (List Char) × List Lexeme) : RawLine :=
  ⟨[], entry.1, entry.2, ⟨[], [], none⟩⟩

def Level.erase (level : Level) : Level := { level with items := level.items.map (·.erase) }

namespace Levels

def erase (ls : Levels) : Levels := ⟨ls.inner.map (·.erase), ls.base.map (·.erase)⟩

@[simp] theorem top_erase (ls : Levels) : ls.erase.top = ls.top := by
  obtain ⟨inner, base⟩ := ls
  cases inner <;> rfl

@[simp] theorem length_inner_erase (ls : Levels) : ls.erase.inner.length = ls.inner.length := by
  simp [erase]

theorem erase_push (ls : Levels) (item : Item) : (ls.push item).erase = ls.erase.push item.erase := by
  obtain ⟨inner, base⟩ := ls
  cases inner <;> rfl

theorem headLatest_erase (indent : String) (block : List Item) (footer : List BlankLine)
    (items : List Item) :
    headLatest indent (block.map (·.erase)) [] (items.map (·.erase)) =
      (headLatest indent block footer items).map (·.map (·.erase)) := by
  cases items with
  | nil => rfl
  | cons item before => cases item <;> simp [headLatest, Item.erase]

theorem close_erase (ls : Levels) (footer : List BlankLine) :
    ls.erase.close [] = (ls.close footer).map (·.erase) := by
  obtain ⟨inner, base⟩ := ls
  match inner with
  | [] => rfl
  | [level] =>
    simp only [erase, close, Level.erase, List.map_cons, List.map_nil,
      headLatest_erase _ _ footer]
    cases headLatest (String.ofList level.margin) level.items footer base <;> rfl
  | level :: around :: outer =>
    simp only [erase, close, Level.erase, List.map_cons]
    cases hindent : Lexeme.after? around.margin level.margin with
    | none => rfl
    | some indent =>
      simp only [Option.bind_eq_bind, Option.bind_some, headLatest_erase _ _ footer]
      cases headLatest (String.ofList indent) level.items footer around.items <;> rfl

theorem closeTo_erase (usual usual' : String) (w n : Nat) (ls : Levels) (blanks : List RawBlank) :
    closeTo usual' w n ls.erase [] =
      (closeTo usual w n ls blanks).map fun x => (x.1.erase, []) := by
  induction n generalizing ls blanks with
  | zero => rfl
  | succ n ih =>
    simp only [closeTo, top_erase]
    split
    · rfl
    · have hfooter : splitFooter ls.top.1 [] = ([], []) := rfl
      simp only [hfooter, List.map_nil]
      rw [close_erase ls ((splitFooter ls.top.1 blanks).1.map (blankLine usual ls.top.1))]
      cases ls.close ((splitFooter ls.top.1 blanks).1.map (blankLine usual ls.top.1)) with
      | none => rfl
      | some ls' => exact ih ls' (splitFooter ls.top.1 blanks).2

theorem goTo_erase (usual usual' : String) (indent : List Char) (ls : Levels)
    (blanks : List RawBlank) :
    goTo usual' indent ls.erase [] =
      (goTo usual indent ls blanks).map fun x => (x.1.erase, []) := by
  simp only [goTo, top_erase, length_inner_erase]
  split
  · split <;> rfl
  · rw [closeTo_erase usual usual' _ _ ls blanks]
    cases closeTo usual (Layout.width indent).wide ls.inner.length ls blanks with
    | none => rfl
    | some x =>
      simp only [Option.map_some, Option.bind_eq_bind, Option.bind_some, top_erase]
      split <;> rfl

/-- Goes to the block that a line belongs to. -/
def place (usual : String) (line : RawLine) (ls : Levels) : Option (Levels × List RawBlank) :=
  match line.indent with
  | some indent => goTo usual indent ls line.blanks
  | none => some (ls, line.blanks)

/-- A line in a block with this margin, after these blank lines. -/
def lineItem (usual : String) (margin : List Char) (blanks : List RawBlank) (line : RawLine) : Item :=
  .plain
    { leading := blanks.map (blankLine usual margin)
      tokens := line.lexemes.map (token margin)
      tail := Layout.tail usual line.tail }

theorem addLines_cons (usual : String) (line : RawLine) (rest : List RawLine) (ls : Levels) :
    addLines usual (line :: rest) ls = (place usual line ls).bind fun x =>
      addLines usual rest (x.1.push (lineItem usual x.1.top.1 x.2 line)) := by
  cases h : line.indent with
  | none => simp [addLines, place, h, lineItem]
  | some indent => simp [addLines, place, h, lineItem]

theorem place_erase (usual usual' : String) (line : RawLine) (ls : Levels) :
    place usual' (entryLine (line.indent, line.lexemes)) ls.erase =
      (place usual line ls).map fun x => (x.1.erase, []) := by
  cases h : line.indent with
  | none => simp [place, entryLine, h]
  | some indent => simpa [place, entryLine, h] using goTo_erase usual usual' indent ls line.blanks

theorem addLines_erase (usual usual' : String) (lines : List RawLine) (ls : Levels) :
    addLines usual' (lines.map fun l => entryLine (l.indent, l.lexemes)) ls.erase =
      (addLines usual lines ls).map (·.erase) := by
  induction lines generalizing ls with
  | nil => rfl
  | cons line rest ih =>
    rw [List.map_cons, addLines_cons, addLines_cons, place_erase usual]
    cases place usual line ls with
    | none => rfl
    | some x =>
      simp only [Option.map_some, Option.bind_some, ← ih, erase_push, top_erase]
      rfl

/-! ### Ending blocks -/

theorem length_of_close {ls ls' : Levels} {footer : List BlankLine}
    (h : ls.close footer = some ls') : ls'.inner.length + 1 = ls.inner.length := by
  obtain ⟨inner, base⟩ := ls
  match inner with
  | [] => cases h
  | [level] =>
    obtain ⟨base', -, h⟩ := Option.bind_eq_some_iff.mp h
    cases h
    rfl
  | level :: around :: outer =>
    obtain ⟨indent, -, h⟩ := Option.bind_eq_some_iff.mp h
    obtain ⟨items, -, h⟩ := Option.bind_eq_some_iff.mp h
    cases h
    rfl

/-- Ends the blocks that are wider than `w`, where no blank lines follow. -/
def settleIn (w : Nat) : Nat → Levels → Option Levels
  | 0, ls => some ls
  | fuel + 1, ls => if ls.top.2.wide ≤ w then some ls else (ls.close []).bind (settleIn w fuel)

def settle (w : Nat) (ls : Levels) : Option Levels := settleIn w ls.inner.length ls

theorem settleIn_of_le {w n : Nat} {ls : Levels} (h : ls.top.2.wide ≤ w) :
    settleIn w n ls = some ls := by
  cases n <;> simp [settleIn, h]

theorem wide_top_of_inner_nil {ls : Levels} (h : ls.inner.length ≤ 0) : ls.top.2.wide = 0 := by
  obtain ⟨inner, base⟩ := ls
  obtain rfl : inner = [] := List.length_eq_zero_iff.mp (by simpa using h)
  rfl

theorem settleIn_eq {w n k : Nat} {ls : Levels} (hn : ls.inner.length ≤ n)
    (hk : ls.inner.length ≤ k) : settleIn w n ls = settleIn w k ls := by
  induction n generalizing k ls with
  | zero =>
    have hwide := wide_top_of_inner_nil hn
    rw [settleIn_of_le (by omega), settleIn_of_le (by omega)]
  | succ n ih =>
    cases k with
    | zero =>
      have hwide := wide_top_of_inner_nil hk
      rw [settleIn_of_le (by omega), settleIn_of_le (by omega)]
    | succ k =>
      simp only [settleIn]
      split
      · rfl
      · cases hclose : ls.close [] with
        | none => rfl
        | some ls' =>
          have hlength := length_of_close hclose
          exact ih (by omega) (by omega)

theorem closeTo_nil (usual : String) (w n : Nat) (ls : Levels) :
    closeTo usual w n ls [] = (settleIn w n ls).map fun ls => (ls, []) := by
  induction n generalizing ls with
  | zero => rfl
  | succ n ih =>
    have hfooter : splitFooter ls.top.1 [] = ([], []) := rfl
    simp only [closeTo, settleIn]
    split
    · rfl
    · simp only [hfooter, List.map_nil]
      cases ls.close [] with
      | none => rfl
      | some ls' => exact ih ls'

theorem settle_of_le {w : Nat} {ls : Levels} (h : ls.top.2.wide ≤ w) : settle w ls = some ls :=
  settleIn_of_le h

theorem settle_of_lt {w : Nat} {ls : Levels} (h : w < ls.top.2.wide) :
    settle w ls = (ls.close []).bind (settle w) := by
  have hne : ls.inner.length ≠ 0 := fun hzero => by
    have hwide := @wide_top_of_inner_nil ls (by omega)
    omega
  obtain ⟨n, hn⟩ := Nat.exists_eq_succ_of_ne_zero hne
  rw [settle, hn, settleIn, if_neg (by omega)]
  cases hclose : ls.close [] with
  | none => rfl
  | some ls' =>
    have hlength := length_of_close hclose
    exact settleIn_eq (by omega) le_rfl

theorem goTo_nil (usual : String) (indent : List Char) (ls : Levels) :
    goTo usual indent ls [] =
      if ls.top.2.wide < (Layout.width indent).wide then
        if ls.top.2.narrow < (Layout.width indent).narrow then
          some (⟨⟨indent, Layout.width indent, []⟩ :: ls.inner, ls.base⟩, [])
        else none
      else (settle (Layout.width indent).wide ls).bind fun ls =>
        if ls.top.2 = Layout.width indent then some (ls, []) else none := by
  simp only [goTo, closeTo_nil, settle]
  split
  · rfl
  · cases settleIn (Layout.width indent).wide ls.inner.length ls <;> rfl

/-! ### States that no later line tells apart -/

/-- The two states are in blocks at least as wide as `w`, and the same follows from both when the
blocks wider than that end. -/
structure Agree (w : Nat) (s t : Levels) : Prop where
  left : w ≤ s.top.2.wide
  right : w ≤ t.top.2.wide
  settle : ∀ v ≤ w, settle v s = settle v t

theorem Agree.goTo {w : Nat} {s t : Levels} (h : Agree w s t) (usual : String)
    {indent : List Char} (hindent : (Layout.width indent).wide ≤ w) :
    goTo usual indent s [] = goTo usual indent t [] := by
  have hs := h.left
  have ht := h.right
  rw [goTo_nil, goTo_nil, if_neg (by omega), if_neg (by omega), h.settle _ hindent]

theorem goTo_same {s : Levels} {margin : List Char} (h : s.top = (margin, Layout.width margin))
    (usual : String) : goTo usual margin s [] = some (s, []) := by
  rw [goTo_nil, if_neg (by simp [h]), settle_of_le (by simp [h])]
  simp [h]

/-- Adds items to the innermost block. -/
def pushAll (ls : Levels) (items : List Item) : Levels := items.foldl push ls

@[simp] theorem top_push (ls : Levels) (item : Item) : (ls.push item).top = ls.top := by
  obtain ⟨inner, base⟩ := ls
  cases inner <;> rfl

@[simp] theorem top_pushAll (ls : Levels) (items : List Item) : (ls.pushAll items).top = ls.top := by
  induction items generalizing ls with
  | nil => rfl
  | cons item items ih => exact (ih (ls.push item)).trans (top_push ls item)

theorem pushAll_cons (level : Level) (outer : List Level) (base items : List Item) :
    pushAll ⟨level :: outer, base⟩ items =
      ⟨{ level with items := items.reverse ++ level.items } :: outer, base⟩ := by
  induction items generalizing level with
  | nil => rfl
  | cons item items ih =>
    change pushAll ⟨{ level with items := item :: level.items } :: outer, base⟩ items = _
    simp [ih]

theorem pushAll_base (base items : List Item) :
    pushAll ⟨[], base⟩ items = ⟨[], items.reverse ++ base⟩ := by
  induction items generalizing base with
  | nil => rfl
  | cons item items ih =>
    change pushAll ⟨[], item :: base⟩ items = _
    simp [ih]

theorem addLines_append (usual : String) (lines more : List RawLine) (ls : Levels) :
    addLines usual (lines ++ more) ls = (addLines usual lines ls).bind (addLines usual more) := by
  induction lines generalizing ls with
  | nil => rfl
  | cons line lines ih =>
    rw [List.cons_append, addLines_cons, addLines_cons, Option.bind_assoc]
    simp only [ih]

end Levels

/-- A line that has an indentation. -/
def marginLine (entry : List Char × List Lexeme) : RawLine := entryLine (some entry.1, entry.2)

namespace Levels

/-- A line is added alike in two states from which it goes to the same block. -/
theorem addLines_congr {usual : String} {s t : Levels} {entry : List Char × List Lexeme}
    (h : goTo usual entry.1 s [] = goTo usual entry.1 t []) (rest : List RawLine) :
    addLines usual (marginLine entry :: rest) s = addLines usual (marginLine entry :: rest) t := by
  rw [addLines_cons, addLines_cons, place, place]
  simp only [marginLine, entryLine, h]

/-- A line in the innermost block. -/
theorem addLines_line {c : Context} {line : LogicalLine} (hline : Lined c line.tokens) {s : Levels}
    (hs : s.top = (c.margin.toList, Layout.width c.margin.toList)) (usual : String)
    (rest : List RawLine) :
    addLines usual (marginLine (line.entry c) :: rest) s =
      addLines usual rest (s.push (.plain line.erase)) := by
  obtain ⟨l, ls, -, -, htokens⟩ := hline
  have hmap : (line.tokens.map (·.lexeme c)).map (token c.margin.toList) = line.tokens := by
    rw [htokens, List.map_map, List.map_map]
    simp [Function.comp_def, Token.lexeme_token]
  have hplace : place usual (marginLine (line.entry c)) s = some (s, []) := goTo_same hs usual
  rw [addLines_cons, hplace, Option.bind_some, hs]
  simp only [lineItem, marginLine, entryLine, LogicalLine.entry, hmap]
  rfl

/-- The block of a line is ended by the next line that is not in it. -/
theorem close_block {c : Context} {indent : String} {s : Levels}
    (hs : s.top.1 = c.margin.toList) (line : LogicalLine) (w : Width) (items : List Item) :
    (pushAll ⟨⟨(c.indented indent).margin.toList, w, []⟩ :: (s.push (.plain line)).inner,
      (s.push (.plain line)).base⟩ items).close [] =
      some (s.push (.headed line indent items [])) := by
  obtain ⟨inner, base⟩ := s
  rw [pushAll_cons]
  have hmargin : (c.indented indent).margin.toList = c.margin.toList ++ indent.toList := by
    simp [Context.indented]
  cases inner with
  | nil =>
    have hnil : c.margin.toList = [] := hs.symm
    simp [push, close, headLatest, hmargin, hnil]
  | cons level outer =>
    have hlevel : level.margin = c.margin.toList := hs
    have hafter : Lexeme.after? c.margin.toList (c.margin.toList ++ indent.toList) =
        some indent.toList := Lexeme.after_eq_some_iff.mpr rfl
    simp [push, close, headLatest, hmargin, hlevel, hafter]

end Levels

theorem entries_eq (c : Context) (item : Item) :
    ∃ lexemes rest, item.entries c = (c.margin.toList, lexemes) :: rest := by
  cases item with
  | plain line => exact ⟨_, _, rfl⟩
  | headed line indent items footer => exact ⟨_, _, rfl⟩

open Levels

theorem nested_all {c : Context} {items : List Item}
    (h : ∀ item ∈ items, ∀ s : Levels, s.top = (c.margin.toList, Layout.width c.margin.toList) →
      ∃ s', addLines "" ((item.entries c).map marginLine) s = some s' ∧
        Agree (Layout.width c.margin.toList).wide s' (s.push item.erase))
    (s : Levels) (hs : s.top = (c.margin.toList, Layout.width c.margin.toList)) :
    ∃ s', addLines "" ((Item.entriesAll c items).map marginLine) s = some s' ∧
      Agree (Layout.width c.margin.toList).wide s' (s.pushAll (items.map (·.erase))) := by
  induction items generalizing s with
  | nil => exact ⟨s, rfl, by simp [hs], by simp [hs], fun _ _ => rfl⟩
  | cons item items ih =>
    obtain ⟨hitem, hitems⟩ := List.forall_mem_cons.mp h
    obtain ⟨s1, hs1, hagree⟩ := hitem s hs
    obtain ⟨s2, hs2, hagree2⟩ := ih hitems (s.push item.erase) (by simp [hs])
    rw [Item.entriesAll, List.map_append, addLines_append, hs1, Option.bind_some]
    cases items with
    | nil => exact ⟨s1, rfl, hagree⟩
    | cons next others =>
      obtain ⟨lexemes, rest, hnext⟩ := entries_eq c next
      refine ⟨s2, ?_, hagree2⟩
      rw [Item.entriesAll, hnext] at hs2 ⊢
      rw [← hs2]
      exact addLines_congr (hagree.goTo "" le_rfl) _

/-- The lines of a sound item are nested as the item is, up to the blocks at its end. -/
theorem nested {c : Context} {item : Item} (h : item.Sound c) (s : Levels)
    (hs : s.top = (c.margin.toList, Layout.width c.margin.toList)) :
    ∃ s', addLines "" ((item.entries c).map marginLine) s = some s' ∧
      Agree (Layout.width c.margin.toList).wide s' (s.push item.erase) := by
  induction h generalizing s with
  | plain hline =>
    refine ⟨_, addLines_line hline.tokens hs "" [], ?_, ?_, fun _ _ => rfl⟩ <;> simp [hs]
  | @headed c line indent items footer hline hindent hne _ _ ih =>
    -- The first line of the block opens it.
    let head := s.push (.plain line.erase)
    let inner := c.indented indent
    let opened : Levels :=
      ⟨⟨inner.margin.toList, Layout.width inner.margin.toList, []⟩ :: head.inner, head.base⟩
    have hhead : head.top = (c.margin.toList, Layout.width c.margin.toList) := by simp [head, hs]
    have hopen : goTo "" inner.margin.toList head [] = some (opened, []) := by
      have hwide := hindent.wide
      have hnarrow := hindent.narrow
      rw [goTo_nil, if_pos (by simpa [hhead] using hwide), if_pos (by simpa [hhead] using hnarrow)]
    obtain ⟨s', hs', hagree⟩ := nested_all ih opened rfl
    have hlines : addLines "" ((Item.entriesAll inner items).map marginLine) head = some s' := by
      obtain ⟨item, others, rfl⟩ := List.exists_cons_of_ne_nil hne
      obtain ⟨lexemes, rest, hitem⟩ := entries_eq inner item
      rw [Item.entriesAll, hitem] at hs' ⊢
      rw [← hs']
      exact addLines_congr (hopen.trans (goTo_same rfl "").symm) _
    refine ⟨s', (addLines_line hline.tokens hs "" _).trans hlines, ?_, by simp [hs], fun v hv => ?_⟩
    · exact (Nat.le_of_lt hindent.wide).trans hagree.left
    · have hwide := hindent.wide
      rw [hagree.settle v (by omega), settle_of_lt, close_block (by rw [hs])]
      · simp [Item.erase]
      · rw [top_pushAll]
        exact Nat.lt_of_le_of_lt hv hwide

/-- A text with the lines of sound items is laid out as the items are. -/
theorem ofText_of_gives {c : Context} {items : List Item} {cs : List Char}
    (hc : c.margin = "") (hitems : ∀ item ∈ items, item.Sound c)
    (hcs : Lexeme.Gives cs (some (Item.entriesAll c items))) (usual : String) :
    ∃ layout, ofText usual cs = some layout ∧
      layout.items.map (·.erase) = items.map (·.erase) := by
  have hkeys := hcs (cs.length + 1) (by omega)
  obtain ⟨⟨lines, blanks⟩, hread, hlines⟩ := Option.map_eq_some_iff.mp hkeys
  obtain ⟨s', hs', hagree⟩ := nested_all (fun item hitem => nested (hitems item hitem))
    ⟨[], []⟩ (by rw [hc]; rfl)
  have hentries : lines.map (fun l => entryLine (l.indent, l.lexemes)) =
      (Item.entriesAll c items).map marginLine := by
    have hmap := congrArg (List.map entryLine) hlines
    rw [Lexeme.lineKeys, List.map_map, List.map_map] at hmap
    exact hmap
  -- The blocks that are open at the end are ended there.
  have hadd := addLines_erase usual "" lines ⟨[], []⟩
  rw [hentries] at hadd
  obtain ⟨ls, hls, rfl⟩ := Option.map_eq_some_iff.mp (hadd.symm.trans hs')
  have hclose := closeTo_erase usual "" 0 ls.inner.length ls blanks
  have hsettle : settle 0 ls.erase = some ⟨[], (items.map (·.erase)).reverse⟩ := by
    rw [hagree.settle 0 (Nat.zero_le _), pushAll_base, List.append_nil]
    exact settle_of_le le_rfl
  rw [closeTo_nil, ← length_inner_erase, show settleIn 0 _ _ = settle 0 ls.erase from rfl,
    hsettle] at hclose
  obtain ⟨⟨done, last⟩, hdone, herase⟩ := Option.map_eq_some_iff.mp hclose.symm
  have hbase : done.base.map (·.erase) = (items.map (·.erase)).reverse :=
    congrArg Levels.base (Prod.mk.inj herase).1
  refine ⟨⟨done.base.reverse, last.map (blankLine usual [])⟩, ?_, ?_⟩
  · rw [length_inner_erase] at hdone
    simp [ofText, hread, hls, hdone]
  · rw [List.map_reverse, hbase, List.reverse_reverse]

theorem ofText_of_gives_none {cs : List Char} (hcs : Lexeme.Gives cs none) (usual : String) :
    ofText usual cs = none := by
  have hkeys := hcs (cs.length + 1) (by omega)
  have hread := Option.map_eq_none_iff.mp hkeys
  simp [ofText, hread]

end Layout

end LocaleRegistrar.Python
