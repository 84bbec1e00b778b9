import LocaleRegistrar.Proofs.Layout.Soundness
import LocaleRegistrar.Proofs.Reparse.Acceptance
import LocaleRegistrar.Python.Parse

/-!
A module and its text. A module that was read consists of sound items, and a text with the lines of
sound items is read as a module if the items can be read.
-/

namespace LocaleRegistrar.Python

open Grammar
open Lexeme (IsLineEnd Gives Reads rowsText)
open Layout (context)

/-! ### The lines before a module -/

/-- The line or the block with other blank lines before it. -/
def Item.withLeading (leading : List BlankLine) : Item → Item
  | .plain line => .plain { line with leading }
  | .headed line indent items footer => .headed { line with leading } indent items footer

def Item.leading : Item → List BlankLine
  | .plain line => line.leading
  | .headed line _ _ _ => line.leading

namespace Grammar

def Reading.leading : Reading → List BlankLine
  | .simple line => line.leading
  | .decorator d => d.leading
  | .clause leading _ _ => leading

def Reading.withLeading (leading : List BlankLine) : Reading → Reading
  | .simple line => .simple { line with leading }
  | .decorator d => .decorator { d with leading }
  | .clause _ header suite => .clause leading header suite

theorem readItem_withLeading {u : Usual} {choices : Bool} {item : Item} {r : Reading}
    (h : readItem u choices item = some r) (leading : List BlankLine) :
    r.leading = item.leading ∧
      readItem u choices (item.withLeading leading) = some (r.withLeading leading) := by
  cases item with
  | plain line =>
    obtain ⟨content, hcontent, h⟩ := Option.bind_eq_some_iff.mp h
    cases h
    refine ⟨by cases content <;> rfl, Option.bind_eq_some_iff.mpr ⟨content, hcontent, ?_⟩⟩
    cases content <;> rfl
  | headed line indent items footer =>
    obtain ⟨header, hheader, h⟩ := Option.bind_eq_some_iff.mp h
    obtain ⟨readings, hreadings, h⟩ := Option.bind_eq_some_iff.mp h
    obtain ⟨body, hbody, h⟩ := Option.bind_eq_some_iff.mp h
    cases h
    exact ⟨rfl, Option.bind_eq_some_iff.mpr ⟨header, hheader, Option.bind_eq_some_iff.mpr
      ⟨readings, hreadings, Option.bind_eq_some_iff.mpr ⟨body, hbody, rfl⟩⟩⟩⟩

theorem decorate_withLeading {d : Decorator} {s t : Statement} (h : decorate d s = some t)
    (leading : List BlankLine) :
    t.leading = d.leading ∧ decorate { d with leading } s = some (t.withLeading leading) := by
  unfold decorate at h ⊢
  split at h
  · split at h
    · next hkind =>
      dsimp only at h
      split at h
      · cases h
        exact ⟨rfl, by simp [hkind, Statement.withLeading]⟩
      · cases h
        exact ⟨rfl, by simp [hkind, Statement.withLeading]⟩
      · cases h
    · cases h
  · cases h

/-- The lines before a block's first statement are those before its first line. -/
theorem statements_withLeading {r : Reading} {rest : List Reading} {s : Statement}
    {body : List Statement} (h : statements (r :: rest) = some (s :: body))
    (leading : List BlankLine) :
    s.leading = r.leading ∧
      statements (r.withLeading leading :: rest) = some (s.withLeading leading :: body) := by
  obtain ⟨j, hj, hadd⟩ := Option.bind_eq_some_iff.mp (statements_eq_some_iff.mp h)
  suffices hstep : s.leading = r.leading ∧
      j.Step (r.withLeading leading) ⟨[], s.withLeading leading :: body⟩ by
    refine ⟨hstep.1, statements_eq_some_iff.mpr (Option.bind_eq_some_iff.mpr ⟨j, hj, ?_⟩)⟩
    exact Joined.add_eq_some_iff.mpr hstep.2
  generalize hk : (⟨[], s :: body⟩ : Joined) = k at hadd
  cases Joined.add_eq_some_iff.mp hadd with
  | simple line hpending =>
    cases hk
    exact ⟨rfl, .simple _ hpending⟩
  | decorator d s' t rest' hpending hdone ht =>
    cases hk
    obtain ⟨hleading, ht'⟩ := decorate_withLeading ht leading
    exact ⟨hleading, .decorator _ s' _ _ hpending hdone ht'⟩
  | continued => cases hk
  | alternative => cases hk
  | compound leading' header suite hcontinues hrole hcompletes =>
    cases hk
    exact ⟨rfl, .compound leading header suite hcontinues hrole hcompletes⟩

end Grammar

/-! ### Modules that were read -/

/-- The lines that a module consists of. -/
structure Composed (m : Module) (items : List Item) (readings : List Reading) : Prop where
  lineEnd : IsLineEnd m.usual.lineEnd.toList
  header : ∀ b ∈ m.header, b.Sound (context m.usual [])
  sound : ∀ item ∈ items, item.Sound (context m.usual [])
  footer : ∀ b ∈ m.footer, b.Sound (context m.usual [])
  read : readItems m.usual false items = some readings
  body : statements readings = some m.body

theorem Item.Sound.leading {c : Context} {item : Item} (h : item.Sound c) :
    ∀ b ∈ item.leading, b.Sound c := by
  cases h with
  | plain hline => exact hline.leading
  | headed hline => exact hline.leading

theorem Item.Sound.bare {c : Context} {item : Item} (h : item.Sound c) :
    (item.withLeading []).Sound c := by
  cases h with
  | plain hline => exact .plain ⟨by simp, hline.tokens, hline.tail⟩
  | headed hline hindent hne hitems hfooter =>
    exact .headed ⟨by simp, hline.tokens, hline.tail⟩ hindent hne hitems hfooter

theorem parseModule_composed {text : String} {m : Module} (h : parseModule text = some m) :
    ∃ items readings, Composed m items readings := by
  obtain ⟨⟨body, footer, usual⟩, htext, h⟩ := Option.bind_eq_some_iff.mp h
  obtain ⟨layout, hlayout, htext⟩ := Option.bind_eq_some_iff.mp htext
  obtain ⟨readings, hreadings, htext⟩ := Option.bind_eq_some_iff.mp htext
  obtain ⟨body', hbody, htext⟩ := Option.bind_eq_some_iff.mp htext
  cases htext
  have hend := Layout.isLineEnd_usualLineEnd (dropMark text.toList)
  generalize hindent : Layout.usualIndent layout.items = indent at *
  obtain ⟨hitems, hfooter⟩ := Layout.ofText_sound
    (u := ⟨Layout.usualLineEnd (dropMark text.toList), indent⟩) hend hlayout
  cases body with
  | nil =>
    cases h
    exact ⟨[], [], hend, hfooter, by simp, by simp, rfl, rfl⟩
  | cons s rest =>
    cases h
    obtain ⟨r, others, rfl⟩ : ∃ r others, readings = r :: others := by
      cases readings with
      | nil => cases hbody
      | cons r others => exact ⟨r, others, rfl⟩
    obtain ⟨item, more, hlist⟩ : ∃ item more, layout.items = item :: more := by
      cases hlist : layout.items with
      | nil => rw [hlist] at hreadings; cases hreadings
      | cons item more => exact ⟨item, more, rfl⟩
    rw [hlist] at hreadings hitems
    obtain ⟨hitem, hmore⟩ := List.forall_mem_cons.mp hitems
    obtain ⟨r', hr, hreadings⟩ := Option.bind_eq_some_iff.mp hreadings
    obtain ⟨others', hothers, hreadings⟩ := Option.bind_eq_some_iff.mp hreadings
    cases hreadings
    obtain ⟨hleading, hfirst⟩ := readItem_withLeading hr []
    obtain ⟨hs, hstatements⟩ := statements_withLeading hbody []
    refine ⟨item.withLeading [] :: more, r.withLeading [] :: others, hend, ?_, ?_, hfooter, ?_,
      hstatements⟩
    · rw [hs, hleading]
      exact hitem.leading
    · exact List.forall_mem_cons.mpr ⟨hitem.bare, hmore⟩
    · exact Option.bind_eq_some_iff.mpr ⟨_, hfirst, Option.bind_eq_some_iff.mpr ⟨_, hothers, rfl⟩⟩

/-! ### Texts that can be read again -/

/-- The items can be read and joined to statements. -/
def Readable (items : List Item) : Prop :=
  ∃ u readings body, readItems u false items = some readings ∧ statements readings = some body

theorem readable_of_erase_eq {items items' : List Item}
    (herase : items.map (·.erase) = items'.map (·.erase)) (h : Readable items) (u : Usual) :
    ∃ readings body, readItems u false items' = some readings ∧
      statements readings = some body := by
  obtain ⟨v, readings, body, hread, hbody⟩ := h
  obtain ⟨readings', hread', hkinds⟩ := readItems_alike v u false items items' readings herase hread
  obtain ⟨body', hbody'⟩ := statements_alike hkinds hbody
  exact ⟨readings', body', hread', hbody'⟩

theorem parseModule_isSome_iff {text : String} :
    (parseModule text).isSome ↔ (parseText (dropMark text.toList)).isSome := by
  unfold parseModule
  cases htext : parseText (dropMark text.toList) with
  | none => simp [htext]
  | some x =>
    obtain ⟨body, footer, usual⟩ := x
    cases body <;> simp [htext]

/-- A text with the lines of sound items is a module exactly if the items can be read. -/
theorem parseModule_isSome_of_gives {c : Context} {items : List Item} {text : String}
    (hc : c.margin = "") (hitems : ∀ item ∈ items, item.Sound c)
    (hmark : dropMark text.toList = text.toList)
    (hgives : Gives text.toList (some (Item.entriesAll c items))) :
    (parseModule text).isSome ↔ Readable items := by
  obtain ⟨layout, hlayout, herase⟩ :=
    Layout.ofText_of_gives hc hitems hgives (Layout.usualLineEnd text.toList)
  rw [parseModule_isSome_iff, hmark, Option.isSome_iff_exists]
  constructor
  · rintro ⟨x, h⟩
    obtain ⟨layout', hlayout', h⟩ := Option.bind_eq_some_iff.mp h
    obtain ⟨readings, hreadings, h⟩ := Option.bind_eq_some_iff.mp h
    obtain ⟨body, hbody, -⟩ := Option.bind_eq_some_iff.mp h
    obtain rfl : layout = layout' := Option.some.inj (hlayout.symm.trans hlayout')
    exact ⟨⟨"", ""⟩, readable_of_erase_eq herase ⟨_, readings, body, hreadings, hbody⟩ _⟩
  · intro h
    obtain ⟨readings, body, hreadings, hbody⟩ := readable_of_erase_eq herase.symm h
      ⟨Layout.usualLineEnd text.toList, Layout.usualIndent layout.items⟩
    simp [parseText, hlayout, hreadings, hbody]

theorem parseModule_eq_none_of_gives {text : String}
    (hmark : dropMark text.toList = text.toList) (hgives : Gives text.toList none) :
    parseModule text = none := by
  have hnone : ¬ (parseModule text).isSome := by
    rw [parseModule_isSome_iff, hmark]
    simp [parseText, Layout.ofText_of_gives_none hgives]
  simpa using hnone

/-! ### The first character -/

/-- The text does not start with a byte-order mark. -/
def Unmarked (cs : List Char) : Prop := ∀ c s, cs = c :: s → c.toNat ≠ 0xFEFF

theorem Unmarked.dropMark {cs : List Char} (h : Unmarked cs) : dropMark cs = cs := by
  cases cs with
  | nil => rfl
  | cons c s => simp [Python.dropMark, h c s rfl]

theorem Unmarked.append {s t : List Char} (hs : Unmarked s) (ht : Unmarked t) :
    Unmarked (s ++ t) := by
  cases s with
  | nil => exact ht
  | cons a s =>
    rintro c r ⟨⟩
    exact hs a s rfl

namespace Lexeme

theorem wordStep_mark (gap r : List Char) : wordStep [] gap ('\ufeff' :: r) = none := by
  have hmarks : ∀ s ∈ stringMarks ++ templateMarks, s.toList.head? ≠ some '\ufeff' := by decide
  have hword : ∀ c ∈ '\ufeff' :: r.takeWhile isWordPart, isWordPart c = true :=
    List.forall_mem_cons.mpr ⟨by decide, fun _ hc => List.mem_takeWhile_imp hc⟩
  have hplain (rest : List Char) :
      wordStep.plain [] gap ('\ufeff' :: r.takeWhile isWordPart) rest = none := by
    have hstart : Text.isIdentifierStart '\ufeff' = false := by decide +kernel
    simp [wordStep.plain, Text.isIdentifierList, hstart]
  have hmark : String.ofList (('\ufeff' :: r.takeWhile isWordPart).map Char.toLower) ∉
      stringMarks ++ templateMarks := fun hmem => hmarks _ hmem (by simp)
  rw [List.mem_append, not_or] at hmark
  have hsplit : '\ufeff' :: r = ('\ufeff' :: r.takeWhile isWordPart) ++ r.dropWhile isWordPart := by
    simp
  rw [hsplit, wordStep_eq hword (head_dropWhile_test isWordPart r)]
  split
  · rw [if_neg (by simpa using hmark.1), if_neg (by simpa using hmark.2), hplain]
  · exact hplain _

theorem lexemeStep_mark (gap r : List Char) : lexemeStep [] gap ('\ufeff' :: r) = none := by
  rw [lexemeStep_cons, if_neg (by simp [startsNumber]), if_pos (by decide), wordStep_mark]

theorem Lexed.unmarked {l : Lexeme} {ls : List Lexeme} (h : Lexed [] (l :: ls)) :
    Unmarked l.text.toList := by
  rintro c s hcs hc
  obtain rfl : c = '\ufeff' := Char.toNat_inj.mp hc
  obtain ⟨-, -, stack, -, hstep⟩ := h.first
  have hread := hstep [] (spellAll ls) rfl .nil
  obtain ⟨gap, rest, hgap, hlexeme⟩ := plainStep_eq_more_iff.mp hread
  have hnone : takeGap false false ('\ufeff' :: (s ++ spellAll ls)) =
      some ([], '\ufeff' :: (s ++ spellAll ls)) :=
    takeGap_of_endsGap (.of_startsLexeme (by decide) _)
  rw [List.nil_append, hcs, List.cons_append] at hgap
  obtain ⟨rfl, rfl⟩ := Prod.mk.inj (Option.some.inj (hnone.symm.trans hgap))
  rw [lexemeStep_mark] at hlexeme
  cases hlexeme

theorem Closes.unmarked {t e : List Char} (h : Closes t e) : Unmarked t := by
  obtain ⟨g, comment, rfl, hcomment, hgap⟩ := h
  refine .append ?_ ?_
  · rintro c s rfl hc
    obtain rfl : c = '\ufeff' := Char.toNat_inj.mp hc
    cases hgap with
    | space hspace _ => exact absurd hspace (by decide)
  · rcases hcomment with rfl | ⟨body, rfl, -⟩
    · rintro c s ⟨⟩
    · rintro c s ⟨⟩
      decide

theorem IsLineEnd.unmarked {e : List Char} (h : IsLineEnd e) : Unmarked e := by
  rcases h with rfl | rfl | rfl <;> rintro c s ⟨⟩ <;> decide

/-- The text of rows does not start with a byte-order mark. -/
theorem Reads.unmarked {rows : List Row} {lines : List (List Char × List Lexeme)}
    (h : Reads rows lines) : (∀ row ∈ rows, Unmarked row.1) ∧ Unmarked (rowsText rows) := by
  induction h with
  | nil => exact ⟨by simp, by rintro c s ⟨⟩⟩
  | blank hcloses hend _ ih =>
    refine ⟨List.forall_mem_cons.mpr ⟨hcloses.unmarked, ih.1⟩, ?_⟩
    rw [rowsText_cons]
    exact hcloses.unmarked.append (hend.unmarked.append ih.2)
  | @line margin t e l ls rows lines hmargin hgap hlexed hcloses hend _ ih =>
    have hspaces : Unmarked margin := by
      rintro c s rfl hc
      obtain rfl : c = '\ufeff' := Char.toNat_inj.mp hc
      exact absurd (hmargin _ (List.mem_cons_self ..)) (by decide)
    have hline : Unmarked (margin ++ spellAll (l :: ls) ++ t) := by
      obtain ⟨⟨c, r, hr, -⟩, -⟩ := hlexed.first
      have hfirst := hlexed.unmarked c r hr
      rw [List.append_assoc, spellAll_cons, hgap, hr]
      refine hspaces.append ?_
      rintro a s ⟨⟩
      exact hfirst
    refine ⟨List.forall_mem_cons.mpr ⟨hline, ih.1⟩, ?_⟩
    rw [rowsText_cons]
    exact hline.append (hend.unmarked.append ih.2)

end Lexeme

/-! ### The text of a module -/

theorem toList_joinAll (lines : List WrittenLine) :
    (WrittenLine.joinAll lines).toList = rowsText (lines.map (·.row)) := by
  induction lines with
  | nil => rfl
  | cons line rest ih =>
    simp only [WrittenLine.joinAll, String.toList_join] at ih ⊢
    simp [ih, WrittenLine.row, chars]

/-- The text of the module has no line end at its end, and there a backslash would join its last line
to a next one. -/
def Module.EndsOpen (m : Module) : Prop :=
  m.closed = false ∧ ∃ line, (m.write { usual := m.usual }).getLast? = some line ∧
    ∃ c, (chars line.text).getLast? = some c ∧ Lexeme.isLineEnd c = true

theorem Module.text_of_closed {m : Module} {c : Context} (h : m.closed = true)
    (hne : m.write c ≠ []) : (m.text c).toList = rowsText ((m.write c).map (·.row)) := by
  simp [Module.text, h, hne, toList_joinAll]

theorem Module.text_of_open {m : Module} {c : Context} {lines : List WrittenLine}
    {line : WrittenLine} (h : m.closed = false) (hlines : m.write c = lines ++ [line]) :
    (m.text c).toList = rowsText (lines.map (·.row)) ++ chars line.text := by
  simp [Module.text, h, hlines, toList_joinAll, chars]

/-- The text of a module that consists of sound items is a module exactly if the items can be read
and no line is left to be joined to a next one. -/
theorem parseModule_render_isSome_iff {m : Module} {items : List Item}
    (hheader : ∀ b ∈ m.header, b.Sound (context m.usual []))
    (hitems : ∀ item ∈ items, item.Sound (context m.usual []))
    (hfooter : ∀ b ∈ m.footer, b.Sound (context m.usual [])) (hne : items ≠ [])
    (hbody : (Statement.writeAll (context m.usual []) m.body).map (·.row) =
      Item.rowsAll (context m.usual []) items) :
    (parseModule m.render).isSome ↔ Readable items ∧ ¬ m.EndsOpen := by
  let c := context m.usual []
  have hrows : (m.write c).map (·.row) =
      blankRows c m.header ++ Item.rowsAll c items ++ blankRows c m.footer := by
    simp [Module.write, hbody, blankRows, Function.comp_def, c]
  have hreads : Reads ((m.write c).map (·.row)) (Item.entriesAll c items) := by
    have hspaces : ∀ a ∈ c.margin.toList, Lexeme.isSpace a = true := by simp [c]
    have hall := reads_rowsAll fun item hitem => (hitems item hitem).reads hspaces
    have happend := ((reads_blankRows hheader).append hall).append (reads_blankRows hfooter)
    rw [hrows]
    simpa using happend
  have hwrite : m.write c ≠ [] := by
    intro hnil
    rw [hnil] at hreads
    obtain ⟨item, rest, rfl⟩ := List.exists_cons_of_ne_nil hne
    obtain ⟨lexemes, more, hentries⟩ := Layout.entries_eq c item
    rw [Item.entriesAll, hentries] at hreads
    cases hreads
  cases hclosed : m.closed with
  | true =>
    have htext : m.render.toList = rowsText ((m.write c).map (·.row)) :=
      Module.text_of_closed hclosed hwrite
    have hgives := hreads.gives Lexeme.gives_nil (by simp)
    rw [List.append_nil, ← htext] at hgives
    have hmark := hreads.unmarked.2.dropMark
    rw [← htext] at hmark
    rw [parseModule_isSome_of_gives rfl hitems hmark (by simpa using hgives)]
    simp [Module.EndsOpen, hclosed]
  | false =>
    obtain ⟨lines, line, hlines⟩ := (List.eq_nil_or_concat (m.write c)).resolve_left hwrite
    rw [List.concat_eq_append] at hlines
    have htext : m.render.toList = rowsText (lines.map (·.row)) ++ chars line.text :=
      Module.text_of_open hclosed hlines
    have hends : m.EndsOpen ↔ ¬ Lexeme.EndsInLine (chars line.text) := by
      have hlast : (m.write { usual := m.usual }).getLast? = some line := by
        rw [show ({ usual := m.usual } : Context) = c from rfl, hlines, List.getLast?_concat]
      simp [Module.EndsOpen, hclosed, hlast, Lexeme.EndsInLine]
    rw [hlines, List.map_append, List.map_singleton] at hreads
    have hmark : dropMark m.render.toList = m.render.toList := by
      rw [htext]
      obtain ⟨before, last, -, hbefore, -⟩ := hreads.split
      exact (hbefore.unmarked.2.append
        (hreads.unmarked.1 line.row (by simp))).dropMark
    rw [hends]
    rcases hreads.gives_open with ⟨hline, hgives⟩ | ⟨hline, hgives⟩
    · rw [← htext] at hgives
      rw [parseModule_isSome_of_gives rfl hitems hmark hgives]
      simp [hline]
    · rw [← htext] at hgives
      rw [parseModule_eq_none_of_gives hmark hgives]
      simp [hline]

end LocaleRegistrar.Python
