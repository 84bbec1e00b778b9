import LocaleRegistrar.Proofs.Completion
import LocaleRegistrar.Proofs.Layout.Letters
import LocaleRegistrar.Proofs.Reparse.Splitting
import LocaleRegistrar.Proofs.TextInsertion
import LocaleRegistrar.Text.Utf8

/-! A registration makes a text grow. Splitting a line drops semicolons and the blanks around them,
and reading drops other blanks, but all letters stay, and the registration adds some. So a changed
text is never the text that was read, however its lines end. -/

namespace LocaleRegistrar

namespace Python

namespace Grammar

open Layout (context token)

/-! ### Splitting a line -/

theorem letters_headGap {c : Context} {tokens : List Token} (h : Worded c.margin.toList tokens) :
    letters (piecesText c (headGap tokens)) = 0 := by
  obtain ⟨ls, hlexed, rfl⟩ := h
  cases ls with
  | nil => rfl
  | cons l ls =>
    obtain ⟨-, ⟨r, hgap⟩, -⟩ := hlexed.first
    simpa [headGap, token, Layout.piecesText_gapPieces] using hgap.letters_eq_zero

/-- No semicolon that belongs to one of the small statements has letters around it. -/
def Unlettered (c : Context) (body : List Small) : Prop :=
  ∀ s ∈ body, ∀ pieces ∈ s.semicolon, letters (piecesText c pieces) = 0

theorem smallsFrom_unlettered {c : Context} {own : List Token} {more : List (Token × List Token)}
    {body : List Small} (h : smallsFrom own more = some body)
    (hmore : ∀ x ∈ more, letters (piecesText c x.1.gap) = 0 ∧
      letters (piecesText c (headGap x.2)) = 0) : Unlettered c body := by
  have hsemicolon : letters (piecesText c [.text ";"]) = 0 := by simp [letters]
  fun_induction smallsFrom own more generalizing body with
  | case1 own =>
    obtain ⟨t, -, h⟩ := Option.bind_eq_some_iff.mp h
    cases h
    simp [Unlettered]
  | case2 own semicolon =>
    obtain ⟨t, -, h⟩ := Option.bind_eq_some_iff.mp h
    cases h
    have hgap : letters (piecesText c semicolon.gap) = 0 := (hmore _ (List.mem_singleton_self _)).1
    intro s hs pieces hpieces
    obtain rfl := List.mem_singleton.mp hs
    cases hpieces
    rw [piecesText_append, letters_append, hgap, hsemicolon]
  | case3 own semicolon next more _ ih =>
    obtain ⟨t, -, h⟩ := Option.bind_eq_some_iff.mp h
    obtain ⟨rest, hrest, h⟩ := Option.bind_eq_some_iff.mp h
    cases h
    obtain ⟨⟨hgap, hhead⟩, hall⟩ := List.forall_mem_cons.mp hmore
    refine List.forall_mem_cons.mpr ⟨fun pieces hpieces => ?_, ih hrest hall⟩
    cases hpieces
    rw [piecesText_append, letters_append, piecesText_append, letters_append, hgap, hhead,
      hsemicolon]

theorem readSmalls_unlettered {c : Context} {tokens : List Token} {body : List Small}
    (h : readSmalls tokens = some body) (htokens : Worded c.margin.toList tokens) :
    Unlettered c body := by
  obtain ⟨heq, -, hmore⟩ := separate_spec tokens
  rw [heq] at htokens
  obtain ⟨-, hall⟩ := worded_split _ (fun x hx => (hmore x hx).1) _ htokens
  refine smallsFrom_unlettered h fun x hx => ?_
  obtain ⟨hnext, l, r, hgap, hl⟩ := hall x hx
  refine ⟨?_, letters_headGap hnext⟩
  rw [hl]
  simpa [token, Layout.piecesText_gapPieces] using hgap.letters_eq_zero

theorem endLine_unlettered {c : Context} {tail : Tail} {body : List Small}
    (h : Unlettered c body) (hblank : letters tail.blank.toList = 0) :
    Unlettered c (endLine tail body).1 := by
  fun_induction endLine tail body with
  | case1 | case3 => exact h
  | case2 s pieces hpieces =>
    have hs := h s (by simp) pieces (by simp [hpieces])
    simp [Unlettered, hs, hblank]
  | case4 s rest hrest others tail' he ih =>
    obtain ⟨hs, hothers⟩ := List.forall_mem_cons.mp h
    have hrest := ih hothers
    rw [he] at hrest
    exact List.forall_mem_cons.mpr ⟨hs, hrest⟩

/-- The letters of small statements are those of what they contain. -/
theorem letters_writeAll {c : Context} {body : List Small} (h : Unlettered c body) :
    letters (chars (Small.writeAll c body)) =
      (body.map fun s => letters (piecesText c s.content.pieces)).sum := by
  have hsmall (last : Bool) (s : Small) (hs : s ∈ body) :
      letters (chars (s.write c last)) = letters (piecesText c s.content.pieces) := by
    unfold Small.write
    cases hsemicolon : s.semicolon with
    | none => cases last <;> simp [letters]
    | some pieces =>
      have hpieces := h s hs pieces (by simp [hsemicolon])
      simpa [piecesText] using hpieces
  clear h
  induction body with
  | nil => rfl
  | cons s rest ih =>
    have hrest := ih fun last t ht => hsmall last t (List.mem_cons_of_mem _ ht)
    cases rest with
    | nil => simp [Small.writeAll, hsmall true s]
    | cons t others =>
      rw [Small.writeAll_cons c s (List.cons_ne_nil _ _), chars_append, letters_append, hrest,
        hsmall false s (List.mem_cons_self ..), List.map_cons (l := t :: others), List.sum_cons]

theorem unlettered_unseparated (c : Context) (body : List Small) :
    Unlettered c (Bootstrap.unseparated body) := by
  intro s hs pieces hpieces
  obtain ⟨t, -, rfl⟩ := List.mem_map.mp hs
  cases hpieces

theorem letters_unseparated (c : Context) (body : List Small) :
    letters (chars (Small.writeAll c (Bootstrap.unseparated body))) =
      (body.map fun s => letters (piecesText c s.content.pieces)).sum := by
  rw [letters_writeAll (unlettered_unseparated c body), Bootstrap.unseparated, List.map_map]
  rfl

/-- The letters of what a reading is written as. -/
def readingLetters (c : Context) (readings : List Reading) : Nat :=
  rowLetters ((readings.flatMap (·.write c)).map (·.row))

theorem letters_splitReading {u : Usual} {item : Item} {r : Reading}
    (hsound : item.Sound (context u [])) (h : readItem u false item = some r) :
    readingLetters (context u []) (splitReading r) = readingLetters (context u []) [r] := by
  cases r with
  | decorator | clause => rfl
  | simple line =>
    rw [splitReading]
    split
    · obtain ⟨l, body, rfl, hbody, hline⟩ := readItem_eq_simple h
      have hplain : Unlettered (context u []) line.body := by
        cases hsound with
        | plain hl =>
          obtain ⟨first, ls, -, hlexed, htokens⟩ := hl.tokens
          have hsmalls : Unlettered (context u []) body :=
            readSmalls_unlettered hbody ⟨_, hlexed, htokens⟩
          rw [hline]
          refine endLine_unlettered ?_ ?_
          · intro s hs
            obtain ⟨t, ht, rfl⟩ := List.mem_map.mp hs
            exact hsmalls t ht
          · obtain ⟨r, hgap⟩ := hl.tail.blank
            exact hgap.letters_eq_zero
      have hsum := congrArg (fun body : List Small =>
        (body.map fun s => letters (piecesText (context u []) s.content.pieces)).sum)
        (List.takeWhile_append_dropWhile (p := Bootstrap.isFutureSmall) (l := line.body))
      simp only [List.map_append, List.sum_append] at hsum
      have hwhole := letters_writeAll hplain
      have hfuture := letters_unseparated (context u [])
        (line.body.takeWhile Bootstrap.isFutureSmall)
      have hother := letters_unseparated (context u [])
        (line.body.dropWhile Bootstrap.isFutureSmall)
      simp [readingLetters, Reading.write, Line.write, hwhole, hfuture, hother]
      omega
    · rfl

theorem letters_splitAll {u : Usual} {items : List Item} {readings : List Reading}
    (hsound : ∀ item ∈ items, item.Sound (context u []))
    (h : readItems u false items = some readings) :
    readingLetters (context u []) (readings.flatMap splitReading) =
      readingLetters (context u []) readings := by
  induction items generalizing readings with
  | nil =>
    cases h
    rfl
  | cons item items ih =>
    obtain ⟨r, hr, h⟩ := Option.bind_eq_some_iff.mp h
    obtain ⟨rest, hrest, h⟩ := Option.bind_eq_some_iff.mp h
    cases h
    obtain ⟨hitem, hitems⟩ := List.forall_mem_cons.mp hsound
    have hfirst := letters_splitReading hitem hr
    have hothers := ih hitems hrest
    simp only [readingLetters, List.flatMap_cons, List.flatMap_nil, List.flatMap_append,
      List.append_nil, List.map_append, rowLetters_append] at hfirst hothers ⊢
    omega

end Grammar

/-! ### The text of a module -/

open Layout (context)
open Grammar (readItems_rows statements_write statements_split letters_splitAll readingLetters)

theorem letters_dropMark (cs : List Char) : letters (dropMark cs) = letters cs := by
  cases cs with
  | nil => rfl
  | cons c rest =>
    unfold dropMark
    dsimp only
    split
    · next hmark =>
      obtain rfl : c = '\ufeff' := Char.toNat_inj.mp hmark
      rw [letters_cons_of_not (by decide)]
    · rfl

/-- A module that was read is written as the rows of the layout of its text. -/
theorem parseModule_rows {text : String} {m : Module} (h : parseModule text = some m) :
    m.usual.lineEnd = Layout.usualLineEnd (dropMark text.toList) ∧
      ∃ layout, Layout.ofText m.usual.lineEnd (dropMark text.toList) = some layout ∧
        (m.write (context m.usual [])).map (·.row) =
          Item.rowsAll (context m.usual []) layout.items ++
            blankRows (context m.usual []) layout.footer := by
  obtain ⟨⟨body, footer, usual⟩, htext, h⟩ := Option.bind_eq_some_iff.mp h
  obtain ⟨layout, hlayout, htext⟩ := Option.bind_eq_some_iff.mp htext
  obtain ⟨readings, hreadings, htext⟩ := Option.bind_eq_some_iff.mp htext
  obtain ⟨body', hbody, htext⟩ := Option.bind_eq_some_iff.mp htext
  cases htext
  generalize hindent : Layout.usualIndent layout.items = indent at *
  let u : Usual := ⟨Layout.usualLineEnd (dropMark text.toList), indent⟩
  have hrows := readItems_rows (context u []) false _ _ hreadings
  rw [← statements_write hbody] at hrows
  cases body with
  | nil =>
    cases h
    refine ⟨rfl, layout, hlayout, ?_⟩
    rw [← hrows]
    simp [Module.write, Statement.writeAll, blankRows, Function.comp_def]
  | cons s rest =>
    cases h
    refine ⟨rfl, layout, hlayout, ?_⟩
    rw [← hrows]
    simp [Module.write, Statement.writeAll, s.write_eq_leading (context u []), blankRows,
      Function.comp_def, u]

/-- All letters of a text are in the lines that the module is written as. -/
theorem letters_le_write {text : String} {m : Module} (h : parseModule text = some m) :
    letters text.toList ≤ rowLetters ((m.write (context m.usual [])).map (·.row)) := by
  obtain ⟨husual, layout, hlayout, hrows⟩ := parseModule_rows h
  have hend := Layout.isLineEnd_usualLineEnd (dropMark text.toList)
  rw [← husual] at hend
  rw [hrows, ← letters_dropMark]
  exact Layout.letters_ofText hend hlayout

theorem letters_write_split {text : String} {m : Module} (h : parseModule text = some m) :
    rowLetters (((Bootstrap.splitFutureImports m).write (context m.usual [])).map (·.row)) =
      rowLetters ((m.write (context m.usual [])).map (·.row)) := by
  obtain ⟨items, readings, hm⟩ := parseModule_composed h
  have hsplit := letters_splitAll hm.sound hm.read
  rw [readingLetters, readingLetters, ← statements_write hm.body,
    ← statements_write (statements_split hm.body)] at hsplit
  simp only [Module.write, Bootstrap.splitFutureImports, List.map_append, rowLetters_append, hsplit]

theorem letters_render (m : Module) :
    rowLetters ((m.write { usual := m.usual }).map (·.row)) ≤ letters m.render.toList := by
  obtain hnil | ⟨lines, line, hlines⟩ := List.eq_nil_or_concat (m.write { usual := m.usual })
  · rw [hnil]
    exact Nat.zero_le _
  · rw [List.concat_eq_append] at hlines
    cases hclosed : m.closed with
    | true =>
      have htext : m.render.toList = _ := Module.text_of_closed hclosed (by rw [hlines]; simp)
      rw [htext]
      exact rowLetters_le _
    | false =>
      have htext : m.render.toList = _ := Module.text_of_open hclosed hlines
      have hle := rowLetters_le (lines.map (·.row))
      rw [htext, hlines, List.map_append, rowLetters_append, letters_append]
      simpa [WrittenLine.row] using hle

end Python

/-! ### Registrations -/

namespace Text

open LocaleRegistrar.Python (letters letters_append letters_cons_of_not)

theorem letters_unifyLineEnds (s : String) :
    letters (unifyLineEnds s).toList = letters s.toList := by
  rw [unifyLineEnds, String.toList_ofList]
  fun_induction unifyLineEndsList s.toList with
  | case1 => rfl
  | case2 rest ih =>
    rw [letters_cons_of_not (by decide), letters_cons_of_not (by decide),
      letters_cons_of_not (by decide), ih]
  | case3 c rest _ ih =>
    by_cases hc : c = '\r'
    · subst hc
      rw [if_pos rfl, letters_cons_of_not (by decide), letters_cons_of_not (by decide), ih]
    · rw [if_neg hc, ← List.singleton_append, letters_append, ih, ← letters_append,
        List.singleton_append]

end Text

namespace Registration

open LocaleRegistrar.Python
open LocaleRegistrar.Bootstrap
open Layout (context)

/-- The edits of a plan have letters, as each registration starts with an import. -/
theorem Planned.letters_pos {r : Request} {available : List String} {m : Python.Module}
    {edits : List Edit} {resolution : Locale.Resolution} {ss : List Statement}
    (h : Planned r available m edits resolution ss) (c : Context) :
    0 < rowLetters ((Statement.writeAll c (edits.map (·.statement))).map (·.row)) := by
  obtain ⟨path, origin, -, -, -, -, rfl⟩ := statements_eq_ok h.built
  let first := importStatement path (.ofName (Locale.symbol resolution.id))
  have hmem : first ∈ edits.map (·.statement) := by
    have hsites : (r.sites m).length ≠ 0 := by simpa using h.sites_ne_nil
    rw [h.statements_eq]
    simp [hsites, first]
  have hfirst : 0 < rowLetters ((first.write c).map (·.row)) := by
    have hkeyword : letters "import".toList = 6 := by decide
    simp only [first, importStatement, lineOf, Tree.bare, Statement.write, Line.write,
      Small.writeAll, Small.write, List.map_nil, List.nil_append, List.map_cons, List.append_nil,
      Tail.row_write, rowLetters_cons, chars_cons, chars_append, chars_tree_write, Tree.pieces,
      Tree.piecesAll, Tree.pieces_text, List.cons_append, piecesText_cons, Piece.write_text,
      letters_append, hkeyword]
    omega
  obtain ⟨before, after, heq⟩ := List.append_of_mem hmem
  rw [heq, Statement.writeAll_append, Statement.writeAll]
  simp only [List.map_append, rowLetters_append]
  omega

/-- A text that is changed has more letters afterwards. -/
theorem letters_lt_of_changed {r : Request} {available : List String} {code : String} {o : Outcome}
    (h : r.run available code = .ok o) (hchanged : o.changed = true) :
    letters code.toList < letters o.code.toList := by
  obtain ⟨m, edits, resolution, ss, hm, hp, rfl⟩ := run_changed h hchanged
  let t := splitFutureImports m
  let c := context m.usual []
  let n := prologueLength t.body
  let block := edits.map (·.statement)
  let edited : Python.Module := { t with body := t.body.take n ++ block ++ t.body.drop n }
  have hcode : (Request.outcome code t edits).code = edited.render := by
    rw [Request.outcome, hp.apply_eq]
  have hedited : rowLetters ((edited.write c).map (·.row)) =
      rowLetters ((t.write c).map (·.row)) +
        rowLetters ((Statement.writeAll c block).map (·.row)) := by
    have hbody := congrArg (Statement.writeAll c) (List.take_append_drop n t.body)
    rw [Statement.writeAll_append] at hbody
    simp only [Module.write, edited, Statement.writeAll_append, ← hbody, List.map_append,
      rowLetters_append]
    omega
  have hblock : 0 < rowLetters ((Statement.writeAll c block).map (·.row)) := hp.letters_pos c
  have hread := letters_le_write hm
  rw [← letters_write_split hm] at hread
  have hrender : rowLetters ((edited.write c).map (·.row)) ≤ letters edited.render.toList :=
    letters_render edited
  rw [hcode]
  calc letters code.toList
      ≤ rowLetters ((t.write c).map (·.row)) := hread
    _ < rowLetters ((edited.write c).map (·.row)) := by omega
    _ ≤ letters edited.render.toList := hrender

/-- A text that is changed is not the one that was read, however its lines ended. -/
theorem code_ne_of_changed {r : Request} {available : List String} {text : String} {o : Outcome}
    (h : r.run available (Text.unifyLineEnds text) = .ok o) (hchanged : o.changed = true) :
    o.code ≠ text := by
  have hlt := letters_lt_of_changed h hchanged
  rw [Text.letters_unifyLineEnds] at hlt
  rintro rfl
  exact Nat.lt_irrefl _ hlt

end Registration

end LocaleRegistrar
