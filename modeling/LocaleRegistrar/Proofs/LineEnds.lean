import LocaleRegistrar.Proofs.Enumeration
import LocaleRegistrar.Proofs.Growth
import LocaleRegistrar.Proofs.Layout.Characters

/-! Line ends of a text that is registered. A text whose line ends have been unified has no carriage
return, and a registration writes no character that is neither in the text nor in its own lines, nor
one that sets statements and lines off from each other. Main statement: a run makes no carriage
return. -/

namespace LocaleRegistrar

/-! ### Unified line ends -/

namespace Text

theorem not_mem_unifyLineEndsList (cs : List Char) : '\r' ∉ unifyLineEndsList cs := by
  fun_induction unifyLineEndsList cs with
  | case1 => exact List.not_mem_nil
  | case2 rest ih => simpa using ih
  | case3 c rest _ ih =>
    rw [List.mem_cons, not_or]
    refine ⟨?_, ih⟩
    split
    · decide
    · next hc => exact Ne.symm hc

theorem unifyLineEndsList_of_not_mem {cs : List Char} (h : '\r' ∉ cs) :
    unifyLineEndsList cs = cs := by
  fun_induction unifyLineEndsList cs with
  | case1 => rfl
  | case2 rest ih => exact absurd List.mem_cons_self h
  | case3 c rest _ ih =>
    rw [List.mem_cons, not_or] at h
    rw [if_neg (Ne.symm h.1), ih h.2]

/-- Unified line ends leave no carriage return. -/
theorem not_mem_unifyLineEnds (s : String) : '\r' ∉ (unifyLineEnds s).toList := by
  rw [unifyLineEnds, String.toList_ofList]
  exact not_mem_unifyLineEndsList s.toList

/-- A text without a carriage return, and no other, stays as it is. -/
theorem unifyLineEnds_eq_self_iff {s : String} : unifyLineEnds s = s ↔ '\r' ∉ s.toList := by
  constructor
  · intro h
    rw [← h]
    exact not_mem_unifyLineEnds s
  · intro h
    rw [unifyLineEnds, unifyLineEndsList_of_not_mem h, String.ofList_toList]

end Text

namespace Python

open Layout (context)
open Lexeme (rowsText rowsText_nil rowsText_cons rowsText_append)

variable {x : Char}

/-! ### Reading -/

theorem not_mem_usualLineEnd {cs : List Char} (h : '\r' ∉ cs) :
    '\r' ∉ (Layout.usualLineEnd cs).toList := by
  fun_induction Layout.usualLineEnd cs with
  | case1 => decide
  | case2 => exact absurd List.mem_cons_self h
  | case3 c rest _ hc =>
    rw [List.mem_cons, not_or] at h
    simpa using h.1
  | case4 c rest _ _ ih => exact ih fun hmem => h (List.mem_cons_of_mem _ hmem)

theorem not_mem_dropMark {cs : List Char} (h : x ∉ cs) : x ∉ dropMark cs := by
  unfold dropMark
  split
  · split
    · exact fun hmem => h (List.mem_cons_of_mem _ hmem)
    · exact h
  · exact List.not_mem_nil

/-- What a module is written as has the characters of its text, indentation and usual line ends. -/
theorem not_mem_write {text : String} {m : Module} (h : parseModule text = some m)
    (hu : x ∉ m.usual.lineEnd.toList) (hx : Lexeme.isSpace x = false) (htext : x ∉ text.toList) :
    x ∉ rowsText ((m.write (context m.usual [])).map (·.row)) := by
  obtain ⟨-, layout, hlayout, hrows⟩ := parseModule_rows h
  rw [hrows]
  exact Layout.not_mem_ofText hu hx hlayout (not_mem_dropMark htext)

/-! ### Splitting -/

theorem not_mem_writeAll_content {c : Context} {body : List Small}
    (h : x ∉ chars (Small.writeAll c body)) : ∀ s ∈ body, x ∉ chars (s.content.write c) := by
  induction body with
  | nil => exact List.forall_mem_nil _
  | cons s rest ih =>
    have hsmall (last : Bool) (hs : x ∉ chars (s.write c last)) :
        x ∉ chars (s.content.write c) := by
      rw [Small.write, chars_append, List.mem_append, not_or] at hs
      exact hs.1
    by_cases hrest : rest = []
    · subst hrest
      exact List.forall_mem_singleton.mpr (hsmall true h)
    · rw [Small.writeAll_cons c s hrest, chars_append, List.mem_append, not_or] at h
      exact List.forall_mem_cons.mpr ⟨hsmall false h.1, ih h.2⟩

/-- Statements without semicolons of their own are set off by the usual ones. -/
theorem not_mem_unseparated {c : Context} {body : List Small} (hx : x ∉ "; ".toList)
    (h : ∀ s ∈ body, x ∉ chars (s.content.write c)) :
    x ∉ chars (Small.writeAll c (Bootstrap.unseparated body)) := by
  induction body with
  | nil => exact List.not_mem_nil
  | cons s rest ih =>
    obtain ⟨hs, hrest⟩ := List.forall_mem_cons.mp h
    have hwrite (last : Bool) : x ∉ chars (Small.write c last { s with semicolon := none }) := by
      rw [Small.write, chars_append, List.mem_append, not_or]
      refine ⟨hs, ?_⟩
      cases last with
      | true => exact List.not_mem_nil
      | false => simpa [chars] using hx
    cases rest with
    | nil => exact hwrite true
    | cons next others =>
      rw [Bootstrap.unseparated, List.map_cons, Small.writeAll_cons _ _ (by simp), chars_append,
        List.mem_append, not_or]
      exact ⟨hwrite false, ih hrest⟩

theorem not_mem_simple_iff {c : Context} {line : Line} :
    x ∉ rowsText (((Statement.simple line).write c).map (·.row)) ↔
      x ∉ rowsText ((line.leading.map (BlankLine.write c)).map (·.row)) ∧ x ∉ c.margin.toList ∧
      x ∉ chars (Small.writeAll c line.body) ∧ x ∉ line.tail.blank.toList ∧
      x ∉ line.tail.comment.toList ∧ x ∉ (LineEnd.write c line.tail.lineEnd).toList := by
  simp only [Statement.write, Line.write, List.map_append, List.map_cons, List.map_nil,
    rowsText_append, rowsText_cons, rowsText_nil, Tail.row_write, chars_cons, List.mem_append,
    List.not_mem_nil, or_false, not_or, and_assoc]

theorem not_mem_writeAll_iff {c : Context} {body : List Statement} :
    x ∉ rowsText ((Statement.writeAll c body).map (·.row)) ↔
      ∀ s ∈ body, x ∉ rowsText ((s.write c).map (·.row)) := by
  induction body with
  | nil => simp [Statement.writeAll]
  | cons s rest ih =>
    rw [Statement.writeAll, List.map_append, rowsText_append, List.mem_append, not_or, ih,
      List.forall_mem_cons]

/-- A split line has the characters of the line, usual semicolons and a usual line end. -/
theorem not_mem_splitStatement {c : Context} (hu : x ∉ c.usual.lineEnd.toList)
    (hx : x ∉ "; ".toList) {s : Statement} (h : x ∉ rowsText ((s.write c).map (·.row))) :
    ∀ part ∈ Bootstrap.splitStatement s, x ∉ rowsText ((part.write c).map (·.row)) := by
  have hself : ∀ part ∈ [s], x ∉ rowsText ((part.write c).map (·.row)) :=
    List.forall_mem_singleton.mpr h
  cases s with
  | compound => exact hself
  | simple line =>
    rw [Bootstrap.splitStatement]
    split
    · obtain ⟨hleading, hmargin, hbody, hblank, hcomment, hend⟩ := not_mem_simple_iff.mp h
      have hcontent := not_mem_writeAll_content hbody
      have hfuture := not_mem_unseparated hx fun s hs =>
        hcontent s ((List.takeWhile_prefix Bootstrap.isFutureSmall).subset hs)
      have hother := not_mem_unseparated hx fun s hs =>
        hcontent s ((List.dropWhile_sublist Bootstrap.isFutureSmall).subset hs)
      have hnil : x ∉ ([] : List Char) := List.not_mem_nil
      refine List.forall_mem_cons.mpr ⟨?_, List.forall_mem_singleton.mpr ?_⟩
      · exact not_mem_simple_iff.mpr ⟨hleading, hmargin, hfuture, hnil, hnil, hu⟩
      · exact not_mem_simple_iff.mpr ⟨hnil, hmargin, hother, hblank, hcomment, hend⟩
    · exact hself

theorem not_mem_write_split {m : Module} {c : Context} (hu : x ∉ c.usual.lineEnd.toList)
    (hx : x ∉ "; ".toList) (h : x ∉ rowsText ((m.write c).map (·.row))) :
    x ∉ rowsText (((Bootstrap.splitFutureImports m).write c).map (·.row)) := by
  simp only [Module.write, List.map_append, rowsText_append, List.mem_append, not_or,
    not_mem_writeAll_iff] at h ⊢
  refine ⟨⟨h.1.1, fun s hs => ?_⟩, h.2⟩
  obtain ⟨own, hown, hs⟩ := List.mem_flatMap.mp hs
  exact not_mem_splitStatement hu hx (h.1.2 own hown) s hs

/-! ### Writing -/

/-- Statements put into a module bring their own characters. -/
theorem not_mem_write_insert {t : Module} {c : Context} {block : List Statement} (n : Nat)
    (ht : x ∉ rowsText ((t.write c).map (·.row)))
    (hblock : x ∉ rowsText ((Statement.writeAll c block).map (·.row))) :
    x ∉ rowsText ((Module.write c
      { t with body := t.body.take n ++ block ++ t.body.drop n }).map (·.row)) := by
  simp only [Module.write, List.map_append, rowsText_append, List.mem_append, not_or,
    not_mem_writeAll_iff] at ht hblock ⊢
  refine ⟨⟨ht.1.1, fun s hs => ?_⟩, ht.2⟩
  obtain (hs | hs) | hs := by simpa only [List.mem_append] using hs
  · exact ht.1.2 s (List.mem_of_mem_take hs)
  · exact hblock s hs
  · exact ht.1.2 s (List.mem_of_mem_drop hs)

theorem not_mem_render {m : Module} (hu : x ∉ m.usual.lineEnd.toList)
    (h : x ∉ rowsText ((m.write { usual := m.usual }).map (·.row))) : x ∉ m.render.toList := by
  obtain hnil | ⟨lines, line, hlines⟩ := List.eq_nil_or_concat (m.write { usual := m.usual })
  · cases hclosed : m.closed <;> simp [Module.render, Module.text, hclosed, hnil, hu,
      WrittenLine.joinAll]
  · rw [List.concat_eq_append] at hlines
    cases hclosed : m.closed with
    | true =>
      have htext : m.render.toList = _ := Module.text_of_closed hclosed (by rw [hlines]; simp)
      rw [htext]
      exact h
    | false =>
      have htext : m.render.toList = _ := Module.text_of_open hclosed hlines
      rw [hlines, List.map_append, rowsText_append, List.mem_append, not_or] at h
      have hline : x ∉ chars line.text := by
        have hlast := h.2
        simp only [List.map_cons, rowsText_cons, List.mem_append, not_or] at hlast
        exact hlast.1
      rw [htext, List.mem_append, not_or]
      exact ⟨h.1, hline⟩

end Python

/-! ### Registrations -/

namespace Text

/-- A character that does not separate fields is in one of them. -/
theorem exists_field_of_mem {sep x : Char} {cs : List Char} (hx : x ∈ cs) (hne : x ≠ sep) :
    ∃ field ∈ fieldsList sep cs, x ∈ field := by
  induction cs with
  | nil => cases hx
  | cons c rest ih =>
    rw [fieldsList]
    obtain ⟨field, fields, hrest⟩ := List.exists_cons_of_ne_nil (fieldsList_ne_nil sep rest)
    rw [hrest] at ih ⊢
    obtain rfl | hx := List.mem_cons.mp hx
    · exact ⟨x :: field, by simp [hne], List.mem_cons_self⟩
    · obtain ⟨own, hown, hxown⟩ := ih hx
      split
      · exact ⟨own, List.mem_cons_of_mem _ hown, hxown⟩
      · obtain rfl | hown := List.mem_cons.mp hown
        · exact ⟨c :: own, List.mem_cons_self, List.mem_cons_of_mem c hxown⟩
        · exact ⟨own, List.mem_cons_of_mem _ hown, hxown⟩

/-- A path of identifiers has identifier characters and dots. -/
theorem not_mem_of_fields {path : String} {x : Char} (hx : isIdentifierPart x = false)
    (hdot : x ≠ '.') (h : ∀ part ∈ fields '.' path, isIdentifier part = true) :
    x ∉ path.toList := by
  intro hmem
  obtain ⟨field, hfield, hxfield⟩ := exists_field_of_mem hmem hdot
  have hid := h (String.ofList field) (List.mem_map_of_mem hfield)
  exact not_mem_of_isIdentifier hid hx (by rwa [String.toList_ofList])

end Text

namespace Registration

open LocaleRegistrar.Python
open LocaleRegistrar.Bootstrap
open Python.Layout (context)
open Python.Lexeme (rowsText)

variable {r : Request} {available : List String} {code : String} {o : Outcome}

theorem not_mem_wording {settings : Settings} {locale : String} (h : NamesValid settings locale) :
    ∀ line ∈ wording settings locale, '\r' ∉ line.toList := by
  have hpart : Text.isIdentifierPart '\r' = false := by decide +kernel
  have hpackage := Text.not_mem_of_fields hpart (by decide) h.package
  have hmodule := Text.not_mem_of_fields hpart (by decide) h.module
  have hregistry := Text.not_mem_of_fields hpart (by decide) h.registry
  have hsymbol := Text.not_mem_of_isIdentifier h.symbol hpart
  have hfunction := Text.not_mem_of_isIdentifier h.function hpart
  simp [wording, hpackage, hmodule, hregistry, hsymbol, hfunction]

/-- The registration lines have no carriage return that is not in a line end. -/
theorem Planned.not_mem_write {m : Python.Module} {edits : List Edit}
    {resolution : Locale.Resolution} {ss : List Statement}
    (h : Planned r available m edits resolution ss) {u : Usual} (hu : '\r' ∉ u.lineEnd.toList) :
    '\r' ∉ rowsText
      ((Statement.writeAll (context u []) (edits.map (·.statement))).map (·.row)) := by
  have hlines := not_mem_wording (statements_isOk_iff.mp ⟨ss, h.built⟩)
  rw [← toList_joinAll, joinAll_writeAll h.worded rfl, String.toList_join]
  simp only [List.mem_flatMap, List.mem_map, not_exists, not_and]
  rintro text ⟨line, hline, rfl⟩
  obtain ⟨own, hown, hline⟩ := List.mem_flatten.mp hline
  obtain rfl := List.eq_of_mem_replicate hown
  rw [String.toList_append, List.mem_append, not_or]
  exact ⟨hlines line hline, hu⟩

/-- A run makes no carriage return. -/
theorem not_mem_run (h : r.run available code = .ok o) (hcode : '\r' ∉ code.toList) :
    '\r' ∉ o.code.toList := by
  cases hsuccess : o.success with
  | false =>
    obtain ⟨error, rfl⟩ := run_failed h hsuccess
    exact hcode
  | true =>
    cases hchanged : o.changed with
    | false =>
      rw [(run_unchanged h hsuccess hchanged).1]
      exact hcode
    | true =>
      obtain ⟨m, edits, resolution, ss, hm, hp, rfl⟩ := run_changed h hchanged
      have hu : '\r' ∉ m.usual.lineEnd.toList := by
        rw [(parseModule_rows hm).1]
        exact not_mem_usualLineEnd (not_mem_dropMark hcode)
      have hread := not_mem_write hm hu (by decide) hcode
      have hsplit := not_mem_write_split (c := context m.usual []) hu (by decide) hread
      rw [Request.outcome, hp.apply_eq]
      exact not_mem_render hu (not_mem_write_insert _ hsplit (hp.not_mem_write hu))

end Registration

end LocaleRegistrar
