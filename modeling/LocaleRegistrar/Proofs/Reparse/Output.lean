import LocaleRegistrar.Proofs.Reparse.Insertion
import LocaleRegistrar.Proofs.Reparse.Text
import LocaleRegistrar.Proofs.TextInsertion

/-!
Whether the output of a run is a module again. The lines of the registrations are put between the
lines of two parts of the module, each of which can still be read, so all depends on the names in the
registration and on how the text ends.
-/

namespace LocaleRegistrar

namespace Python.Grammar

open Layout (context)

/-! ### Cutting joined lines in two -/

/-- What has been joined further down does not matter to a line. -/
theorem Joined.Step.append {j k : Joined} {r : Reading} (h : j.Step r k)
    (after : List Statement) :
    Joined.Step ⟨j.pending, j.done ++ after⟩ r ⟨k.pending, k.done ++ after⟩ := by
  cases h with
  | simple line hpending => exact .simple line hpending
  | decorator d s t rest hpending hdone ht =>
    exact .decorator d s t (rest ++ after) hpending (by simp [hdone]) ht
  | continued leading header suite hrole => exact .continued leading header suite hrole
  | alternative leading header suite hrole hcompletes =>
    exact .alternative leading header suite hrole hcompletes
  | compound leading header suite hcontinues hrole hcompletes =>
    exact .compound leading header suite hcontinues hrole hcompletes

theorem joinLines_append {first second : List Reading} {j : Joined} {after : List Statement}
    (hfirst : joinLines first = some j) (hsecond : joinLines second = some ⟨[], after⟩) :
    joinLines (first ++ second) = some ⟨j.pending, j.done ++ after⟩ := by
  induction first generalizing j with
  | nil =>
    cases hfirst
    exact hsecond
  | cons r rest ih =>
    obtain ⟨k, hk, hadd⟩ := Option.bind_eq_some_iff.mp hfirst
    refine Option.bind_eq_some_iff.mpr ⟨_, ih hk, ?_⟩
    exact Joined.add_eq_some_iff.mpr ((Joined.add_eq_some_iff.mp hadd).append after)

theorem statements_append {first second : List Reading} {before after : List Statement}
    (hfirst : statements first = some before) (hsecond : statements second = some after) :
    statements (first ++ second) = some (before ++ after) := by
  rw [statements_eq_some_iff] at hfirst hsecond ⊢
  exact joinLines_append hfirst hsecond

/-- The lines that have been joined to two lists of statements are those of the first and those of
the second. Clauses that are still pending belong to the first. -/
theorem joinLines_cut {readings : List Reading} {j : Joined} {before after : List Statement}
    (h : joinLines readings = some j) (hdone : j.done = before ++ after) :
    ∃ first second, readings = first ++ second ∧
      joinLines first = some ⟨j.pending, before⟩ ∧ joinLines second = some ⟨[], after⟩ := by
  induction readings generalizing j before with
  | nil =>
    cases h
    obtain ⟨rfl, rfl⟩ := List.append_eq_nil_iff.mp hdone.symm
    exact ⟨[], [], rfl, rfl, rfl⟩
  | cons r rest ih =>
    obtain ⟨k, hk, hadd⟩ := Option.bind_eq_some_iff.mp h
    -- with nothing before and nothing pending, all lines are those of the second list
    have hall (hpending : j.pending = []) (hbefore : before = []) :
        ∃ first second, r :: rest = first ++ second ∧
          joinLines first = some ⟨j.pending, before⟩ ∧ joinLines second = some ⟨[], after⟩ := by
      obtain ⟨pending, done⟩ := j
      subst hpending hbefore hdone
      exact ⟨[], r :: rest, rfl, rfl, h⟩
    -- otherwise the line is put in front of those of the first list
    have hcons {start : List Statement} (hstart : k.done = start ++ after)
        (hstep : Joined.Step ⟨k.pending, start⟩ r ⟨j.pending, before⟩) :
        ∃ first second, r :: rest = first ++ second ∧
          joinLines first = some ⟨j.pending, before⟩ ∧ joinLines second = some ⟨[], after⟩ := by
      obtain ⟨first, second, rfl, hfirst, hsecond⟩ := ih hk hstart
      exact ⟨r :: first, second, rfl, Option.bind_eq_some_iff.mpr
        ⟨_, hfirst, Joined.add_eq_some_iff.mpr hstep⟩, hsecond⟩
    cases Joined.add_eq_some_iff.mp hadd with
    | simple line hpending =>
      cases before with
      | nil => exact hall rfl rfl
      | cons s start =>
        obtain ⟨rfl, hstart⟩ := List.cons.inj hdone
        exact hcons hstart (.simple line hpending)
    | decorator d s t others hpending hs ht =>
      cases before with
      | nil => exact hall rfl rfl
      | cons s' start =>
        obtain ⟨rfl, rfl⟩ := List.cons.inj hdone
        exact @hcons (s :: start) hs (.decorator d s _ start hpending rfl ht)
    | continued leading header suite hrole =>
      exact hcons hdone (.continued leading header suite hrole)
    | alternative leading header suite hrole hcompletes =>
      exact hcons hdone (.alternative leading header suite hrole hcompletes)
    | compound leading header suite hcontinues hrole hcompletes =>
      cases before with
      | nil => exact hall rfl rfl
      | cons s start =>
        obtain ⟨rfl, hstart⟩ := List.cons.inj hdone
        exact hcons hstart (.compound leading header suite hcontinues hrole hcompletes)

theorem statements_cut {readings : List Reading} {before after : List Statement}
    (h : statements readings = some (before ++ after)) :
    ∃ first second, readings = first ++ second ∧
      statements first = some before ∧ statements second = some after := by
  simp only [statements_eq_some_iff] at h ⊢
  exact joinLines_cut h rfl

/-! ### Lines that are put in -/

/-- A line to be put in: its tokens, and the statement that they spell. -/
structure NewLine where
  tokens : List Token
  content : Tree
  spelt : Spelt tokens content

namespace NewLine

def statement (l : NewLine) : Statement := .simple (ownLine l.content)

def reading (l : NewLine) : Reading := .simple (ownLine l.content)

/-- The line can be read as a line of small statements. -/
def Reads (l : NewLine) : Prop := ∃ body, readContent false l.tokens = some (.smalls body)

theorem stands {l : NewLine} (h : l.Reads) {u : Usual} (hu : Lexeme.IsLineEnd u.lineEnd.toList) :
    Stands u (ownItem l.tokens) l.reading := by
  obtain ⟨body, hbody⟩ := h
  refine ⟨l.spelt.written hu, _, by simp only [ownItem, readItem, hbody]; rfl, ?_⟩
  rw [Content.kind_reading]
  rfl

end NewLine

theorem statements_newLines (lines : List NewLine) :
    statements (lines.map (·.reading)) = some (lines.map (·.statement)) := by
  rw [statements_eq_some_iff]
  induction lines with
  | nil => rfl
  | cons l lines ih =>
    exact Option.bind_eq_some_iff.mpr ⟨_, ih, Joined.add_eq_some_iff.mpr (.simple _ rfl)⟩

/-- Lines that are put in among others are joined to statements among theirs. -/
theorem statements_insert {first second : List Reading} {before after : List Statement}
    (hfirst : statements first = some before) (hsecond : statements second = some after)
    (lines : List NewLine) :
    statements (first ++ lines.map (·.reading) ++ second) =
      some (before ++ lines.map (·.statement) ++ after) :=
  statements_append (statements_append hfirst (statements_newLines lines)) hsecond

theorem forall₂_newLines {R : Item → Reading → Prop} {lines : List NewLine}
    (h : ∀ l ∈ lines, R (ownItem l.tokens) l.reading) :
    List.Forall₂ R (lines.map fun l => ownItem l.tokens) (lines.map (·.reading)) := by
  rw [List.forall₂_map_left_iff, List.forall₂_map_right_iff, List.forall₂_same]
  exact h

theorem not_readable_of_mem {items : List Item} {tokens : List Token}
    (hmem : ownItem tokens ∈ items) (h : readContent false tokens = none) : ¬ Readable items := by
  rintro ⟨u, readings, body, hread, -⟩
  clear body
  induction items generalizing readings with
  | nil => cases hmem
  | cons item items ih =>
    obtain ⟨r, hr, hread⟩ := Option.bind_eq_some_iff.mp hread
    obtain ⟨others, hothers, -⟩ := Option.bind_eq_some_iff.mp hread
    rcases List.mem_cons.mp hmem with rfl | hmem
    · simp [ownItem, readItem, h] at hr
    · exact ih hmem others hothers

theorem readable_of_stands {u : Usual} {items : List Item} {readings : List Reading}
    {body : List Statement} (h : List.Forall₂ (Stands u) items readings)
    (hbody : statements readings = some body) : Readable items := by
  obtain ⟨readings', hread, hkinds⟩ := readItems_of_stands h
  obtain ⟨body', hbody'⟩ := statements_alike hkinds.symm hbody
  exact ⟨u, readings', body', hread, hbody'⟩

end Python.Grammar

/-! ### Modules with lines put in -/

namespace Python

open Grammar
open Layout (context)

theorem writeAll_ne_nil_of_statements {c : Context} {readings : List Reading}
    {body : List Statement} (h : Grammar.statements readings = some body) (hne : body ≠ []) :
    Statement.writeAll c body ≠ [] := by
  have hbare := (joinLines_writes (c := c) (statements_eq_some_iff.mp h)).bare
  obtain ⟨s, rest, rfl⟩ := List.exists_cons_of_ne_nil hne
  have hs := Statement.write_bare_ne_nil c (hbare s (by simp))
  rw [Statement.writeAll, Statement.write_eq_leading]
  simp [hs]

/-- How the text ends depends on the last statements. -/
theorem Module.endsOpen_iff_of_append {m : Module} (before before' : List Statement)
    {after : List Statement}
    (hafter : Statement.writeAll { usual := m.usual } after ≠ []) :
    Module.EndsOpen { m with body := before ++ after } ↔
      Module.EndsOpen { m with body := before' ++ after } := by
  have hlast (start : List Statement) :
      (Module.write { usual := m.usual } { m with body := start ++ after }).getLast? =
        (Statement.writeAll { usual := m.usual } after ++
          m.footer.map (·.write { usual := m.usual })).getLast? := by
    simp only [Module.write, Statement.writeAll_append, List.append_assoc]
    rw [List.getLast?_append_of_ne_nil _ (by simp [hafter]),
      List.getLast?_append_of_ne_nil _ (by simp [hafter])]
  simp only [Module.EndsOpen, hlast]

/-- The split module with lines put in between two parts of its body. -/
def Module.withLines (m : Module) (before : List Statement) (lines : List NewLine)
    (after : List Statement) : Module :=
  { Bootstrap.splitFutureImports m with body := before ++ lines.map (·.statement) ++ after }

section

variable {text : String} {m : Module} {before after : List Statement}

/-- The items of a module with lines put in: those of the two parts stand for readings of their own,
and the new lines stand between them. -/
theorem withLines_items (h : parseModule text = some m)
    (hbody : (Bootstrap.splitFutureImports m).body = before ++ after) (hafter : after ≠ [])
    (lines : List NewLine) :
    ∃ first second readings others,
      List.Forall₂ (Stands m.usual) first readings ∧ List.Forall₂ (Stands m.usual) second others ∧
      Grammar.statements readings = some before ∧ Grammar.statements others = some after ∧
      ((parseModule (m.withLines before lines after).render).isSome ↔
        Readable (first ++ lines.map (fun l => ownItem l.tokens) ++ second) ∧
          ¬ (m.withLines before lines after).EndsOpen) := by
  obtain ⟨items, all, hm⟩ := parseModule_composed h
  obtain ⟨parts, hparts⟩ := stands_splitAll hm.lineEnd hm.sound hm.read
  have hsplit : Grammar.statements (all.flatMap splitReading) = some (before ++ after) := by
    rw [statements_split hm.body, ← hbody]
    rfl
  obtain ⟨readings, others, hall, hreadings, hothers⟩ := statements_cut hsplit
  rw [hall] at hparts
  have hfirst := List.forall₂_take_append _ _ _ hparts
  have hsecond := List.forall₂_drop_append _ _ _ hparts
  refine ⟨_, _, readings, others, hfirst, hsecond, hreadings, hothers, ?_⟩
  have hlines : List.Forall₂ (Written m.usual) (lines.map fun l => ownItem l.tokens)
      (lines.map (·.reading)) := forall₂_newLines fun l _ => l.spelt.written hm.lineEnd
  have hwritten : List.Forall₂ (Written m.usual)
      (_ ++ lines.map (fun l => ownItem l.tokens) ++ _)
      (readings ++ lines.map (·.reading) ++ others) :=
    List.rel_append (List.rel_append (hfirst.imp fun _ _ hs => hs.toWritten) hlines)
      (hsecond.imp fun _ _ hs => hs.toWritten)
  have hstatements := statements_insert hreadings hothers lines
  refine parseModule_render_isSome_iff hm.header (sound_of_written hwritten) hm.footer ?_ ?_
  · intro hnil
    have hempty := (List.append_eq_nil_iff.mp hnil).2
    rw [hempty, List.forall₂_nil_left_iff] at hsecond
    rw [hsecond] at hothers
    exact hafter (Option.some.inj hothers).symm
  · have hrows := rowsAll_of_written hwritten
    rw [← statements_write hstatements] at hrows
    exact hrows.symm

theorem withLines_endsOpen_iff (h : parseModule text = some m)
    (hbody : (Bootstrap.splitFutureImports m).body = before ++ after) (hafter : after ≠ [])
    (lines : List NewLine) :
    (m.withLines before lines after).EndsOpen ↔ (Bootstrap.splitFutureImports m).EndsOpen := by
  obtain ⟨-, -, -, others, -, -, -, hothers, -⟩ := withLines_items h hbody hafter lines
  have hwrite := @writeAll_ne_nil_of_statements { usual := m.usual } _ _ hothers hafter
  have hmodule : Bootstrap.splitFutureImports m =
      { Bootstrap.splitFutureImports m with body := before ++ after } := by rw [← hbody]
  rw [hmodule, Module.withLines]
  exact Module.endsOpen_iff_of_append _ _ hwrite

/-- If the new lines can all be read, then all of the text can be read unless it ends open. -/
theorem parseModule_withLines_isSome_iff (h : parseModule text = some m)
    (hbody : (Bootstrap.splitFutureImports m).body = before ++ after) (hafter : after ≠ [])
    {lines : List NewLine} (hlines : ∀ l ∈ lines, l.Reads) :
    (parseModule (m.withLines before lines after).render).isSome ↔
      ¬ (Bootstrap.splitFutureImports m).EndsOpen := by
  obtain ⟨first, second, readings, others, hfirst, hsecond, hreadings, hothers, hiff⟩ :=
    withLines_items h hbody hafter lines
  obtain ⟨_, _, hm⟩ := parseModule_composed h
  have hnew : List.Forall₂ (Stands m.usual) (lines.map fun l => ownItem l.tokens)
      (lines.map (·.reading)) :=
    forall₂_newLines fun l hl => NewLine.stands (hlines l hl) hm.lineEnd
  have hreadable := readable_of_stands (List.rel_append (List.rel_append hfirst hnew) hsecond)
    (statements_insert hreadings hothers lines)
  rw [hiff, withLines_endsOpen_iff h hbody hafter]
  exact and_iff_right hreadable

/-- If one of the new lines cannot be read, then the text cannot be read. -/
theorem parseModule_withLines_eq_none (h : parseModule text = some m)
    (hbody : (Bootstrap.splitFutureImports m).body = before ++ after) (hafter : after ≠ [])
    {lines : List NewLine} {l : NewLine} (hl : l ∈ lines)
    (hnone : readContent false l.tokens = none) :
    parseModule (m.withLines before lines after).render = none := by
  obtain ⟨first, second, -, -, -, -, -, -, hiff⟩ := withLines_items h hbody hafter lines
  have hmem : ownItem l.tokens ∈ first ++ lines.map (fun l => ownItem l.tokens) ++ second := by
    simp only [List.mem_append, List.mem_map]
    exact .inl (.inr ⟨l, hl, rfl⟩)
  rw [← Option.not_isSome_iff_eq_none, hiff]
  exact fun hread => not_readable_of_mem hmem hnone hread.1

end

end Python

/-! ### Registrations and the output of a run -/

namespace Registration

open LocaleRegistrar.Python
open LocaleRegistrar.Python.Grammar (NewLine reserved readContent)
open LocaleRegistrar.Bootstrap

/-- No name that a registration is written with is a reserved word. -/
def Free (settings : Settings) (locale : String) : Prop :=
  (∀ v ∈ Text.fields '.' (settings.localesPackage ++ "." ++ Locale.moduleName locale),
      v ∉ reserved) ∧
    (∀ v ∈ Text.fields '.' settings.registryModule, v ∉ reserved) ∧
    settings.registerFunction ∉ reserved

/-- The symbol of a locale is no reserved word, as none starts with two underscores. -/
theorem symbol_not_reserved (locale : String) : Locale.symbol locale ∉ reserved := by
  have hreserved : ∀ w ∈ reserved, w.toList.take 2 ≠ ['_', '_'] := by decide
  intro hmem
  exact hreserved _ hmem (by simp [Locale.symbol])

/-- The lines of a registration can all be read if its names are free, and otherwise one of them
cannot be read. -/
theorem statements_newLines {settings : Settings} {locale : String} {ss : List Statement}
    (h : statements settings locale = .ok ss) :
    ∃ lines : List NewLine, ss = lines.map (·.statement) ∧
      (Free settings locale ∧ (∀ l ∈ lines, l.Reads) ∨
        ¬ Free settings locale ∧ ∃ l ∈ lines, readContent false l.tokens = none) := by
  obtain ⟨path, origin, hpath, horigin, hsymbol, hfunction, rfl⟩ := statements_eq_ok h
  have hsymbol := checkName_eq_ok_iff.mp hsymbol
  have hfunction := checkName_eq_ok_iff.mp hfunction
  have hpathNames := dottedNode_isOk_iff.mp ⟨path, hpath⟩
  have horiginNames := dottedNode_isOk_iff.mp ⟨origin, horigin⟩
  obtain ⟨w, names, hfields, hpieces⟩ := dottedNode_pieces hpath
  obtain ⟨w', names', hfields', hpieces'⟩ := dottedNode_pieces horigin
  rw [hfields] at hpathNames
  rw [hfields'] at horiginNames
  let first : NewLine := ⟨_, _, Grammar.spelt_import hpathNames hsymbol hpieces⟩
  let second : NewLine := ⟨_, _, Grammar.spelt_importFrom horiginNames hfunction hpieces'⟩
  let third : NewLine := ⟨_, _, Grammar.spelt_call hfunction hsymbol⟩
  refine ⟨[first, second, third], rfl, ?_⟩
  rw [Free, hfields, hfields']
  rcases Grammar.readIfFree_import hpathNames hsymbol (symbol_not_reserved locale) with
    ⟨hfree, hfirst⟩ | ⟨⟨v, hv, hclash⟩, hnone⟩
  · rcases Grammar.readIfFree_importFrom horiginNames hfunction with
      ⟨hfree', hsecond⟩ | ⟨⟨v, hv, hclash⟩, hnone⟩
    · obtain ⟨hfunctionFree, horiginFree⟩ := List.forall_mem_cons.mp hfree'
      have hthird := Grammar.readContent_call hfunction hfunctionFree hsymbol
        (symbol_not_reserved locale)
      refine .inl ⟨⟨hfree, horiginFree, hfunctionFree⟩, ?_⟩
      simp only [List.forall_mem_cons]
      exact ⟨hfirst, hsecond, hthird, by simp⟩
    · refine .inr ⟨fun hfree' => ?_, second, by simp, hnone⟩
      rcases List.mem_cons.mp hv with rfl | hv
      · exact hfree'.2.2 hclash
      · exact hfree'.2.1 v hv hclash
  · exact .inr ⟨fun hfree => hfree.1 v hv hclash, first, by simp, hnone⟩

/-- The module with planned edits put in can be read again if the names of the registration are free
and the split module does not end open. -/
theorem Planned.output_isSome_iff {r : Request} {available : List String} {code : String}
    {m : Python.Module} {edits : List Edit} {resolution : Locale.Resolution} {ss : List Statement}
    (hm : parseModule code = some m)
    (h : Planned r available (splitFutureImports m) edits resolution ss) :
    (parseModule (Request.outcome code (splitFutureImports m) edits).code).isSome ↔
      Free r.settings resolution.id ∧ ¬ (splitFutureImports m).EndsOpen := by
  obtain ⟨lines, hss, hlines⟩ := statements_newLines h.built
  let body := (splitFutureImports m).body
  let n := prologueLength body
  let block := (List.replicate (r.sites (splitFutureImports m)).length lines).flatten
  have hblock : edits.map (·.statement) = block.map (·.statement) := by
    rw [h.statements_eq, hss, List.map_flatten, List.map_replicate]
  have hcode : (Request.outcome code (splitFutureImports m) edits).code =
      (m.withLines (body.take n) block (body.drop n)).render := by
    rw [Request.outcome, h.apply_eq, hblock]
    rfl
  have hbody : (splitFutureImports m).body = body.take n ++ body.drop n :=
    (List.take_append_drop n body).symm
  have hafter : body.drop n ≠ [] := by
    simpa using h.anchor_lt
  have hmem (l : NewLine) : l ∈ block ↔ l ∈ lines := by
    have hsites : (r.sites (splitFutureImports m)).length ≠ 0 := by simpa using h.sites_ne_nil
    simp [block, hsites]
  rw [hcode]
  rcases hlines with ⟨hfree, hreads⟩ | ⟨hclash, l, hl, hnone⟩
  · rw [parseModule_withLines_isSome_iff hm hbody hafter fun l hl => hreads l ((hmem l).mp hl)]
    simp [hfree]
  · rw [parseModule_withLines_eq_none hm hbody hafter ((hmem l).mpr hl) hnone]
    simp [hclash]

/-- What keeps the output of a run that changes the text from being a module: a name in the
registration is a reserved word, or the split module ends open. -/
def Spoilt (r : Request) (available : List String) (code : String) : Prop :=
  ∃ m resolution, parseModule code = some m ∧ r.resolve available = .ok resolution ∧
    (¬ Free r.settings resolution.id ∨ (splitFutureImports m).EndsOpen)

/-- The output of a successful run is a module again exactly if nothing was put in or what was put
in is not spoilt. -/
theorem run_output_isSome_iff (r : Request) (available : List String) {code : String} {o : Outcome}
    (h : r.run available code = .ok o) (hsuccess : o.success = true) :
    (parseModule o.code).isSome ↔ (o.changed = true → ¬ Spoilt r available code) := by
  cases hchanged : o.changed with
  | false =>
    obtain ⟨hcode, hsome⟩ := run_unchanged h hsuccess hchanged
    simp [hcode, hsome]
  | true =>
    obtain ⟨m, edits, resolution, ss, hm, hp, rfl⟩ := run_changed h hchanged
    have hspoilt : Spoilt r available code ↔
        ¬ Free r.settings resolution.id ∨ (splitFutureImports m).EndsOpen := by
      constructor
      · rintro ⟨m', resolution', hm', hres', hcause⟩
        obtain rfl : m = m' := Option.some.inj (hm.symm.trans hm')
        obtain rfl : resolution = resolution' := Except.ok.inj (hp.resolved.symm.trans hres')
        exact hcause
      · exact fun hcause => ⟨m, resolution, hm, hp.resolved, hcause⟩
    rw [hp.output_isSome_iff hm, hspoilt]
    simp [not_or]

/-- A checked configuration can ask for a locale whose name is a reserved word, and a text can end
open. Both runs succeed, and neither output can be read. -/
theorem run_output_unreadable :
    (Configuration.check [("locale", .string "is"), ("entry_module", .string "app#App")] =
        .ok { locale := some "is", entryModule := some "app#App" } ∧
      Configuration.Config.request { locale := some "is", entryModule := some "app#App" } =
        .ok { entry := ⟨"app", "App"⟩, locale := "is" } ∧
      ∃ o, Request.run { entry := ⟨"app", "App"⟩, locale := "is" } ["is"]
          "start().bootstrapModule(App)\n" = .ok o ∧
        o.success = true ∧ o.changed = true ∧ parseModule o.code = none) ∧
      ∃ o, Request.run { entry := ⟨"app", "App"⟩, locale := "de" } ["de"]
          "start().bootstrapModule(App) \\\r\r" = .ok o ∧
        o.success = true ∧ o.changed = true ∧ parseModule o.code = none := by
  have hreserved : (match Request.run { entry := ⟨"app", "App"⟩, locale := "is" } ["is"]
      "start().bootstrapModule(App)\n" with
      | .ok o => (o.success, o.changed)
      | .error _ => (false, false)) = (true, true) := by decide +kernel
  have hopen : (match Request.run { entry := ⟨"app", "App"⟩, locale := "de" } ["de"]
      "start().bootstrapModule(App) \\\r\r" with
      | .ok o => (o.success, o.changed)
      | .error _ => (false, false)) = (true, true) := by decide +kernel
  refine ⟨⟨rfl, rfl, ?_⟩, ?_⟩
  · have hsome : (parseModule "start().bootstrapModule(App)\n").isSome := by decide +kernel
    obtain ⟨m, hm⟩ := Option.isSome_iff_exists.mp hsome
    have hspoilt : Spoilt { entry := ⟨"app", "App"⟩, locale := "is" } ["is"]
        "start().bootstrapModule(App)\n" := by
      refine ⟨m, .exact "is", hm, by decide +kernel, .inl fun hfree => ?_⟩
      exact hfree.1 "is" (by decide +kernel) (by decide)
    split at hreserved
    · next o ho =>
      obtain ⟨hsuccess, hchanged⟩ := Prod.mk.inj hreserved
      refine ⟨o, ho, hsuccess, hchanged, ?_⟩
      rw [← Option.not_isSome_iff_eq_none, run_output_isSome_iff _ _ ho hsuccess]
      exact fun hnot => hnot hchanged hspoilt
    · cases hreserved
  · have hlast : (parseModule "start().bootstrapModule(App) \\\r\r").map (fun m =>
        ((splitFutureImports m).closed,
          ((splitFutureImports m).write { usual := m.usual }).getLast?.map
            fun line => (chars line.text).getLast?)) = some (false, some (some '\r')) := by
      decide +kernel
    obtain ⟨m, hm, hends⟩ := Option.map_eq_some_iff.mp hlast
    obtain ⟨hclosed, hends⟩ := Prod.mk.inj hends
    obtain ⟨line, hline, hchar⟩ := Option.map_eq_some_iff.mp hends
    have hspoilt : Spoilt { entry := ⟨"app", "App"⟩, locale := "de" } ["de"]
        "start().bootstrapModule(App) \\\r\r" :=
      ⟨m, .exact "de", hm, by decide +kernel, .inr ⟨hclosed, line, hline, '\r', hchar, by decide⟩⟩
    split at hopen
    · next o ho =>
      obtain ⟨hsuccess, hchanged⟩ := Prod.mk.inj hopen
      refine ⟨o, ho, hsuccess, hchanged, ?_⟩
      rw [← Option.not_isSome_iff_eq_none, run_output_isSome_iff _ _ ho hsuccess]
      exact fun hnot => hnot hchanged hspoilt
    · cases hopen

end Registration

end LocaleRegistrar
