import LocaleRegistrar.Proofs.Spelling.Joining
import LocaleRegistrar.Proofs.Wording

/-! What a run does to the text of a module. It cuts the text of the split module in front of the
first statement after the prologue, before the comments and blank lines of that statement, and puts
the lines of the registrations in between. -/

namespace LocaleRegistrar

namespace Python

/-! ### The end of a module's text -/

/-- The text of the last lines of a module. Without a line end at the end of the module's text, the
last one is left out. -/
def Module.endText (m : Module) (lines : List WrittenLine) : String :=
  if m.closed then WrittenLine.joinAll lines
  else WrittenLine.joinAll lines.dropLast ++ String.join ((lines.getLast?.map (·.text)).getD [])

theorem Module.endText_append (m : Module) (lines : List WrittenLine) {last : List WrittenLine}
    (h : last ≠ []) : m.endText (lines ++ last) = WrittenLine.joinAll lines ++ m.endText last := by
  unfold Module.endText
  split
  · exact WrittenLine.joinAll_append lines last
  · rw [List.dropLast_append_of_ne_nil h, List.getLast?_append_of_ne_nil lines h,
      WrittenLine.joinAll_append, String.append_assoc]

theorem Module.text_eq_endText {m : Module} {c : Context} (h : m.write c ≠ []) :
    m.text c = m.endText (m.write c) := by
  simp [Module.text, Module.endText, h]

/-! ### Leading lines -/

/-- A statement is written after the lines before it that belong to it. -/
theorem Statement.write_eq_leading (c : Context) (s : Statement) :
    s.write c = s.leading.map (·.write c) ++ (s.withLeading []).write c := by
  cases s with
  | simple line => simp [Statement.write, Line.write, Statement.leading, Statement.withLeading]
  | compound => simp [Statement.write, Statement.leading, Statement.withLeading]

theorem Suite.write_ne_nil (c : Context) (start : List String) (suite : Suite) :
    suite.write c start ≠ [] := by
  cases suite <;> simp [Suite.write]

open Grammar (StartsBare) in
/-- A statement that starts with its first line has a line besides those before it. -/
theorem Statement.write_bare_ne_nil (c : Context) {s : Statement} (h : StartsBare s) :
    (s.withLeading []).write c ≠ [] := by
  match s, h with
  | .simple line, _ => simp [Statement.withLeading, Statement.write, Line.write]
  | .compound _ _ [] (.plain _ _ _ suite :: _), _ =>
    simp [Statement.withLeading, Statement.write, Clause.writeAll, Clause.write,
      Suite.write_ne_nil]
  | .compound _ _ (_ :: _) _, _ =>
    simp [Statement.withLeading, Statement.write, Decorator.write]

open Grammar (StartsBare) in
theorem parseModule_startsBare {text : String} {m : Module} (h : parseModule text = some m) :
    ∀ s ∈ m.body, StartsBare s := by
  obtain ⟨⟨body, footer, usual⟩, htext, h⟩ := Option.bind_eq_some_iff.mp h
  obtain ⟨layout, -, htext⟩ := Option.bind_eq_some_iff.mp htext
  obtain ⟨readings, -, htext⟩ := Option.bind_eq_some_iff.mp htext
  obtain ⟨body', hbody, htext⟩ := Option.bind_eq_some_iff.mp htext
  cases htext
  have hbare : ∀ s ∈ body, StartsBare s :=
    (Grammar.joinLines_writes (c := {}) (Grammar.statements_eq_some_iff.mp hbody)).bare
  cases body with
  | nil =>
    cases h
    simp
  | cons s rest =>
    cases h
    obtain ⟨hs, hrest⟩ := List.forall_mem_cons.mp hbare
    refine List.forall_mem_cons.mpr ⟨?_, hrest⟩
    match s, hs with
    | .simple line, _ => trivial
    | .compound _ _ [] (.plain .. :: _), hs => exact hs
    | .compound _ _ (_ :: _) _, hs => exact hs

/-- The lines before the first statement of a module that was read belong to the module. -/
theorem parseModule_leading {text : String} {m : Module} (h : parseModule text = some m) :
    ∀ s ∈ m.body.head?, s.leading = [] := by
  obtain ⟨⟨body, footer, usual⟩, -, h⟩ := Option.bind_eq_some_iff.mp h
  cases body with
  | nil =>
    cases h
    simp
  | cons s rest =>
    cases h
    cases s <;> simp [Statement.withLeading, Statement.leading]

end Python

namespace Bootstrap

open LocaleRegistrar.Python

/-- The lines before a statement stay before what it is split into. -/
theorem splitStatement_leading (s : Statement) :
    ∃ first rest, splitStatement s = first :: rest ∧ first.leading = s.leading := by
  cases s with
  | simple line =>
    rw [splitStatement]
    split
    · exact ⟨_, _, rfl, rfl⟩
    · exact ⟨_, _, rfl, rfl⟩
  | compound => exact ⟨_, _, rfl, rfl⟩

theorem splitFutureImports_leading {m : Python.Module} (h : ∀ s ∈ m.body.head?, s.leading = []) :
    ∀ s ∈ (splitFutureImports m).body.head?, s.leading = [] := by
  unfold splitFutureImports
  cases hbody : m.body with
  | nil => simp
  | cons s rest =>
    obtain ⟨first, others, hsplit, hleading⟩ := splitStatement_leading s
    have hs : s.leading = [] := h s (by simp [hbody])
    simp [hsplit, hleading, hs]

theorem splitFutureImports_startsBare {m : Python.Module}
    (h : ∀ s ∈ m.body, Grammar.StartsBare s) :
    ∀ s ∈ (splitFutureImports m).body, Grammar.StartsBare s := by
  intro s hs
  obtain ⟨whole, hwhole, hs⟩ := List.mem_flatMap.mp hs
  cases whole with
  | simple line =>
    rw [splitStatement] at hs
    split at hs
    · simp only [List.mem_cons, List.not_mem_nil, or_false] at hs
      rcases hs with rfl | rfl <;> trivial
    · obtain rfl := List.mem_singleton.mp hs
      trivial
  | compound =>
    obtain rfl := List.mem_singleton.mp hs
    exact h _ hwhole

end Bootstrap

namespace Registration

open LocaleRegistrar.Python
open LocaleRegistrar.Bootstrap

/-- Putting a block into the body of a module puts its lines into the text. -/
theorem text_of_block (m : Python.Module) (c : Context) (before block : List Statement)
    {anchor : Statement} (rest : List Statement) (hanchor : (anchor.withLeading []).write c ≠ []) :
    Module.text c { m with body := before ++ block ++ anchor :: rest } =
      WrittenLine.joinAll (m.header.map (·.write c) ++ Statement.writeAll c before) ++
        WrittenLine.joinAll (Statement.writeAll c block) ++
        (WrittenLine.joinAll (anchor.leading.map (·.write c)) ++
          m.endText ((anchor.withLeading []).write c ++ Statement.writeAll c rest ++
            m.footer.map (·.write c))) := by
  have hlines : Module.write c { m with body := before ++ block ++ anchor :: rest } =
      (m.header.map (·.write c) ++ Statement.writeAll c before) ++ Statement.writeAll c block ++
        anchor.leading.map (·.write c) ++
        ((anchor.withLeading []).write c ++ Statement.writeAll c rest ++
          m.footer.map (·.write c)) := by
    simp [Module.write, Statement.writeAll_append, Statement.writeAll,
      anchor.write_eq_leading c]
  have hlast : (anchor.withLeading []).write c ++ Statement.writeAll c rest ++
      m.footer.map (·.write c) ≠ [] := by simp [hanchor]
  rw [Module.text_eq_endText (by rw [hlines]; simp [hanchor]), hlines,
    Module.endText_append _ _ hlast, WrittenLine.joinAll_append, WrittenLine.joinAll_append,
    String.append_assoc]
  rfl

/-- A changed text is that of the split module, cut in front of the first statement after the
prologue, with the inserted lines in between, which register the locale once for each site. What
comes before the cut is the header and the prologue. What comes after it starts with the lines before
that statement that belong to it; the first statement of the module has none. -/
theorem run_inserts_text (r : Request) (available : List String) {code : String}
    {m : Python.Module} {o : Outcome} (hm : parseModule code = some m)
    (hrun : r.run available code = .ok o) (hchanged : o.changed = true) :
    let t := splitFutureImports m
    let c : Context := { usual := m.usual }
    (∃ resolution, r.resolve available = .ok resolution ∧ o.inserted =
      (List.replicate (r.sites t).length (wording r.settings resolution.id)).flatten) ∧
    ∃ n anchor rest before after, first? t = some n ∧ t.body.drop n = anchor :: rest ∧
      before = WrittenLine.joinAll
        (t.header.map (·.write c) ++ Statement.writeAll c (t.body.take n)) ∧
      after = WrittenLine.joinAll (anchor.leading.map (·.write c)) ++
        t.endText ((anchor.withLeading []).write c ++ Statement.writeAll c rest ++
          t.footer.map (·.write c)) ∧
      (n = 0 → anchor.leading = []) ∧
      before ++ after = t.render ∧
      o.code = before ++ String.join (o.inserted.map (· ++ m.usual.lineEnd)) ++ after := by
  intro t c
  obtain ⟨m', edits, resolution, ss, hm', hp, rfl⟩ := run_changed hrun hchanged
  obtain rfl : m = m' := Option.some.inj (hm.symm.trans hm')
  have hfirst : first? t = some (prologueLength t.body) := by simp [t, first?, hp.anchor_lt]
  obtain ⟨anchor, rest, hdrop⟩ := List.exists_cons_of_ne_nil
    (mt List.drop_eq_nil_iff.mp (Nat.not_le.mpr hp.anchor_lt))
  change t.body.drop (prologueLength t.body) = anchor :: rest at hdrop
  have hcut : t.body.take (prologueLength t.body) ++ anchor :: rest = t.body := by
    rw [← hdrop, List.take_append_drop]
  have hmem : anchor ∈ t.body := by
    rw [← hcut]
    simp
  have hanchor : (anchor.withLeading []).write c ≠ [] :=
    Statement.write_bare_ne_nil c
      (splitFutureImports_startsBare (parseModule_startsBare hm) anchor hmem)
  have hinserted : (Request.outcome code t edits).inserted =
      (List.replicate (r.sites t).length (wording r.settings resolution.id)).flatten := by
    rw [Request.outcome, hp.apply_eq, ← map_trim_alone hp.worded, List.map_map]
    rfl
  have htext (block : List Statement) := text_of_block t c (t.body.take (prologueLength t.body))
    block rest hanchor
  refine ⟨⟨resolution, hp.resolved, hinserted⟩, _, anchor, rest, _, _, hfirst, hdrop, rfl, rfl,
    fun hzero => ?_, ?_, ?_⟩
  · -- the first statement of a module that was read has no lines before it
    refine splitFutureImports_leading (parseModule_leading hm) anchor ?_
    rw [hzero, List.drop_zero] at hdrop
    change anchor ∈ t.body.head?
    simp [hdrop]
  · have hself := htext []
    have hnone : WrittenLine.joinAll (Statement.writeAll c []) = "" := rfl
    rw [List.append_nil, hcut, hnone, String.append_empty] at hself
    exact hself.symm
  · rw [hinserted, ← joinAll_writeAll hp.worded (c := c) rfl, ← htext, Request.outcome,
      hp.apply_eq, ← hdrop]
    rfl

/-- Three lines go between a future import and the comment before the next statement, with the line
ends of the text, which has none at its end. -/
theorem run_inserts_text_before_comment :
    ∃ m o, parseModule "from __future__ import a\r\n# start\r\nf().bootstrapModule(App)" = some m ∧
      Request.run { entry := ⟨"app", "App"⟩, locale := "de" } ["de"]
        "from __future__ import a\r\n# start\r\nf().bootstrapModule(App)" = .ok o ∧
      o.changed = true ∧ o.inserted.length = 3 ∧ m.usual.lineEnd = "\r\n" ∧ m.closed = false ∧
      ∃ n anchor rest before after, first? (splitFutureImports m) = some n ∧
        (splitFutureImports m).body.drop n = anchor :: rest ∧
        before ++ after = (splitFutureImports m).render ∧
        o.code = before ++ String.join (o.inserted.map (· ++ m.usual.lineEnd)) ++ after := by
  have hparse : (parseModule
      "from __future__ import a\r\n# start\r\nf().bootstrapModule(App)").map
        (fun m => (m.usual.lineEnd, m.closed)) = some ("\r\n", false) := by decide +kernel
  have hrun : (match Request.run { entry := ⟨"app", "App"⟩, locale := "de" } ["de"]
      "from __future__ import a\r\n# start\r\nf().bootstrapModule(App)" with
      | .ok o => (o.changed, o.inserted.length)
      | .error _ => (false, 0)) = (true, 3) := by decide +kernel
  obtain ⟨m, hm, hends⟩ := Option.map_eq_some_iff.mp hparse
  obtain ⟨hend, hclosed⟩ := Prod.mk.inj hends
  split at hrun
  · next o ho =>
    obtain ⟨hchanged, hlength⟩ := Prod.mk.inj hrun
    obtain ⟨-, n, anchor, rest, before, after, hfirst, hdrop, -, -, -, htext, hcode⟩ :=
      run_inserts_text _ _ hm ho hchanged
    exact ⟨m, o, hm, ho, hchanged, hlength, hend, hclosed, n, anchor, rest, before, after, hfirst,
      hdrop, htext, hcode⟩
  · cases hrun

end Registration

end LocaleRegistrar
