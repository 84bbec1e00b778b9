import LocaleRegistrar.Proofs.Spelling.Reading

/-!
Joining the readings of a block to statements keeps what they write, and so a block is written as
its lines were read.
-/

namespace LocaleRegistrar.Python.Grammar

/-- What adding a reading in front of joined lines can do. -/
inductive Joined.Step (j : Joined) : Reading → Joined → Prop
  | simple (line : Line) (hpending : j.pending = []) :
      Step j (.simple line) ⟨[], .simple line :: j.done⟩
  | decorator (d : Decorator) (s t : Statement) (rest : List Statement) (hpending : j.pending = [])
      (hdone : j.done = s :: rest) (ht : decorate d s = some t) :
      Step j (.decorator d) ⟨[], t :: rest⟩
  | continued (leading : List BlankLine) (header : Header) (suite : Suite)
      (hrole : header.role.continues = true) :
      Step j (.clause leading header suite)
        ⟨(header.role, .plain leading header.keyword header.parts suite) :: j.pending, j.done⟩
  | alternative (leading : List BlankLine) (header : Header) (suite : Suite)
      (hrole : header.role = .alternative)
      (hcompletes : completes .alternative (j.pending.map (·.1)) = true) :
      Step j (.clause leading header suite)
        ⟨[(.alternative, .alternative leading
          (.plain [] header.keyword header.parts suite :: j.pending.map (·.2)))], j.done⟩
  | compound (leading : List BlankLine) (header : Header) (suite : Suite)
      (hcontinues : header.role.continues = false) (hrole : header.role ≠ .alternative)
      (hcompletes : completes header.role (j.pending.map (·.1)) = true) :
      Step j (.clause leading header suite)
        ⟨[], .compound header.role.compoundKind leading []
          (.plain [] header.keyword header.parts suite :: j.pending.map (·.2)) :: j.done⟩

theorem Joined.add_eq_some_iff {j k : Joined} {r : Reading} :
    j.add r = some k ↔ j.Step r k := by
  constructor
  · intro h
    cases r with
    | simple line =>
      simp only [Joined.add] at h
      split at h
      · cases h
        exact .simple line (List.isEmpty_iff.mp ‹_›)
      · cases h
    | decorator d =>
      simp only [Joined.add] at h
      split at h
      · next s rest hpending hdone =>
        obtain ⟨t, ht, rfl⟩ := Option.map_eq_some_iff.mp h
        exact .decorator d s t rest hpending hdone ht
      · cases h
    | clause leading header suite =>
      simp only [Joined.add] at h
      split at h
      · cases h
        exact .continued leading header suite ‹_›
      split at h
      · cases h
      split at h
      · cases h
        exact .alternative leading header suite ‹_› (by simp_all)
      · cases h
        exact .compound leading header suite (by simp_all) ‹_› (by simp_all)
  · intro h
    cases h with
    | simple line hpending => simp [Joined.add, hpending]
    | decorator d s t rest hpending hdone ht => simp [Joined.add, hpending, hdone, ht]
    | continued leading header suite hrole => simp [Joined.add, hrole]
    | alternative leading header suite hrole hcompletes =>
      simp [Joined.add, hrole, hcompletes, Role.continues]
    | compound leading header suite hcontinues hrole hcompletes =>
      simp [Joined.add, hcontinues, hrole, hcompletes]

/-! ### Writing -/

/-- No blank lines stand between the lines that belong to the statement and its first line. -/
def StartsBare : Statement → Prop
  | .simple _ => True
  | .compound _ _ [] (.plain leading _ _ _ :: _) => leading = []
  | .compound _ _ [] _ => False
  | .compound _ _ (d :: _) _ => d.leading = []

theorem decorate_write {d : Decorator} {s t : Statement} (c : Context) (h : decorate d s = some t)
    (hs : StartsBare s) : StartsBare t ∧ t.write c = d.write c ++ s.write c := by
  unfold decorate at h
  split at h
  · split at h
    · dsimp only at h
      split at h
      · cases h
        simp only [StartsBare] at hs
        subst hs
        refine ⟨rfl, ?_⟩
        simp [Statement.write, Decorator.write, Clause.writeAll, Clause.write]
      · cases h
        simp only [StartsBare] at hs
        refine ⟨rfl, ?_⟩
        simp [Statement.write, Decorator.write, hs]
      · cases h
    · cases h
  · cases h

theorem clause_writeAll_eq (c : Context) (clauses : List Clause) :
    Clause.writeAll c "" clauses = clauses.flatMap (·.write c "") := by
  induction clauses with
  | nil => simp [Clause.writeAll]
  | cons clause rest ih => simp [Clause.writeAll, ih]

theorem Header.lead_of_ne {header : Header} (h : header.role ≠ .alternative) :
    header.lead = "" := by
  simp [Header.lead, h]

/-- What has been joined is written as the readings are. -/
structure Joined.Writes (c : Context) (readings : List Reading) (j : Joined) : Prop where
  bare : ∀ s ∈ j.done, StartsBare s
  lines : readings.flatMap (·.write c) =
    j.pending.flatMap (·.2.write c "") ++ Statement.writeAll c j.done

theorem Joined.Writes.step {c : Context} {readings : List Reading} {j k : Joined} {r : Reading}
    (hj : j.Writes c readings) (h : j.Step r k) : k.Writes c (r :: readings) := by
  cases h with
  | simple line hpending =>
    refine ⟨?_, ?_⟩
    · simpa [StartsBare] using hj.bare
    · rw [List.flatMap_cons, hj.lines]
      simp [Reading.write, Statement.writeAll, Statement.write, hpending]
  | decorator d s t rest hpending hdone ht =>
    have hbare := hj.bare
    rw [hdone] at hbare
    obtain ⟨htbare, hwrite⟩ := decorate_write c ht (hbare s (by simp))
    refine ⟨?_, ?_⟩
    · intro u hu
      rcases List.mem_cons.mp hu with rfl | hu
      · exact htbare
      · exact hbare u (by simp [hu])
    · rw [List.flatMap_cons, hj.lines]
      simp [Reading.write, Statement.writeAll, hpending, hdone, hwrite]
  | continued leading header suite hrole =>
    have hlead : header.lead = "" := by
      refine Header.lead_of_ne fun h => ?_
      simp [h, Role.continues] at hrole
    refine ⟨hj.bare, ?_⟩
    rw [List.flatMap_cons, hj.lines]
    simp [Reading.write, Clause.write, hlead]
  | alternative leading header suite hrole hcompletes =>
    have hlead : header.lead = "el" := by simp [Header.lead, hrole]
    refine ⟨hj.bare, ?_⟩
    rw [List.flatMap_cons, hj.lines]
    simp [Reading.write, Clause.write, Clause.writeAll, clause_writeAll_eq, hlead,
      List.flatMap_map]
  | compound leading header suite hcontinues hrole hcompletes =>
    refine ⟨?_, ?_⟩
    · simpa [StartsBare] using hj.bare
    · rw [List.flatMap_cons, hj.lines]
      simp [Reading.write, Statement.writeAll, Statement.write, Clause.write, Clause.writeAll,
        clause_writeAll_eq, Header.lead_of_ne hrole, List.flatMap_map]

theorem joinLines_writes {c : Context} {readings : List Reading} {j : Joined}
    (h : joinLines readings = some j) : j.Writes c readings := by
  induction readings generalizing j with
  | nil =>
    cases h
    exact ⟨by simp, by simp [Statement.writeAll]⟩
  | cons r rest ih =>
    obtain ⟨k, hk, hadd⟩ := Option.bind_eq_some_iff.mp h
    exact (ih hk).step (Joined.add_eq_some_iff.mp hadd)

theorem statements_eq_some_iff {readings : List Reading} {body : List Statement} :
    statements readings = some body ↔ joinLines readings = some ⟨[], body⟩ := by
  constructor
  · intro h
    obtain ⟨⟨pending, done⟩, hj, h⟩ := Option.bind_eq_some_iff.mp h
    split at h
    · next hpending =>
      cases h
      obtain rfl : pending = [] := List.isEmpty_iff.mp hpending
      exact hj
    · cases h
  · intro h
    simp [statements, h]

theorem statements_write {c : Context} {readings : List Reading} {body : List Statement}
    (h : statements readings = some body) :
    Statement.writeAll c body = readings.flatMap (·.write c) := by
  have hw := joinLines_writes (c := c) (statements_eq_some_iff.mp h)
  simpa using hw.lines.symm

/-! ### Items -/

mutual

/-- A line and its block are written as they were read. -/
theorem readItem_rows (c : Context) (choices : Bool) :
    (item : Item) → (r : Reading) → readItem c.usual choices item = some r →
      (r.write c).map (·.row) = item.rows c
  | .plain line, r, h => by
    obtain ⟨content, hcontent, h⟩ := Option.bind_eq_some_iff.mp h
    cases h
    exact readContent_rows c line.leading line.tail hcontent
  | .headed line indent items footer, r, h => by
    obtain ⟨header, hheader, h⟩ := Option.bind_eq_some_iff.mp h
    obtain ⟨readings, hreadings, h⟩ := Option.bind_eq_some_iff.mp h
    obtain ⟨body, hbody, h⟩ := Option.bind_eq_some_iff.mp h
    cases h
    have hspell := onTokens_spells (fun r hr => Rules.spells_header hr choices true) hheader
    let inner : Context := { c with margin := c.margin ++ indent }
    have hinner : c.deeper (if indent = c.usual.indent then none else some indent) = inner := by
      by_cases h : indent = c.usual.indent <;> simp [Context.deeper, h, inner]
    have hitems := readItems_rows inner _ items readings hreadings
    rw [← statements_write hbody] at hitems
    simp [Reading.write, Suite.write, hinner, Item.rows, LogicalLine.rows, blankRows, hspell,
      Header.pieces, Header.partsText_relativeTo, Function.comp_def, ← hitems, inner]

theorem readItems_rows (c : Context) (choices : Bool) :
    (items : List Item) → (readings : List Reading) →
      readItems c.usual choices items = some readings →
      (readings.flatMap (·.write c)).map (·.row) = Item.rowsAll c items
  | [], readings, h => by
    cases h
    rfl
  | item :: rest, readings, h => by
    obtain ⟨r, hr, h⟩ := Option.bind_eq_some_iff.mp h
    obtain ⟨others, hothers, h⟩ := Option.bind_eq_some_iff.mp h
    cases h
    rw [List.flatMap_cons, List.map_append, readItem_rows c choices item r hr,
      readItems_rows c choices rest others hothers, Item.rowsAll]

end

end LocaleRegistrar.Python.Grammar
