import LocaleRegistrar.Proofs.Completion

/-! Passes over a module. A pass plans its edits and puts them in, which always succeeds once they are
planned. What it puts in has no sites and leaves the prologue as it is, so passes made one after the
other find the sites of the module that they started from, and each puts its block in front of those
before it. -/

namespace LocaleRegistrar.Registration

open LocaleRegistrar.Python
open LocaleRegistrar.Bootstrap

/-! ### Asking for the available locales -/

/-- Answers with the available locales and counts how often it was asked. -/
def counted (available : List String) : StateM Nat (List String) := do
  modify (· + 1)
  return available

/-- A plan asks for the available locales as often as `enumerations` says. -/
theorem planAsking_counted (r : Request) (available : List String) (m : Python.Module) (n : Nat) :
    (r.planAsking (counted available) m).run n =
      (r.plan available m, n + r.enumerations m) := by
  unfold Request.planAsking Request.enumerations
  rw [Request.plan_eq]
  split
  · rfl
  · rfl

/-! ### What planned edits are -/

theorem order_of_editsAt {anchor : Option Nat} {start : Int} {ss : List Statement} {i : Nat}
    {e : Edit} (h : (editsAt anchor start ss)[i]? = some e) : e.order = start + i := by
  induction ss generalizing start i with
  | nil => simp [editsAt] at h
  | cons s ss ih =>
    rw [editsAt] at h
    cases i with
    | zero =>
      obtain rfl : _ = e := by simpa using h
      simp
    | succ i =>
      have hrest := ih (by simpa using h)
      omega

theorem splice_nil (i : Nat) (body : List Statement) : splice [] i body = body := by
  induction body generalizing i with
  | nil => simp [splice, statementsAt]
  | cons s rest ih => simp [splice, statementsAt, ih]

section

variable {r : Request} {available : List String} {m : Python.Module} {edits : List Edit}
  {resolution : Locale.Resolution} {ss : List Statement}

theorem Planned.length_edits (h : Planned r available m edits resolution ss) :
    edits.length = 3 * (r.sites m).length := by
  obtain ⟨path, origin, -, -, -, -, rfl⟩ := statements_eq_ok h.built
  rw [← List.length_map (f := (·.statement)), h.statements_eq]
  simp [Nat.mul_comm]

theorem Planned.edits_ne_nil (h : Planned r available m edits resolution ss) : edits ≠ [] := by
  have hlength := h.length_edits
  have hsites := List.length_pos_of_ne_nil h.sites_ne_nil
  rintro rfl
  simp only [List.length_nil] at hlength
  omega

end

/-- A plan has an edit exactly if there is a site. Then the available locales were asked for once,
and for each site the plan imports the data of the locale, imports the registering function and calls
it. Its orders count the edits, and all edits have one anchor, which is a statement of the module, so
that they can be put in. -/
theorem plan_applies (r : Request) (available : List String) (m : Python.Module)
    {edits : List Edit} (h : r.plan available m = .ok edits) :
    (edits = [] ↔ r.sites m = []) ∧
      (r.sites m ≠ [] → (r.planAsking (counted available) m).run 0 = (.ok edits, 1) ∧
        (∃ n, n < m.body.length ∧ first? m = some n ∧ ∀ e ∈ edits, e.anchor = some n) ∧
        ∃ resolution path origin, r.resolve available = .ok resolution ∧
          dottedNode (r.settings.localesPackage ++ "." ++ Locale.moduleName resolution.id) =
            .ok path ∧
          dottedNode r.settings.registryModule = .ok origin ∧
          edits.map (·.statement) = (List.replicate (r.sites m).length
            [importStatement path (.ofName (Locale.symbol resolution.id)),
             importFromStatement origin (.ofName r.settings.registerFunction),
             callStatement (.ofName r.settings.registerFunction)
               (.ofName (Locale.symbol resolution.id))]).flatten) ∧
      edits.length = 3 * (r.sites m).length ∧
      (∀ (i : Nat) (e : Edit), edits[i]? = some e → e.order = i) ∧
      ∃ edited, apply m edits = .ok edited ∧
        edited.body.length = m.body.length + 3 * (r.sites m).length := by
  obtain ⟨hnone, rfl⟩ | ⟨resolution, ss, hp⟩ := plan_ok_cases h
  · exact ⟨by simp [hnone], fun hsites => absurd hnone hsites, by simp [hnone], by simp, m,
      by simp [apply, splice_nil], by simp [hnone]⟩
  · have hasked : (r.planAsking (counted available) m).run 0 = (.ok edits, 1) := by
      rw [planAsking_counted, h]
      simp [Request.enumerations, hp.sites_ne_nil]
    have hanchor : ∃ n, n < m.body.length ∧ first? m = some n ∧ ∀ e ∈ edits, e.anchor = some n := by
      refine ⟨_, hp.anchor_lt, by simp [first?, hp.anchor_lt], fun e he => ?_⟩
      rw [hp.edits_eq] at he
      exact (anchor_of_mem_editsAt he).1
    obtain ⟨path, origin, hpath, horigin, -, -, hss⟩ := statements_eq_ok hp.built
    refine ⟨by simp [hp.edits_ne_nil, hp.sites_ne_nil], fun _ => ⟨hasked, hanchor, resolution, path,
      origin, hp.resolved, hpath, horigin, ?_⟩, hp.length_edits, fun i e hi => ?_, _, hp.apply_eq, ?_⟩
    · rw [hp.statements_eq, hss]
    · rw [hp.edits_eq] at hi
      simpa using order_of_editsAt hi
    · have hlength := hp.length_edits
      have hlt := hp.anchor_lt
      simp only [List.length_append, List.length_take, List.length_map, List.length_drop]
      omega

/-- Six edits go into a module of two statements that both have a site. -/
theorem plan_applies_two_sites :
    ∃ m edits, parseModule "def f():\n  a().bootstrapModule(App)\nb().bootstrapModule(App)\n" =
        some m ∧ m.body.length = 2 ∧
      Request.plan { entry := ⟨"app", "App"⟩, locale := "de" } ["de"] m = .ok edits ∧
      edits.length = 6 ∧ ∃ edited, apply m edits = .ok edited ∧ edited.body.length = 8 := by
  have hplan : ((parseModule
      "def f():\n  a().bootstrapModule(App)\nb().bootstrapModule(App)\n").map fun m =>
        (m.body.length, (Bootstrap.sites "App" m).length,
          match Request.plan { entry := ⟨"app", "App"⟩, locale := "de" } ["de"] m with
          | .ok _ => true
          | .error _ => false)) = some (2, 2, true) := by decide +kernel
  obtain ⟨m, hm, hcounts⟩ := Option.map_eq_some_iff.mp hplan
  obtain ⟨hbody, hrest⟩ := Prod.mk.inj hcounts
  obtain ⟨hsites, hplan⟩ := Prod.mk.inj hrest
  split at hplan
  · next edits hedits =>
    obtain ⟨-, -, hlength, -, edited, happly, hedited⟩ := plan_applies _ _ m hedits
    have hcount : (Request.sites { entry := ⟨"app", "App"⟩, locale := "de" } m).length = 2 := hsites
    rw [hcount] at hlength hedited
    exact ⟨m, edits, hm, hbody, hedits, hlength, edited, happly, by omega⟩
  · cases hplan

/-! ### One pass -/

/-- What a pass is about: the request and the locales that are available to it. -/
structure Pass where
  request : Request
  available : List String

/-- Makes a pass over a module. The result is what is put in and the module with it. -/
def Pass.make (p : Pass) (m : Python.Module) : Option (List Statement × Python.Module) :=
  match p.request.plan p.available m with
  | .error _ => none
  | .ok edits =>
    match apply m edits with
    | .error _ => none
    | .ok edited => some (edits.map (·.statement), edited)

/-- The block of a pass for `k` sites: the statements that register its locale, `k` times. -/
def Pass.Registers (p : Pass) (k : Nat) (block : List Statement) : Prop :=
  block.length = 3 * k ∧ (k ≠ 0 → ∃ resolution ss, p.request.resolve p.available = .ok resolution ∧
    statements p.request.settings resolution.id = .ok ss ∧ block = (List.replicate k ss).flatten)

/-- The statements do not go on with the prologue that they are put after. -/
def LeavesPrologue (block : List Statement) : Prop :=
  ∀ s ∈ block.head?, isDocstring s = false ∧ isFutureImport s = false

theorem prologueLength_insert (body : List Statement) {block : List Statement}
    (h : LeavesPrologue block) :
    prologueLength (body.take (prologueLength body) ++ block ++ body.drop (prologueLength body)) =
      prologueLength body := by
  cases block with
  | nil => rw [List.append_nil, List.take_append_drop]
  | cons b bs =>
    obtain ⟨hdocstring, hfuture⟩ := h b rfl
    cases body with
    | nil => simp [prologueLength, hdocstring, hfuture]
    | cons s rest =>
      by_cases hs : (isDocstring s || isFutureImport s) = true
      · have htake : rest.take (rest.takeWhile isFutureImport).length =
            rest.takeWhile isFutureImport :=
          (List.prefix_iff_eq_take.mp (List.takeWhile_prefix _)).symm
        have hstop (after : List Statement) :
            (rest.takeWhile isFutureImport ++ b :: after).takeWhile isFutureImport =
              rest.takeWhile isFutureImport := by
          rw [List.takeWhile_append_of_pos fun _ => List.mem_takeWhile_imp,
            List.takeWhile_cons_of_neg (by simp [hfuture]), List.append_nil]
        simp only [prologueLength, hs, if_true, List.take_succ_cons, htake, List.cons_append,
          List.append_assoc, hstop]
      · simp [prologueLength, hs, hdocstring, hfuture]

theorem sites_insert {className : String} (before : List Statement) {block : List Statement}
    (after : List Statement) (h : ∀ s ∈ block, sitesOf className s = []) :
    (before ++ block ++ after).flatMap (sitesOf className) =
      (before ++ after).flatMap (sitesOf className) := by
  simp [List.flatMap_eq_nil_iff.mpr h]

/-- What a pass does to a module: its block goes between the prologue and the rest, the prologue stays
as it is, and no site is added or lost. -/
structure Inserts (m edited : Python.Module) (block : List Statement) : Prop where
  body : edited.body = m.body.take (prologueLength m.body) ++ block ++
    m.body.drop (prologueLength m.body)
  prologue : prologueLength edited.body = prologueLength m.body
  sites : ∀ className, Bootstrap.sites className edited = Bootstrap.sites className m

theorem inserts_of_body {m edited : Python.Module} {block : List Statement}
    (hbody : edited.body = m.body.take (prologueLength m.body) ++ block ++
      m.body.drop (prologueLength m.body))
    (hprologue : LeavesPrologue block)
    (hsites : ∀ className, ∀ s ∈ block, sitesOf className s = []) : Inserts m edited block := by
  refine ⟨hbody, ?_, fun className => ?_⟩
  · rw [hbody, prologueLength_insert m.body hprologue]
  · rw [Bootstrap.sites, hbody, sites_insert _ _ (hsites className), List.take_append_drop]
    rfl

/-- The block of a plan starts with the import of the locale's data. -/
theorem Planned.leavesPrologue {r : Request} {available : List String} {m : Python.Module}
    {edits : List Edit} {resolution : Locale.Resolution} {ss : List Statement}
    (h : Planned r available m edits resolution ss) :
    LeavesPrologue (edits.map (·.statement)) := by
  obtain ⟨n, hn⟩ := Nat.exists_eq_succ_of_ne_zero (mt List.length_eq_zero_iff.mp h.sites_ne_nil)
  obtain ⟨path, origin, -, -, -, -, rfl⟩ := statements_eq_ok h.built
  rw [h.statements_eq, hn, List.replicate_succ, List.flatten_cons]
  rintro s ⟨⟩
  exact ⟨rfl, rfl⟩

/-- A pass succeeds if it can be planned. -/
theorem Pass.make_eq (p : Pass) (m : Python.Module) :
    p.make m =
      match p.request.plan p.available m with
      | .error _ => none
      | .ok edits => some (edits.map (·.statement), { m with
          body := m.body.take (prologueLength m.body) ++ edits.map (·.statement) ++
            m.body.drop (prologueLength m.body) }) := by
  unfold Pass.make
  cases hplan : p.request.plan p.available m with
  | error refusal => rfl
  | ok edits =>
    obtain ⟨-, rfl⟩ | ⟨resolution, ss, hp⟩ := plan_ok_cases hplan
    · simp [apply, splice_nil]
    · simp only [hp.apply_eq]

/-- The step: what one pass puts in and what it leaves alone. -/
theorem Pass.make_inserts {p : Pass} {m edited : Python.Module} {block : List Statement}
    (h : p.make m = some (block, edited)) :
    Inserts m edited block ∧ p.Registers (p.request.sites m).length block := by
  rw [Pass.make_eq] at h
  split at h
  · cases h
  next edits hplan =>
    cases h
    obtain ⟨hnone, rfl⟩ | ⟨resolution, ss, hp⟩ := plan_ok_cases hplan
    · exact ⟨inserts_of_body rfl (by rintro s ⟨⟩) (by simp), by simp [hnone], by simp [hnone]⟩
    · refine ⟨inserts_of_body rfl hp.leavesPrologue fun className s => hp.sitesOf_inserted className,
        ?_, fun _ => ⟨resolution, ss, hp.resolved, hp.built, hp.statements_eq⟩⟩
      rw [List.length_map, hp.length_edits]

/-! ### Passes one after the other -/

/-- A pass that was made, the module that it was made over, and what it put in. -/
structure Made where
  pass : Pass
  target : Python.Module
  block : List Statement

/-- Makes passes, each over the module that the one before it left. -/
def makeAll : List Pass → Python.Module → Option (List Made × Python.Module)
  | [], m => some ([], m)
  | p :: rest, m => do
    let (block, edited) ← p.make m
    let (made, last) ← makeAll rest edited
    return (⟨p, m, block⟩ :: made, last)

/-- The blocks of passes as they stand in the end, the last one first. -/
def stack (made : List Made) : List Statement := made.reverse.flatMap (·.block)

theorem stack_cons (x : Made) (made : List Made) : stack (x :: made) = stack made ++ x.block := by
  simp [stack]

/-- The run: all passes together insert their stacked blocks, and each of them registers for the
sites of the first module. -/
theorem makeAll_inserts {ps : List Pass} {m last : Python.Module} {made : List Made}
    (h : makeAll ps m = some (made, last)) :
    made.map (·.pass) = ps ∧ Inserts m last (stack made) ∧
      ∀ x ∈ made, (∀ className, Bootstrap.sites className x.target = Bootstrap.sites className m) ∧
        x.pass.Registers (x.pass.request.sites m).length x.block := by
  induction ps generalizing m made with
  | nil =>
    cases h
    exact ⟨rfl, inserts_of_body (by simp [stack]) (by rintro s ⟨⟩) (by simp [stack]), by simp⟩
  | cons p ps ih =>
    obtain ⟨⟨block, edited⟩, hmake, h⟩ := Option.bind_eq_some_iff.mp h
    obtain ⟨⟨rest, last'⟩, hrest, h⟩ := Option.bind_eq_some_iff.mp h
    cases h
    obtain ⟨hstep, hregisters⟩ := Pass.make_inserts hmake
    obtain ⟨hpasses, hrun, hall⟩ := ih hrest
    refine ⟨by simp [hpasses], ⟨?_, hrun.prologue.trans hstep.prologue, fun className => ?_⟩, ?_⟩
    · -- the prologue is that of the first module, and the block before is the first of the rest
      have hlength : (m.body.take (prologueLength m.body)).length = prologueLength m.body := by
        simp [prologueLength_le]
      have hbody : edited.body = m.body.take (prologueLength m.body) ++
          (block ++ m.body.drop (prologueLength m.body)) := by
        rw [hstep.body, List.append_assoc]
      rw [hrun.body, hstep.prologue, hbody, List.take_left' hlength, List.drop_left' hlength,
        stack_cons]
      simp
    · rw [hrun.sites, hstep.sites]
    · refine List.forall_mem_cons.mpr ⟨⟨fun _ => rfl, hregisters⟩, fun x hx => ?_⟩
      obtain ⟨hsites, hx⟩ := hall x hx
      refine ⟨fun className => (hsites className).trans (hstep.sites className), ?_⟩
      rwa [Request.sites, hstep.sites] at hx

/-- Passes that succeed one after the other find the sites of the module that they start from, for
every class. In the end the body of that module is cut in front of its first statement after the
prologue, and the blocks of the passes stand in between, the last one first, each with three
statements for every site of its class. -/
theorem passes_stack (ps : List Pass) (m : Python.Module) {made : List Made}
    {last : Python.Module} (h : makeAll ps m = some (made, last)) :
    made.map (·.pass) = ps ∧
      (∀ x ∈ made, (∀ className, Bootstrap.sites className x.target = Bootstrap.sites className m) ∧
        x.pass.Registers (x.pass.request.sites m).length x.block) ∧
      (∀ className, Bootstrap.sites className last = Bootstrap.sites className m) ∧
      ∃ before after, m.body = before ++ after ∧
        before.length = (first? m).getD m.body.length ∧
        last.body = before ++ made.reverse.flatMap (·.block) ++ after := by
  obtain ⟨hpasses, hinserts, hall⟩ := makeAll_inserts h
  refine ⟨hpasses, hall, hinserts.sites, m.body.take (prologueLength m.body),
    m.body.drop (prologueLength m.body), (List.take_append_drop _ _).symm, ?_, hinserts.body⟩
  have hle := prologueLength_le m.body
  by_cases hlt : prologueLength m.body < m.body.length
  · simp [first?, hlt, hle]
  · simp only [first?, hlt, if_false, Option.getD_none, List.length_take]
    omega

/-- Three passes over a module with a docstring: two of them find its site, and the one for another
class puts nothing in. -/
theorem passes_stack_docstring :
    ∃ m made last, parseModule "'doc'\nf().bootstrapModule(App)\n" = some m ∧
      makeAll [⟨{ entry := ⟨"app", "App"⟩, locale := "de" }, ["de"]⟩,
        ⟨{ entry := ⟨"app", "Other"⟩, locale := "de" }, []⟩,
        ⟨{ entry := ⟨"app", "App"⟩, locale := "fr" }, ["de", "fr"]⟩] (splitFutureImports m) =
          some (made, last) ∧ last.body.length = 8 ∧
      ∃ before after, (splitFutureImports m).body = before ++ after ∧
        before.length = (first? (splitFutureImports m)).getD (splitFutureImports m).body.length ∧
        last.body = before ++ made.reverse.flatMap (·.block) ++ after := by
  have hrun : ((parseModule "'doc'\nf().bootstrapModule(App)\n").bind fun m =>
      (makeAll [⟨{ entry := ⟨"app", "App"⟩, locale := "de" }, ["de"]⟩,
        ⟨{ entry := ⟨"app", "Other"⟩, locale := "de" }, []⟩,
        ⟨{ entry := ⟨"app", "App"⟩, locale := "fr" }, ["de", "fr"]⟩] (splitFutureImports m)).map
          fun x => x.2.body.length) = some 8 := by
    simp only [makeAll, Pass.make_eq]
    decide +kernel
  obtain ⟨m, hm, hrun⟩ := Option.bind_eq_some_iff.mp hrun
  obtain ⟨⟨made, last⟩, hmade, hlength⟩ := Option.map_eq_some_iff.mp hrun
  obtain ⟨-, -, -, before, after, hbody, hbefore, hlast⟩ := passes_stack _ _ hmade
  exact ⟨m, made, last, hm, hmade, hlength, before, after, hbody, hbefore, hlast⟩

end LocaleRegistrar.Registration
