import LocaleRegistrar.Proofs.FlatOrder
import LocaleRegistrar.Proofs.Inert
import LocaleRegistrar.Proofs.Passes

/-! The prologue of a module that registration code goes into. A docstring is recognised as a whole
line, so it keeps its place before the registration if its line holds nothing else, or a
future import too, and in no other case. A registration is refused for a site in the prologue. Main
statement: of the lines there, only those that start with another statement than a future import,
and strings side by side at the start of the module, can have one. -/

namespace LocaleRegistrar.Registration

open LocaleRegistrar.Python
open LocaleRegistrar.Bootstrap

/-! ### The first small statement -/

/-- The small statement that a body starts with, if it starts with a line of them. -/
def firstSmall? : List Statement → Option Small
  | .simple line :: _ => line.body.head?
  | _ => none

/-- The line of small statements that a body starts with. -/
def firstLine? : List Statement → Option Line
  | .simple line :: _ => some line
  | _ => none

theorem exists_of_firstLine? {body : List Statement} {line : Line}
    (h : firstLine? body = some line) : ∃ rest, body = .simple line :: rest := by
  unfold firstLine? at h
  split at h
  next rest => exact ⟨rest, by rw [Option.some.inj h]⟩
  next => cases h

theorem isFutureSmall_of_isStringExpression {s : Python.Small} (h : isStringExpression s = true) :
    isFutureSmall s = false := by
  have hkind : s.content.kind? = some .expression := by
    simpa using (Bool.and_eq_true_iff.mp h).1
  simp [isFutureSmall, hkind]

/-- A line that starts with another statement than a future import is not split. -/
theorem splitStatement_of_head {line : Line} {s : Python.Small} {others : List Python.Small}
    (hline : line.body = s :: others) (hs : isFutureSmall s = false) :
    splitStatement (.simple line) = [.simple line] := by
  have hmixed : isMixed (.simple line) = false := by simp [isMixed, hline, hs]
  rw [splitStatement, hmixed]
  rfl

theorem isDocstring_of_isStringExpression {line : Line} {s : Python.Small}
    {others : List Python.Small} (hline : line.body = s :: others)
    (hs : isStringExpression s = true) : isDocstring (.simple line) = others.isEmpty := by
  obtain ⟨leading, body, tail⟩ := line
  subst hline
  cases others with
  | nil => exact hs
  | cons other others => rfl

/-- A line that starts with a string is in the prologue if it holds nothing else, or a future import
too. -/
theorem prologueLength_of_isStringExpression {line : Line} {s : Python.Small}
    {others : List Python.Small} {rest : List Statement} (hline : line.body = s :: others)
    (hs : isStringExpression s = true) :
    prologueLength (.simple line :: rest) ≠ 0 ↔ others = [] ∨ others.any isFutureSmall = true := by
  have hfuture : isFutureImport (.simple line) = others.any isFutureSmall := by
    simp [isFutureImport, hline, isFutureSmall_of_isStringExpression hs]
  rw [prologueLength, isDocstring_of_isStringExpression hline hs, hfuture, ← List.isEmpty_iff,
    ← Bool.or_eq_true]
  cases others.isEmpty || others.any isFutureSmall <;> simp

/-- The registration starts with an import, so with no string. -/
theorem Planned.firstSmall?_edits {r : Request} {available : List String} {m : Python.Module}
    {edits : List Edit} {resolution : Locale.Resolution} {ss : List Statement}
    (h : Planned r available m edits resolution ss) (after : List Statement) {s : Python.Small}
    (hs : isStringExpression s = true) :
    firstSmall? (edits.map (·.statement) ++ after) ≠ some s := by
  obtain ⟨path, origin, -, -, -, -, rfl⟩ := statements_eq_ok h.built
  obtain ⟨n, hn⟩ := Nat.exists_eq_succ_of_ne_zero (mt List.length_eq_zero_iff.mp h.sites_ne_nil)
  rw [h.statements_eq, hn, List.replicate_succ]
  rintro heq
  obtain rfl := Option.some.inj heq
  exact absurd hs Bool.false_ne_true

/-- A module starts with a string. Where a registration is planned in it, the string is still the
first statement afterwards if and only if nothing is put in, or its line holds nothing else, or the
line holds a future import too. Otherwise the registration comes before everything else. -/
theorem docstring_stays_first_iff (r : Request) (available : List String) (m : Python.Module)
    {line : Line} {rest : List Statement} {s : Python.Small} {others : List Python.Small}
    {edits : List Edit} (hbody : m.body = .simple line :: rest) (hline : line.body = s :: others)
    (hs : isStringExpression s = true)
    (h : r.plan available (splitFutureImports m) = .ok edits) :
    ∃ edited, apply (splitFutureImports m) edits = .ok edited ∧
      (firstSmall? edited.body = some s ↔
        edits = [] ∨ others = [] ∨ others.any isFutureSmall = true) ∧
      (¬(edits = [] ∨ others = [] ∨ others.any isFutureSmall = true) →
        edited.body = edits.map (·.statement) ++ (splitFutureImports m).body) := by
  have hsplit : (splitFutureImports m).body = .simple line :: rest.flatMap splitStatement := by
    rw [splitFutureImports, hbody, List.flatMap_cons,
      splitStatement_of_head hline (isFutureSmall_of_isStringExpression hs)]
    rfl
  have hfirst (after : List Statement) : firstSmall? (.simple line :: after) = some s := by
    rw [firstSmall?, hline, List.head?_cons]
  obtain ⟨-, rfl⟩ | ⟨resolution, ss, hp⟩ := plan_ok_cases h
  · refine ⟨splitFutureImports m, by simp [apply, splice_nil], ?_,
      fun hnot => absurd (.inl rfl) hnot⟩
    rw [hsplit, hfirst]
    simp
  · refine ⟨_, hp.apply_eq, ?_⟩
    have hlength := @prologueLength_of_isStringExpression line s others
      (rest.flatMap splitStatement) hline hs
    rw [← hsplit] at hlength
    have hedits : edits ≠ [] := hp.edits_ne_nil
    by_cases hprologue : prologueLength (splitFutureImports m).body = 0
    · -- the prologue is empty, and so the registration comes first
      have hnot := mt hlength.mpr (not_not.mpr hprologue)
      simp only [hedits, hnot, or_self, iff_false, not_false_eq_true, hprologue, List.take_zero,
        List.nil_append, List.drop_zero, forall_const, and_true]
      exact hp.firstSmall?_edits _ hs
    · -- the first line is in the prologue, and stays where it is
      have hstays := hlength.mp hprologue
      obtain ⟨n, hn⟩ := Nat.exists_eq_succ_of_ne_zero hprologue
      refine ⟨iff_of_true ?_ (.inr hstays), fun hnot => absurd (.inr hstays) hnot⟩
      rw [hn, hsplit, List.take_succ_cons]
      exact hfirst _

/-- A docstring that shares its line with an assignment ends up after the registration. -/
theorem docstring_stays_first_iff_assignment :
    ∃ m line rest s other edits, parseModule "\"doc\"; x = 1\nstart().bootstrapModule(App)\n" =
        some m ∧ m.body = .simple line :: rest ∧ line.body = [s, other] ∧
      isStringExpression s = true ∧ isFutureSmall other = false ∧
      Request.plan { entry := ⟨"app", "App"⟩, locale := "de" } ["de"] (splitFutureImports m) =
        .ok edits ∧ edits.length = 3 ∧
      ∃ edited, apply (splitFutureImports m) edits = .ok edited ∧
        firstSmall? edited.body ≠ some s ∧
        edited.body = edits.map (·.statement) ++ (splitFutureImports m).body := by
  let r : Request := { entry := ⟨"app", "App"⟩, locale := "de" }
  have hrun : (parseModule "\"doc\"; x = 1\nstart().bootstrapModule(App)\n").map (fun m =>
      ((firstLine? m.body).map fun line =>
          line.body.map fun s => (isStringExpression s, isFutureSmall s),
        (r.plan ["de"] (splitFutureImports m)).toOption.map (·.length))) =
      some (some [(true, false), (false, false)], some 3) := by decide +kernel
  obtain ⟨m, hm, hrun⟩ := Option.map_eq_some_iff.mp hrun
  obtain ⟨hline, hplan⟩ := Prod.mk.inj hrun
  obtain ⟨line, hfirst, hline⟩ := Option.map_eq_some_iff.mp hline
  obtain ⟨rest, hbody⟩ := exists_of_firstLine? hfirst
  obtain ⟨s, others, hsmalls, hs, hothers⟩ := List.map_eq_cons_iff.mp hline
  obtain ⟨other, after, rfl, hother, hafter⟩ := List.map_eq_cons_iff.mp hothers
  obtain rfl := List.map_eq_nil_iff.mp hafter
  have hs : isStringExpression s = true := congrArg Prod.fst hs
  have hother : isFutureSmall other = false := congrArg Prod.snd hother
  cases hedits : r.plan ["de"] (splitFutureImports m) with
  | error refusal =>
    rw [hedits] at hplan
    cases hplan
  | ok edits =>
    rw [hedits] at hplan
    have hlength : edits.length = 3 := Option.some.inj hplan
    obtain ⟨edited, happly, hiff, hfront⟩ :=
      docstring_stays_first_iff _ _ m hbody hsmalls hs hedits
    have hnot : ¬(edits = [] ∨ [other] = [] ∨ [other].any isFutureSmall = true) := by
      simp [hother, List.ne_nil_of_length_eq_add_one hlength]
    exact ⟨m, line, rest, s, other, edits, hm, hbody, hsmalls, hs, hother, hedits, hlength, edited,
      happly, mt hiff.mp hnot, hfront hnot⟩

/-! ### Split lines -/

/-- A line of a split module holds statements of a line of the module. If it starts with a future
import, then it holds nothing else. -/
theorem line_of_split {m : Python.Module} {line : Line}
    (h : .simple line ∈ (splitFutureImports m).body) :
    ∃ own, .simple own ∈ m.body ∧
      (∀ s ∈ line.body, ∃ origin ∈ own.body, s.content = origin.content) ∧
      ((∀ s ∈ line.body, isFutureSmall s = true) ∨
        ∃ s others, line.body = s :: others ∧ isFutureSmall s = false) := by
  have hunshared := not_isShared_split m _ h
  have hstart : (∀ s ∈ line.body, isFutureSmall s = true) ∨
      ∃ s others, line.body = s :: others ∧ isFutureSmall s = false := by
    obtain ⟨leading, body, tail⟩ := line
    cases body with
    | nil => exact .inl (List.forall_mem_nil _)
    | cons s others =>
      cases hs : isFutureSmall s with
      | false => exact .inr ⟨s, others, rfl, hs⟩
      | true => exact .inl (List.forall_mem_cons.mpr ⟨hs, by simpa [isShared, hs] using hunshared⟩)
  obtain ⟨statement, hmem, hpart⟩ := List.mem_flatMap.mp h
  have hsplits := splits_splitStatement statement
  generalize splitStatement statement = parts at hsplits hpart
  cases hsplits with
  | kept =>
    obtain rfl := List.mem_singleton.mp hpart
    exact ⟨line, hmem, fun s hs => ⟨s, hs, rfl⟩, hstart⟩
  | cut body nonempty future foreign =>
    rename_i own futures others other
    refine ⟨own, hmem, fun s hs => ?_, hstart⟩
    rw [body]
    obtain heq | heq := List.mem_pair.mp hpart
    · cases heq
      obtain ⟨origin, horigin, rfl⟩ := List.mem_map.mp hs
      exact ⟨origin, List.mem_append_left _ horigin, rfl⟩
    · cases heq
      obtain ⟨origin, horigin, rfl⟩ := List.mem_map.mp hs
      exact ⟨origin, List.mem_append_right _ horigin, rfl⟩

/-! ### Sites in the prologue -/

/-- The statement at position `i` has the call of a site, and code may only be put after it. -/
structure Blocked (r : Request) (m : Python.Module) (i : Nat) (s : Statement) : Prop where
  position : m.body[i]? = some s
  early : ∀ k, first? m = some k → i < k
  call : ∃ site ∈ r.sites m, site.call ∈ s.nodes

theorem lt_prologueLength_iff {m : Python.Module} {i : Nat} (hi : i < m.body.length) :
    i < prologueLength m.body ↔ ∀ k, first? m = some k → i < k := by
  have hle := prologueLength_le m.body
  unfold first?
  by_cases hlt : prologueLength m.body < m.body.length
  · simp [hlt]
  · simp only [hlt, if_false]
    constructor
    · exact nofun
    · omega

/-- A site is in the prologue if there is a statement with its call that no code can be put
before. -/
theorem siteInPrologue_iff {r : Request} {m : Python.Module} :
    siteInPrologue r.entry.className m = true ↔ ∃ i s, Blocked r m i s := by
  unfold siteInPrologue
  rw [List.any_eq_true]
  constructor
  · rintro ⟨s, hs, hsites⟩
    obtain ⟨i, hi⟩ := List.mem_iff_getElem?.mp hs
    rw [List.getElem?_take] at hi
    obtain ⟨hlt, hi⟩ := Option.ite_none_right_eq_some.mp hi
    obtain ⟨site, hsite⟩ := List.exists_mem_of_ne_nil _ (by simpa using hsites)
    have hlength := (List.getElem?_eq_some_iff.mp hi).1
    exact ⟨i, s, hi, (lt_prologueLength_iff hlength).mp hlt, site,
      mem_sites_iff.mpr ⟨s, List.mem_of_getElem? hi, hsite⟩, call_mem_nodes hsite⟩
  · rintro ⟨i, s, hi, hearly, site, hsite, hcall⟩
    have hlength := (List.getElem?_eq_some_iff.mp hi).1
    have hlt := (lt_prologueLength_iff hlength).mpr hearly
    obtain ⟨home, -, hhome⟩ := mem_sites_iff.mp hsite
    obtain ⟨p, hmatch⟩ := mem_sitesOf_iff.mp hhome
    have htake : (m.body.take (prologueLength m.body))[i]? = some s := by
      rw [List.getElem?_take, if_pos hlt, hi]
    refine ⟨s, List.mem_of_getElem? htake, ?_⟩
    simpa using sitesOf_ne_nil_of_call_mem hmatch hcall

theorem plan_sharedLine_iff {r : Request} {available : List String} {m : Python.Module} :
    r.plan available m = .error (.fault .sharedLine) ↔
      r.sites m ≠ [] ∧ (∃ resolution, r.resolve available = .ok resolution) ∧
        siteInPrologue r.entry.className m = true := by
  rw [Request.plan_eq, Request.planFrom]
  split
  next hsites => simp_all
  next hsites =>
    split
    next unknown hres => simp [hres]
    next resolution hres =>
      split
      next hsite => simp_all
      next hsite => split <;> simp [hsite]

/-! ### Which lines can have a site -/

/-- Does this line start with another statement and go on to a future import? -/
def isLateFuture : Statement → Bool
  | .simple ⟨_, s :: others, _⟩ => !isFutureSmall s && others.any isFutureSmall
  | _ => false

/-- Is this line several strings side by side and nothing else? -/
def isStringSequence : Statement → Bool
  | .simple ⟨_, [s], _⟩ =>
    s.content.kind? = some .expression &&
      match s.content.children with
      | [value] => value.kind? = some .stringSequence
      | _ => false
  | _ => false

theorem sitesOf_of_inert {className : String} {line : Line}
    (h : ∀ s ∈ line.body, s.content.Inert) : sitesOf className (.simple line) = [] := by
  refine sitesOf_eq_nil fun u hu hcall => ?_
  obtain ⟨t, ht, hu⟩ := List.mem_flatMap.mp hu
  obtain ⟨s, hs, rfl⟩ : ∃ s ∈ line.body, s.content = t := by
    simpa [Statement.trees, Statement.outline, Line.parts, Part.tree?] using ht
  have hnone := h s hs u hu
  simp [Tree.isCall, hcall.kind?] at hnone

/-- A future import holds no call. -/
theorem inert_of_isFutureSmall {s : Python.Small} (hs : s.content.Grammatical)
    (h : isFutureSmall s = true) : s.content.Inert :=
  hs.importFrom (by simpa using (Bool.and_eq_true_iff.mp h).1)

/-- A docstring with a call is made of several strings. -/
theorem isStringSequence_of_isDocstring {line : Line}
    (hline : ∀ s ∈ line.body, s.content.Grammatical) (h : isDocstring (.simple line) = true) :
    isStringSequence (.simple line) = true ∨ ∀ s ∈ line.body, s.content.Inert := by
  unfold isDocstring at h
  split at h
  next leading s tail heq =>
    cases heq
    obtain ⟨hkind, hvalue⟩ := Bool.and_eq_true_iff.mp h
    have hkind : s.content.kind? = some .expression := by simpa using hkind
    split at hvalue
    next value hchildren =>
      obtain hliteral | hsequence := Bool.or_eq_true_iff.mp hvalue
      · -- one literal, which holds no call
        have hinert := (hline s List.mem_cons_self).literal hkind value
          (hchildren ▸ List.mem_cons_self) (by simpa using hliteral)
        refine .inr (List.forall_mem_singleton.mpr (Tree.inert_of_children hkind (by decide) ?_))
        rw [hchildren]
        exact .cons hinert Tree.allInert_nil
      · left
        simpa [isStringSequence, hkind, hchildren] using hsequence
    next => cases hvalue
  next => cases h

/-- A blocked statement of a split module. -/
theorem Blocked.cases {r : Request} {m : Python.Module} {i : Nat} {s : Statement}
    (hm : Grammar.GrammaticalLines m.body) (h : Blocked r (splitFutureImports m) i s) :
    isLateFuture s = true ∨ i = 0 ∧ isStringSequence s = true := by
  have hlength := (List.getElem?_eq_some_iff.mp h.position).1
  have hlt := (lt_prologueLength_iff hlength).mpr h.early
  have hspec := @prologue_spec (splitFutureImports m).body i s
    (by rw [List.getElem?_take, if_pos hlt, h.position])
  have hsites : sitesOf r.entry.className s ≠ [] := by
    obtain ⟨site, hsite, hcall⟩ := h.call
    obtain ⟨home, -, hhome⟩ := mem_sites_iff.mp hsite
    obtain ⟨p, hmatch⟩ := mem_sitesOf_iff.mp hhome
    exact sitesOf_ne_nil_of_call_mem hmatch hcall
  cases s with
  | compound => simp [isDocstring, isFutureImport] at hspec
  | simple line =>
    obtain ⟨own, hown, horigin, hstart⟩ := line_of_split (List.mem_of_getElem? h.position)
    have hline : ∀ s ∈ line.body, s.content.Grammatical := by
      intro s hs
      obtain ⟨origin, hmem, hcontent⟩ := horigin s hs
      exact hcontent ▸ hm own hown origin hmem
    obtain ⟨hi, hdoc⟩ | hfuture := hspec
    · refine .inr ⟨hi, (isStringSequence_of_isDocstring hline hdoc).resolve_right fun hinert => ?_⟩
      exact hsites (sitesOf_of_inert hinert)
    · left
      obtain hall | ⟨first, others, hbody, hfirst⟩ := hstart
      · exact absurd (sitesOf_of_inert fun s hs => inert_of_isFutureSmall (hline s hs) (hall s hs))
          hsites
      · obtain ⟨leading, body, tail⟩ := line
        subst hbody
        simpa [isFutureImport, isLateFuture, hfirst] using hfuture

/-- A registration in a split module is refused for its locale if there is a site and the locale
cannot be resolved, and for a shared line if there is a site, the locale resolves and a statement
that has the call of a site is blocked. Such a statement starts with something else on the line of a
future import, or it is several strings side by side at the start of the module. -/
theorem plan_refused_iff (r : Request) (available : List String) (m : Python.Module)
    (hm : Grammar.GrammaticalLines m.body) :
    (∀ unknown, r.plan available (splitFutureImports m) = .error (.unknownLocale unknown) ↔
      r.sites (splitFutureImports m) ≠ [] ∧ r.resolve available = .error unknown) ∧
    (r.plan available (splitFutureImports m) = .error (.fault .sharedLine) ↔
      r.sites (splitFutureImports m) ≠ [] ∧ (∃ resolution, r.resolve available = .ok resolution) ∧
        ∃ i s, Blocked r (splitFutureImports m) i s) ∧
    ∀ i s, Blocked r (splitFutureImports m) i s →
      isLateFuture s = true ∨ i = 0 ∧ isStringSequence s = true := by
  refine ⟨fun unknown => plan_unknown_iff, ?_, fun i s hs => hs.cases hm⟩
  rw [plan_sharedLine_iff, siteInPrologue_iff]

/-- A call before a future import on its line, and a call in a field of a docstring that is made of
two strings. -/
theorem plan_refused_shared_lines :
    let r : Request := { entry := ⟨"app", "App"⟩, locale := "de" }
    (∃ m i s, parseModule "start().bootstrapModule(App); from __future__ import annotations\n" =
        some m ∧ Grammar.GrammaticalLines m.body ∧
      r.plan ["de"] (splitFutureImports m) = .error (.fault .sharedLine) ∧
      Blocked r (splitFutureImports m) i s ∧ isLateFuture s = true) ∧
    ∃ m i s, parseModule "\"a\" f\"\x7bstart().bootstrapModule(App)\x7d\"\n" = some m ∧
      Grammar.GrammaticalLines m.body ∧
      r.plan ["de"] (splitFutureImports m) = .error (.fault .sharedLine) ∧
      Blocked r (splitFutureImports m) i s ∧ i = 0 ∧ isStringSequence s = true := by
  intro r
  have hrun (code : String) (p : Statement → Bool)
      (h : (parseModule code).map (fun m => ((splitFutureImports m).body.all (fun s => !p s),
        (r.plan ["de"] (splitFutureImports m)).map (·.length))) =
          some (true, .error (.fault .sharedLine))) :
      ∃ m i s, parseModule code = some m ∧ Grammar.GrammaticalLines m.body ∧
        r.plan ["de"] (splitFutureImports m) = .error (.fault .sharedLine) ∧
        Blocked r (splitFutureImports m) i s ∧ p s = false ∧
        (isLateFuture s = true ∨ i = 0 ∧ isStringSequence s = true) := by
    obtain ⟨m, hm, h⟩ := Option.map_eq_some_iff.mp h
    obtain ⟨hnone, hplan⟩ := Prod.mk.inj h
    cases hrefused : r.plan ["de"] (splitFutureImports m) with
    | ok edits =>
      rw [hrefused] at hplan
      cases hplan
    | error refusal =>
      rw [hrefused] at hplan
      obtain rfl := Except.error.inj hplan
      have hlines := grammatical_parseModule hm
      obtain ⟨-, hshared, hcases⟩ := plan_refused_iff r ["de"] m hlines
      obtain ⟨-, -, i, s, hs⟩ := hshared.mp hrefused
      have hps := List.all_eq_true.mp hnone s (List.mem_of_getElem? hs.position)
      exact ⟨m, i, s, hm, hlines, hrefused, hs, by simpa using hps, hcases i s hs⟩
  constructor
  · obtain ⟨m, i, s, hm, hlines, hplan, hs, hp, hcases⟩ :=
      hrun "start().bootstrapModule(App); from __future__ import annotations\n" isStringSequence
        (by decide +kernel)
    exact ⟨m, i, s, hm, hlines, hplan, hs, hcases.resolve_right (by simp [hp])⟩
  · obtain ⟨m, i, s, hm, hlines, hplan, hs, hp, hcases⟩ :=
      hrun "\"a\" f\"\x7bstart().bootstrapModule(App)\x7d\"\n" isLateFuture (by decide +kernel)
    exact ⟨m, i, s, hm, hlines, hplan, hs, hcases.resolve_left (by simp [hp])⟩

end LocaleRegistrar.Registration
