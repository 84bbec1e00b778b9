import LocaleRegistrar.Python.Parse
import LocaleRegistrar.Registration.Plan
import LocaleRegistrar.Proofs.Matching
import Mathlib.Data.List.TakeWhile

/-! What a plan is made of. A plan that has edits puts the statements of one registration, once for
each site, before the first statement after the prologue, and its orders are the positions in the
plan, so applying it splices one block into the body of the module. -/

namespace LocaleRegistrar.Registration

open LocaleRegistrar.Python
open LocaleRegistrar.Bootstrap

/-! ### Edits at one anchor -/

@[simp] theorem editsAt_map_statement (anchor : Option Nat) (start : Int) (ss : List Statement) :
    (editsAt anchor start ss).map (·.statement) = ss := by
  induction ss generalizing start with
  | nil => rfl
  | cons s ss ih => simp [editsAt, ih]

@[simp] theorem length_editsAt (anchor : Option Nat) (start : Int) (ss : List Statement) :
    (editsAt anchor start ss).length = ss.length := by
  rw [← List.length_map (f := (·.statement)), editsAt_map_statement]

theorem editsAt_append (anchor : Option Nat) (start : Int) (ss ts : List Statement) :
    editsAt anchor start (ss ++ ts) =
      editsAt anchor start ss ++ editsAt anchor (start + ss.length) ts := by
  induction ss generalizing start with
  | nil => simp [editsAt]
  | cons s ss ih =>
    have hstart : start + 1 + (ss.length : Int) = start + ((ss.length + 1 : Nat) : Int) := by omega
    simp only [List.cons_append, editsAt, ih, List.length_cons, hstart]

theorem anchor_of_mem_editsAt {anchor : Option Nat} {start : Int} {ss : List Statement} {e : Edit}
    (h : e ∈ editsAt anchor start ss) : e.anchor = anchor ∧ start ≤ e.order := by
  induction ss generalizing start with
  | nil => simp [editsAt] at h
  | cons s ss ih =>
    rcases List.mem_cons.mp h with rfl | h
    · exact ⟨rfl, Int.le_refl _⟩
    · obtain ⟨ha, ho⟩ := ih h
      exact ⟨ha, by omega⟩

theorem editsAt_sorted (anchor : Option Nat) (start : Int) (ss : List Statement) :
    (editsAt anchor start ss).Pairwise fun a b => decide (a.order ≤ b.order) = true := by
  induction ss generalizing start with
  | nil => exact .nil
  | cons s ss ih =>
    refine List.pairwise_cons.mpr ⟨fun e he => ?_, ih (start + 1)⟩
    have := (anchor_of_mem_editsAt he).2
    simp only [decide_eq_true_eq]
    omega

/-- All edits at their own anchor, in order. -/
theorem statementsAt_editsAt (anchor : Option Nat) (start : Int) (ss : List Statement) :
    statementsAt (editsAt anchor start ss) anchor = ss := by
  unfold statementsAt
  rw [List.filter_eq_self.mpr fun e he => by simp [(anchor_of_mem_editsAt he).1],
    List.mergeSort_of_pairwise (editsAt_sorted anchor start ss), editsAt_map_statement]

/-- No edits at another place. -/
theorem statementsAt_editsAt_ne {anchor place : Option Nat} (h : place ≠ anchor) (start : Int)
    (ss : List Statement) : statementsAt (editsAt anchor start ss) place = [] := by
  unfold statementsAt
  rw [List.filter_eq_nil_iff.mpr fun e he => by
    simpa [(anchor_of_mem_editsAt he).1] using h.symm]
  simp

/-- Edits at one anchor are spliced in as one block. -/
theorem splice_editsAt (k : Nat) (start : Int) (ss : List Statement) (i : Nat)
    (body : List Statement) (hi : i ≤ k) (hk : k < i + body.length) :
    splice (editsAt (some k) start ss) i body = body.take (k - i) ++ ss ++ body.drop (k - i) := by
  induction body generalizing i with
  | nil => simp at hk; omega
  | cons s rest ih =>
    rw [splice]
    by_cases heq : i = k
    · -- after the anchor nothing is put in
      subst heq
      have hrest (j : Nat) (hj : i < j) (body : List Statement) :
          splice (editsAt (some i) start ss) j body = body := by
        induction body generalizing j with
        | nil => rw [splice, statementsAt_editsAt_ne (by simp)]
        | cons s rest ih =>
          rw [splice, statementsAt_editsAt_ne (by simp; omega), ih (j + 1) (by omega)]
          rfl
      rw [statementsAt_editsAt, hrest (i + 1) (by omega)]
      simp
    · rw [statementsAt_editsAt_ne (by simpa using heq),
        ih (i + 1) (by omega) (by simp at hk; omega)]
      obtain ⟨d, hd⟩ : ∃ d, k - i = d + 1 := ⟨k - i - 1, by omega⟩
      have hd' : k - (i + 1) = d := by omega
      simp [hd, hd']

theorem apply_editsAt {m : Python.Module} {k : Nat} (hk : k < m.body.length) (start : Int)
    (ss : List Statement) :
    apply m (editsAt (some k) start ss) =
      .ok { m with body := m.body.take k ++ ss ++ m.body.drop k } := by
  have hstray : (editsAt (some k) start ss).countP (isStray m.body.length) = 0 := by
    rw [List.countP_eq_zero]
    intro e he
    simp only [isStray, (anchor_of_mem_editsAt he).1, decide_eq_true_eq]
    omega
  unfold apply
  rw [hstray, splice_editsAt k start ss 0 m.body (Nat.zero_le _) (by omega)]
  simp

/-! ### Registrations of all sites -/

theorem buildAll_eq (settings : Settings) (locale : String) (anchor : Option Nat) (start : Int)
    {ss : List Statement} (h : statements settings locale = .ok ss) (n : Nat) :
    buildAll settings locale anchor start n =
      .ok (editsAt anchor start (List.replicate n ss).flatten) := by
  induction n generalizing start with
  | zero => rfl
  | succ n ih =>
    rw [buildAll, build, h]
    simp only [bind, Except.bind, pure, Except.pure, ih, length_editsAt]
    rw [List.replicate_succ, List.flatten_cons, editsAt_append]

theorem buildAll_eq_error (settings : Settings) (locale : String) (anchor : Option Nat)
    (start : Int) {bad : BadName} (h : statements settings locale = .error bad) (n : Nat) :
    buildAll settings locale anchor start (n + 1) = .error bad := by
  rw [buildAll, build, h]
  rfl

/-! ### Sites and statements -/

theorem mem_sitesOf_iff {className : String} {s : Statement} {site : Site} :
    site ∈ sitesOf className s ↔ ∃ p, MatchesAt className s.trees p site := by
  rw [sitesOf, ← sitesAmong_none className 0, ← locatedAmong_map_snd className none 0 0]
  simp only [List.mem_map, Prod.exists, mem_locatedAmong_iff_matchesAt]
  constructor
  · rintro ⟨p, site, h, rfl⟩
    exact ⟨p, h⟩
  · rintro ⟨p, h⟩
    exact ⟨p, site, h, rfl⟩

theorem mem_sites_iff {className : String} {m : Python.Module} {site : Site} :
    site ∈ Bootstrap.sites className m ↔ ∃ s ∈ m.body, site ∈ sitesOf className s := by
  simp [Bootstrap.sites]

theorem mem_statement_nodes_iff {s : Statement} {u : Python.Tree} :
    u ∈ s.nodes ↔ u.isNode = true ∧ ∃ p, Tree.atAll? s.trees p = some u := by
  rw [Statement.nodes, ← Tree.nodesAll_eq_flatMap, Tree.mem_nodesAll_iff]

/-- The call of a site is a node of the statement that the site is in. -/
theorem call_mem_nodes {className : String} {s : Statement} {site : Site}
    (h : site ∈ sitesOf className s) : site.call ∈ s.nodes := by
  obtain ⟨p, h⟩ := mem_sitesOf_iff.mp h
  cases h with
  | intro callAt shape =>
    refine mem_statement_nodes_iff.mpr ⟨?_, _, callAt⟩
    have hkind := shape.kind?
    unfold Tree.kind? at hkind
    split at hkind
    · simp at hkind
    · rfl

/-- A statement that has the call of a site among its nodes has a site of that class itself. -/
theorem sitesOf_ne_nil_of_call_mem {className : String} {ts : List Python.Tree} {p : Address}
    {s : Statement} {site : Site} (h : MatchesAt className ts p site) (hmem : site.call ∈ s.nodes) :
    sitesOf className s ≠ [] := by
  cases h with
  | intro callAt shape argumentAt unstarred valueAt last named =>
    obtain ⟨-, q, hq⟩ := mem_statement_nodes_iff.mp hmem
    exact List.ne_nil_of_mem (mem_sitesOf_iff.mpr
      ⟨_, .intro hq shape argumentAt unstarred valueAt last named⟩)

/-! ### The prologue -/

theorem prologueLength_le (body : List Statement) : prologueLength body ≤ body.length := by
  cases body with
  | nil => exact Nat.le_refl _
  | cons s rest =>
    rw [prologueLength]
    split
    · exact Nat.succ_le_succ (List.takeWhile_prefix _).length_le
    · exact Nat.zero_le _

/-- The prologue holds a docstring, at its start only, and lines with future imports. -/
theorem prologue_spec {body : List Statement} {i : Nat} {s : Statement}
    (h : (body.take (prologueLength body))[i]? = some s) :
    i = 0 ∧ isDocstring s = true ∨ isFutureImport s = true := by
  cases body with
  | nil => simp at h
  | cons first rest =>
    rw [prologueLength] at h
    split at h
    next hfirst =>
      rw [List.take_succ_cons] at h
      cases i with
      | zero =>
        simp only [List.getElem?_cons_zero, Option.some.injEq] at h
        subst h
        rcases Bool.or_eq_true_iff.mp hfirst with hd | hf
        · exact .inl ⟨rfl, hd⟩
        · exact .inr hf
      | succ i =>
        simp only [List.getElem?_cons_succ] at h
        have hmem := List.mem_of_getElem? h
        rw [← List.prefix_iff_eq_take.mp (List.takeWhile_prefix _)] at hmem
        exact .inr (List.mem_takeWhile_imp hmem)
    next => simp at h

/-! ### Plans with edits -/

/-- What a plan with edits is made of: there is a site, the locale resolves, no site is in the
prologue, and the edits put the statements of the registration in front of the first statement after
the prologue, once for each site. -/
structure Planned (r : Request) (available : List String) (m : Python.Module) (edits : List Edit)
    (resolution : Locale.Resolution) (ss : List Statement) : Prop where
  sites_ne_nil : r.sites m ≠ []
  resolved : r.resolve available = .ok resolution
  prologue_clear : siteInPrologue r.entry.className m = false
  built : statements r.settings resolution.id = .ok ss
  anchor_lt : prologueLength m.body < m.body.length
  edits_eq : edits = editsAt (some (prologueLength m.body)) 0
    (List.replicate (r.sites m).length ss).flatten

/-- With a site and none in the prologue, there is a statement after the prologue. -/
theorem prologueLength_lt_of_site {className : String} {m : Python.Module}
    (hsites : Bootstrap.sites className m ≠ []) (hclear : siteInPrologue className m = false) :
    prologueLength m.body < m.body.length := by
  refine Nat.lt_of_le_of_ne (prologueLength_le m.body) fun heq => ?_
  obtain ⟨site, hsite⟩ := List.exists_mem_of_ne_nil _ hsites
  obtain ⟨s, hs, hin⟩ := mem_sites_iff.mp hsite
  have hall := List.any_eq_false.mp hclear s (by rw [heq, List.take_length]; exact hs)
  simp only [Bool.not_eq_true, Bool.not_eq_false', List.isEmpty_iff] at hall
  rw [hall] at hin
  simp at hin

theorem plan_ok_cases {r : Request} {available : List String} {m : Python.Module}
    {edits : List Edit} (h : r.plan available m = .ok edits) :
    (r.sites m = [] ∧ edits = []) ∨ ∃ resolution ss, Planned r available m edits resolution ss := by
  rw [Request.plan_eq, Request.planFrom] at h
  split at h
  next hempty => exact .inl ⟨List.isEmpty_iff.mp hempty, by simpa using h.symm⟩
  next hsites =>
    have hsites : r.sites m ≠ [] := by simpa using hsites
    split at h
    next => simp at h
    next resolution hres =>
      split at h
      next => simp at h
      next hclear =>
        have hclear : siteInPrologue r.entry.className m = false := by simpa using hclear
        have hlt := prologueLength_lt_of_site hsites hclear
        obtain ⟨n, hn⟩ := Nat.exists_eq_succ_of_ne_zero (mt List.length_eq_zero_iff.mp hsites)
        have hfirst : first? m = some (prologueLength m.body) := by simp [first?, hlt]
        cases hss : statements r.settings resolution.id with
        | error bad =>
          rw [hn, buildAll_eq_error _ _ _ _ hss] at h
          simp at h
        | ok ss =>
          rw [buildAll_eq _ _ _ _ hss, hfirst] at h
          simp only [Except.ok.injEq] at h
          exact .inr ⟨resolution, ss, hsites, hres, hclear, hss, hlt, h.symm⟩

theorem plan_unknown_iff {r : Request} {available : List String} {m : Python.Module}
    {unknown : Locale.Unknown} :
    r.plan available m = .error (.unknownLocale unknown) ↔
      r.sites m ≠ [] ∧ r.resolve available = .error unknown := by
  rw [Request.plan_eq, Request.planFrom]
  split
  next hsites => simp_all
  next hsites =>
    split
    next other hres => simp_all
    next resolution hres =>
      split
      · simp [hres]
      · split <;> simp [hres]

/-- The planned statements are those of the registration, once for each site. -/
theorem Planned.statements_eq {r : Request} {available : List String} {m : Python.Module}
    {edits : List Edit} {resolution : Locale.Resolution} {ss : List Statement}
    (h : Planned r available m edits resolution ss) :
    edits.map (·.statement) = (List.replicate (r.sites m).length ss).flatten := by
  rw [h.edits_eq, editsAt_map_statement]

/-- Planned edits are put in after the prologue. -/
theorem Planned.apply_eq {r : Request} {available : List String} {m : Python.Module}
    {edits : List Edit} {resolution : Locale.Resolution} {ss : List Statement}
    (h : Planned r available m edits resolution ss) :
    apply m edits = .ok { m with
      body := m.body.take (prologueLength m.body) ++ edits.map (·.statement) ++
        m.body.drop (prologueLength m.body) } := by
  rw [h.statements_eq, h.edits_eq]
  exact apply_editsAt h.anchor_lt 0 _

/-! ### The statements of a registration -/

/-- The names of a dotted path have no calls among them. -/
def IsDotted (t : Python.Tree) : Prop :=
  ∀ u ∈ t.nodes, u.kind? = some .name ∨ u.kind? = some .member

theorem isDotted_ofName (id : String) : IsDotted (.ofName id) := by
  simp [IsDotted, Tree.ofName, Tree.bare, Tree.text, Tree.nodes, Tree.nodesAll, Tree.kind?]

theorem isDotted_memberNode {value attr : Python.Tree} (hv : IsDotted value) (ha : IsDotted attr) :
    IsDotted (memberNode value attr) := by
  intro u hu
  simp only [memberNode, Tree.bare, Tree.text, Tree.nodes, Tree.nodesAll, List.append_nil,
    List.mem_cons, List.nil_append, List.mem_append] at hu
  rcases hu with rfl | hu | hu
  · exact .inr rfl
  · exact hv u hu
  · exact ha u hu

theorem nameNode_eq_ok {text : String} {t : Python.Tree} (h : nameNode text = .ok t) :
    t = .ofName text := by
  unfold nameNode at h
  cases hc : checkName text with
  | error bad => simp [hc, bind, Except.bind] at h
  | ok _ => simpa [hc, bind, Except.bind, pure, Except.pure] using h.symm

theorem isDotted_foldlM {parts : List String} {value t : Python.Tree} (hv : IsDotted value)
    (h : parts.foldlM (fun value part => do return memberNode value (← nameNode part)) value =
      Except.ok t) : IsDotted t := by
  induction parts generalizing value with
  | nil =>
    simp only [List.foldlM_nil, pure, Except.pure, Except.ok.injEq] at h
    exact h ▸ hv
  | cons part parts ih =>
    rw [List.foldlM_cons] at h
    cases hp : nameNode part with
    | error bad => simp [hp, bind, Except.bind] at h
    | ok attr =>
      simp only [hp, bind, Except.bind, pure, Except.pure] at h
      refine ih (isDotted_memberNode hv ?_) h
      exact nameNode_eq_ok hp ▸ isDotted_ofName part

theorem isDotted_dottedNode {path : String} {t : Python.Tree} (h : dottedNode path = .ok t) :
    IsDotted t := by
  unfold dottedNode at h
  split at h
  · simp at h
  next part parts _ =>
    cases hp : nameNode part with
    | error bad => simp [hp, bind, Except.bind] at h
    | ok value =>
      simp only [hp, bind, Except.bind] at h
      exact isDotted_foldlM (nameNode_eq_ok hp ▸ isDotted_ofName part) h

/-- The statements of a registration, from the trees of the names in them. -/
theorem statements_eq_ok {settings : Settings} {locale : String} {ss : List Statement}
    (h : statements settings locale = .ok ss) :
    ∃ path origin, dottedNode (settings.localesPackage ++ "." ++ Locale.moduleName locale) = .ok path ∧
      dottedNode settings.registryModule = .ok origin ∧
      checkName (Locale.symbol locale) = .ok () ∧ checkName settings.registerFunction = .ok () ∧
      ss = [importStatement path (.ofName (Locale.symbol locale)),
        importFromStatement origin (.ofName settings.registerFunction),
        callStatement (.ofName settings.registerFunction) (.ofName (Locale.symbol locale))] := by
  unfold statements at h
  cases hpath : dottedNode (settings.localesPackage ++ "." ++ Locale.moduleName locale) with
  | error bad => simp [hpath, bind, Except.bind] at h
  | ok path =>
    cases hsymbol : checkName (Locale.symbol locale) with
    | error bad => simp [hpath, nameNode, hsymbol, bind, Except.bind] at h
    | ok _ =>
      cases horigin : dottedNode settings.registryModule with
      | error bad =>
        simp [hpath, nameNode, hsymbol, horigin, bind, Except.bind, pure, Except.pure] at h
      | ok origin =>
        cases hfunction : checkName settings.registerFunction with
        | error bad =>
          simp [hpath, nameNode, hsymbol, horigin, hfunction, bind, Except.bind, pure,
            Except.pure] at h
        | ok _ =>
          simp only [hpath, nameNode, hsymbol, horigin, hfunction, bind, Except.bind, pure,
            Except.pure, Except.ok.injEq] at h
          exact ⟨path, origin, rfl, rfl, rfl, rfl, h.symm⟩

theorem nodes_lineOf (content : Python.Tree) : (lineOf content).nodes = content.nodes := by
  show content.nodes ++ [] = content.nodes
  exact List.append_nil _

/-- A statement none of whose nodes is a call of the bootstrap method has no site. -/
theorem sitesOf_eq_nil {className : String} {s : Statement}
    (h : ∀ u ∈ s.nodes, ¬CallsBootstrap u) : sitesOf className s = [] := by
  rw [List.eq_nil_iff_forall_not_mem]
  intro site hsite
  obtain ⟨p, hmatch⟩ := mem_sitesOf_iff.mp hsite
  cases hmatch with
  | intro callAt shape => exact h _ (call_mem_nodes hsite) shape

theorem IsDotted.not_callsBootstrap {t u : Python.Tree} (ht : IsDotted t) (hu : u ∈ t.nodes) :
    ¬CallsBootstrap u := by
  intro hcall
  rcases ht u hu with hk | hk <;> simp [hcall.kind?] at hk

/-- The statements of a registration have no site, whatever the class is. -/
theorem sitesOf_registration {settings : Settings} {locale : String} {ss : List Statement}
    (h : statements settings locale = .ok ss) (className : String) {s : Statement} (hs : s ∈ ss) :
    sitesOf className s = [] := by
  obtain ⟨path, origin, hpath, horigin, -, -, rfl⟩ := statements_eq_ok h
  have hsymbol := isDotted_ofName (Locale.symbol locale)
  have hfunction := isDotted_ofName settings.registerFunction
  have hkind {u : Python.Tree} {k : Kind} (hk : u.kind? = some k) (hne : k ≠ .call) :
      ¬CallsBootstrap u := by
    intro hcall
    rw [hcall.kind?, Option.some.injEq] at hk
    exact hne hk.symm
  refine sitesOf_eq_nil fun u hu => ?_
  simp only [List.mem_cons, List.not_mem_nil, or_false] at hs
  rcases hs with rfl | rfl | rfl
  · simp only [importStatement, nodes_lineOf, Tree.bare, Tree.text, Tree.nodes, Tree.nodesAll,
      List.append_nil, List.nil_append, List.mem_cons, List.mem_append] at hu
    rcases hu with rfl | rfl | hu | hu
    · exact hkind rfl (by decide)
    · exact hkind rfl (by decide)
    · exact (isDotted_dottedNode hpath).not_callsBootstrap hu
    · exact hsymbol.not_callsBootstrap hu
  · simp only [importFromStatement, nodes_lineOf, Tree.bare, Tree.text, Tree.nodes, Tree.nodesAll,
      List.append_nil, List.nil_append, List.mem_cons, List.mem_append] at hu
    rcases hu with rfl | hu | rfl | hu
    · exact hkind rfl (by decide)
    · exact (isDotted_dottedNode horigin).not_callsBootstrap hu
    · exact hkind rfl (by decide)
    · exact hfunction.not_callsBootstrap hu
  · simp only [callStatement, nodes_lineOf, Tree.bare, Tree.text, Tree.nodes, Tree.nodesAll,
      List.append_nil, List.nil_append, List.mem_cons, List.mem_append] at hu
    rcases hu with rfl | rfl | hu | rfl | hu
    · exact hkind rfl (by decide)
    · -- the function that is called is a name, not an attribute
      rintro ⟨func, value, attr, hfunc, hmember, -⟩
      simp only [Tree.callee?, Tree.ofName, Tree.bare, List.find?_cons, Tree.isNode,
        Option.some.injEq] at hfunc
      simp [← hfunc, Tree.member?] at hmember
    · exact hfunction.not_callsBootstrap hu
    · exact hkind rfl (by decide)
    · exact hsymbol.not_callsBootstrap hu

/-! ### Registration before bootstrap -/

/-- The statements that a plan puts in have no site. -/
theorem Planned.sitesOf_inserted {r : Request} {available : List String} {m : Python.Module}
    {edits : List Edit} {resolution : Locale.Resolution} {ss : List Statement}
    (h : Planned r available m edits resolution ss) (className : String) {s : Statement}
    (hs : s ∈ edits.map (·.statement)) : sitesOf className s = [] := by
  rw [h.edits_eq, editsAt_map_statement, List.mem_flatten] at hs
  obtain ⟨l, hl, hs⟩ := hs
  rw [List.eq_of_mem_replicate hl] at hs
  exact sitesOf_registration h.built className hs

/-- The statements of the prologue have no site. -/
theorem sitesOf_prologue {className : String} {m : Python.Module}
    (hclear : siteInPrologue className m = false) {s : Statement}
    (hs : s ∈ m.body.take (prologueLength m.body)) : sitesOf className s = [] := by
  have h := List.any_eq_false.mp hclear s hs
  simpa using h

/-- Planned edits go into a split module as one block. Before it there are only the docstring of the
module and lines with future imports, and every statement that has the call of a site, at whatever
depth, comes after it. -/
theorem registration_precedes_bootstrap (r : Request) (available : List String) (m : Python.Module)
    {edits : List Edit} (h : r.plan available (splitFutureImports m) = .ok edits)
    (hne : edits ≠ []) :
    ∃ before after edited, (splitFutureImports m).body = before ++ after ∧
      apply (splitFutureImports m) edits = .ok edited ∧
      edited.body = before ++ edits.map (·.statement) ++ after ∧
      (∀ i s, before[i]? = some s → i = 0 ∧ isDocstring s = true ∨ isFutureImport s = true) ∧
      ∀ site ∈ r.sites (splitFutureImports m), (∃ s ∈ after, site.call ∈ s.nodes) ∧
        ∀ i s, edited.body[i]? = some s → site.call ∈ s.nodes →
          before.length + edits.length ≤ i := by
  obtain ⟨-, rfl⟩ | ⟨resolution, ss, hp⟩ := plan_ok_cases h
  · exact absurd rfl hne
  generalize splitFutureImports m = t at *
  have happly := apply_editsAt hp.anchor_lt 0 (List.replicate (r.sites t).length ss).flatten
  rw [← hp.edits_eq] at happly
  have hblock : edits.map (·.statement) = (List.replicate (r.sites t).length ss).flatten := by
    rw [hp.edits_eq, editsAt_map_statement]
  rw [← hblock] at happly
  refine ⟨t.body.take (prologueLength t.body), t.body.drop (prologueLength t.body), _,
    (List.take_append_drop _ _).symm, happly, rfl, fun i s => prologue_spec, fun site hsite => ?_⟩
  obtain ⟨home, hhome, hin⟩ := mem_sites_iff.mp hsite
  -- a statement with the call has a site of its own, and neither part before has one
  obtain ⟨p, hmatch⟩ := mem_sitesOf_iff.mp hin
  have hfront {s : Statement} (hcall : site.call ∈ s.nodes) :
      s ∉ t.body.take (prologueLength t.body) ++ edits.map (·.statement) := by
    intro hs
    refine sitesOf_ne_nil_of_call_mem hmatch hcall ?_
    rcases List.mem_append.mp hs with hs | hs
    · exact sitesOf_prologue hp.prologue_clear hs
    · exact hp.sitesOf_inserted _ hs
  constructor
  · refine ⟨home, ?_, call_mem_nodes hin⟩
    rw [← List.take_append_drop (prologueLength t.body) t.body, List.mem_append] at hhome
    refine hhome.resolve_left fun hs => hfront (call_mem_nodes hin) ?_
    exact List.mem_append_left _ hs
  · intro i s hi hcall
    by_contra hlt
    refine hfront hcall (List.mem_of_getElem? (i := i) ?_)
    rwa [List.getElem?_append_left (by simp at hlt ⊢; omega)] at hi

/-- A site that shares its line with a future import is registered for between the two. -/
theorem registration_precedes_bootstrap_mixed_line :
    ∃ m edits, parseModule "from __future__ import annotations; start().bootstrapModule(App)\n" =
        some m ∧
      Request.plan { entry := ⟨"app", "App"⟩, locale := "de" } ["de"] (splitFutureImports m) =
        .ok edits ∧ edits.length = 3 ∧
      ∃ before after edited, (splitFutureImports m).body = before ++ after ∧
        apply (splitFutureImports m) edits = .ok edited ∧
        edited.body = before ++ edits.map (·.statement) ++ after := by
  have hrun : ((parseModule
      "from __future__ import annotations; start().bootstrapModule(App)\n").map fun m =>
        match Request.plan { entry := ⟨"app", "App"⟩, locale := "de" } ["de"]
          (splitFutureImports m) with
        | .ok edits => edits.length
        | .error _ => 0) = some 3 := by decide +kernel
  obtain ⟨m, hm, hplan⟩ := Option.map_eq_some_iff.mp hrun
  split at hplan
  next edits hedits =>
    obtain ⟨before, after, edited, hbody, happly, hedited, -⟩ :=
      registration_precedes_bootstrap _ _ m hedits (by rintro rfl; simp at hplan)
    exact ⟨m, edits, hm, hedits, hplan, before, after, edited, hbody, happly, hedited⟩
  next => simp at hplan

end LocaleRegistrar.Registration
