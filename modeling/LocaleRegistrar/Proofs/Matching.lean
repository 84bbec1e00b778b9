import LocaleRegistrar.Bootstrap.Site
import LocaleRegistrar.Proofs.Address
import Mathlib.Data.List.Basic

/-! Bootstrap sites, with the addresses of their references. The sites of a module are found in one
walk from the top; here each is given the address of the name that makes it one, and the walk is
shown to find every call of the bootstrap method that passes the class, once for every argument that
is the class, and to find them in the order of these names. Looking upwards from every name of the
class, at what stands above it, finds the same. -/

namespace LocaleRegistrar.Bootstrap

open LocaleRegistrar.Python
open LocaleRegistrar.Python.Tree (at? atAll?)

/-- A call of the bootstrap method on the result of another call. -/
def CallsBootstrap (call : Python.Tree) : Prop :=
  ∃ func value attr, call.callee? = some func ∧ func.member? = some (value, attr) ∧
    value.kind? = some .call ∧ attr.identifier? = some method

/-- The name at an address of the trees `ts` makes a site: it names the class, and it is the whole
value (the last node) of an argument without a star of a call of the bootstrap method. The site
holds the call, the name and the index of the argument among the arguments of the call. -/
inductive MatchesAt (className : String) (ts : List Python.Tree) : Address → Site → Prop
  | intro {p : Address} {k j : Nat} {call argument identifier : Python.Tree}
      (callAt : atAll? ts p = some call)
      (shape : CallsBootstrap call)
      (argumentAt : call.parts[k]? = some argument)
      (unstarred : argument.kind? = some (.arg false))
      (valueAt : argument.parts[j]? = some identifier)
      (last : ∀ u ∈ argument.parts.drop (j + 1), u.isNode = false)
      (named : identifier.identifier? = some className) :
      MatchesAt className ts (p ++ [k, j])
        ⟨call, identifier, (call.parts.take k).countP Tree.isArgument⟩

theorem isBootstrapCall_iff {t : Python.Tree} : isBootstrapCall t = true ↔ CallsBootstrap t := by
  unfold isBootstrapCall CallsBootstrap
  constructor
  · intro h
    split at h
    next value attr heq =>
      obtain ⟨func, hf, hm⟩ := Option.bind_eq_some_iff.mp heq
      simp only [Tree.isCall, Tree.isName, Bool.and_eq_true, beq_iff_eq] at h
      exact ⟨func, value, attr, hf, hm, h.1, h.2⟩
    next => exact absurd h (by simp)
  · rintro ⟨func, value, attr, hf, hm, hv, ha⟩
    simp [hf, hm, Tree.isCall, Tree.isName, hv, ha]

theorem CallsBootstrap.kind? {t : Python.Tree} (h : CallsBootstrap t) : t.kind? = some .call := by
  obtain ⟨func, _, _, hf, _⟩ := h
  unfold Tree.callee? at hf
  split at hf
  · rfl
  · simp at hf

/-! ### The value of an argument -/

/-- The position of the last node of a list; the first one if there is none. -/
def lastNode : List Python.Tree → Nat
  | [] => 0
  | _ :: rest => if rest.any Tree.isNode then lastNode rest + 1 else 0

theorem lastNode_spec {ts : List Python.Tree} {u : Python.Tree}
    (h : (ts.filter Tree.isNode).getLast? = some u) :
    ts[lastNode ts]? = some u ∧ ∀ v ∈ ts.drop (lastNode ts + 1), v.isNode = false := by
  induction ts with
  | nil => simp at h
  | cons t rest ih =>
    rw [lastNode]
    by_cases hr : rest.any Tree.isNode = true
    · rw [if_pos hr]
      have hne : rest.filter Tree.isNode ≠ [] := by
        rw [Ne, List.filter_eq_nil_iff]
        simpa using hr
      have hrest : (rest.filter Tree.isNode).getLast? = some u := by
        rw [List.filter_cons] at h
        split at h
        · rwa [List.getLast?_cons_of_ne_nil hne] at h
        · exact h
      simpa using ih hrest
    · rw [if_neg hr]
      have hnil : rest.filter Tree.isNode = [] := by
        rw [List.filter_eq_nil_iff]
        simpa using hr
      rw [List.filter_cons, hnil] at h
      refine ⟨?_, by simpa using hr⟩
      split at h
      · simpa using h
      · simp at h

/-- A node after which there is no other stands at the position of the last one. -/
theorem lastNode_eq {ts : List Python.Tree} {j : Nat} {u : Python.Tree} (hj : ts[j]? = some u)
    (hu : u.isNode = true) (hlast : ∀ v ∈ ts.drop (j + 1), v.isNode = false) :
    lastNode ts = j ∧ (ts.filter Tree.isNode).getLast? = some u := by
  induction ts generalizing j with
  | nil => simp at hj
  | cons t rest ih =>
    cases j with
    | zero =>
      simp only [List.getElem?_cons_zero, Option.some.injEq] at hj
      subst hj
      have hnone : ∀ v ∈ rest, v.isNode = false := by simpa using hlast
      have hnil : rest.filter Tree.isNode = [] := by
        rw [List.filter_eq_nil_iff]
        simpa using hnone
      constructor
      · rw [lastNode, if_neg (by simpa using hnone)]
      · simp [hu, hnil]
    | succ j =>
      simp only [List.getElem?_cons_succ] at hj
      obtain ⟨hpos, hl⟩ := ih hj (by simpa using hlast)
      have hmem : u ∈ rest := List.mem_of_getElem? hj
      have hne : rest.filter Tree.isNode ≠ [] := List.ne_nil_of_mem (List.mem_filter.mpr ⟨hmem, hu⟩)
      refine ⟨by rw [lastNode, if_pos (List.any_eq_true.mpr ⟨u, hmem, hu⟩), hpos], ?_⟩
      rw [List.filter_cons]
      split
      · rwa [List.getLast?_cons_of_ne_nil hne]
      · exact hl

theorem isNode_of_after_lastNode {ts : List Python.Tree} {u : Python.Tree} (hu : u ∈ ts)
    (hnode : u.isNode = true) : ∀ v ∈ ts.drop (lastNode ts + 1), v.isNode = false := by
  have hne : ts.filter Tree.isNode ≠ [] := List.ne_nil_of_mem (List.mem_filter.mpr ⟨hu, hnode⟩)
  exact (lastNode_spec (List.getLast?_eq_some_getLast hne)).2

theorem isNode_of_identifier? {t : Python.Tree} {id : String} (h : t.identifier? = some id) :
    t.isNode = true := by
  unfold Tree.identifier? at h
  split at h
  · rfl
  · simp at h

/-- An argument refers to the class if it has no star and its last node is the class's name. -/
theorem reference?_eq_some_iff {className : String} {argument identifier : Python.Tree} :
    reference? className argument = some identifier ↔
      argument.kind? = some (.arg false) ∧
      argument.parts[lastNode argument.parts]? = some identifier ∧
      (∀ u ∈ argument.parts.drop (lastNode argument.parts + 1), u.isNode = false) ∧
      identifier.identifier? = some className := by
  unfold reference? Tree.argumentValue?
  rw [Option.filter_eq_some_iff]
  constructor
  · rintro ⟨hv, hn⟩
    split at hv
    next o parts c =>
      obtain ⟨hat, hlast⟩ := lastNode_spec hv
      exact ⟨rfl, hat, hlast, by simpa [Tree.isName] using hn⟩
    next => simp at hv
  · rintro ⟨hk, hat, hlast, hn⟩
    refine ⟨?_, by simpa [Tree.isName] using hn⟩
    cases argument with
    | piece p => simp [Tree.kind?] at hk
    | node kind o parts c =>
      simp only [Tree.kind?, Option.some.injEq] at hk
      subst hk
      exact (lastNode_eq hat (isNode_of_identifier? hn) hlast).2

/-! ### Sites with their addresses -/

/-- A site one level further down, below the part at a position. -/
def under (position : Nat) (found : Address × Site) : Address × Site :=
  (position :: found.1, found.2)

mutual

/-- The sites in a tree, each with the address of its reference below the tree. -/
def located (className : String) : Python.Tree → List (Address × Site)
  | .piece _ => []
  | .node kind opening parts closing =>
    let self := Python.Tree.node kind opening parts closing
    locatedAmong className (if isBootstrapCall self then some self else none) 0 0 parts

/-- The sites among the parts of a node, of which the first one stands at `position`. -/
def locatedAmong (className : String) (call : Option Python.Tree) (index position : Nat) :
    List Python.Tree → List (Address × Site)
  | [] => []
  | t :: rest =>
    (located className t).map (under position) ++
      (siteAt className call index t).map (fun s => ([position, lastNode t.parts], s)) ++
      locatedAmong className call (if t.isArgument then index + 1 else index) (position + 1) rest

end

mutual

theorem located_map_snd (className : String) : ∀ t : Python.Tree,
    (located className t).map Prod.snd = sitesIn className t
  | .piece _ => rfl
  | .node kind opening parts closing => by
    rw [located, sitesIn]
    exact locatedAmong_map_snd className _ 0 0 parts

theorem locatedAmong_map_snd (className : String) (call : Option Python.Tree)
    (index position : Nat) : ∀ ts : List Python.Tree,
    (locatedAmong className call index position ts).map Prod.snd =
      sitesAmong className call index ts
  | [] => rfl
  | t :: rest => by
    rw [locatedAmong, sitesAmong, List.map_append, List.map_append,
      locatedAmong_map_snd className call _ (position + 1) rest, ← located_map_snd className t]
    simp [under, Function.comp_def]

end

theorem mem_siteAt_iff {className : String} {call : Option Python.Tree} {index : Nat}
    {argument : Python.Tree} {s : Site} :
    s ∈ siteAt className call index argument ↔
      call = some s.call ∧ reference? className argument = some s.identifier ∧
        s.argument = index := by
  unfold siteAt
  split
  next call identifier hr =>
    rw [List.mem_singleton]
    constructor
    · rintro rfl
      exact ⟨rfl, hr, rfl⟩
    · rintro ⟨hc, hi, ha⟩
      rw [hr] at hi
      cases s
      simp_all
  next hno =>
    simp only [List.not_mem_nil, false_iff]
    rintro ⟨hc, hr, _⟩
    exact hno _ _ hc hr

/-- A call of the bootstrap method whose part at position `k` refers to the class makes the site
`s`. -/
structure RefersAt (className : String) (k : Nat) (argument : Python.Tree) (s : Site) : Prop where
  shape : isBootstrapCall s.call = true
  argumentAt : s.call.parts[k]? = some argument
  reference : reference? className argument = some s.identifier
  index : s.argument = (s.call.parts.take k).countP Tree.isArgument

/-- The reference of a site that a list of parts, from `position` on, makes for `call`. -/
def OwnReference (className : String) (call : Option Python.Tree) (index position : Nat)
    (ts : List Python.Tree) (p : Address) (s : Site) : Prop :=
  ∃ i argument, p = [position + i, lastNode argument.parts] ∧ ts[i]? = some argument ∧
    call = some s.call ∧ reference? className argument = some s.identifier ∧
    s.argument = index + (ts.take i).countP Tree.isArgument

theorem ownReference_cons {className : String} {call : Option Python.Tree} {index position : Nat}
    {t : Python.Tree} {rest : List Python.Tree} {p : Address} {s : Site} :
    OwnReference className call index position (t :: rest) p s ↔
      (p = [position, lastNode t.parts] ∧ s ∈ siteAt className call index t) ∨
      OwnReference className call (if t.isArgument then index + 1 else index) (position + 1) rest
        p s := by
  rw [mem_siteAt_iff]
  unfold OwnReference
  constructor
  · rintro ⟨i, argument, rfl, hat, hcall, href, hindex⟩
    cases i with
    | zero =>
      simp only [List.getElem?_cons_zero, Option.some.injEq] at hat
      subst hat
      exact .inl ⟨rfl, hcall, href, by simpa using hindex⟩
    | succ i =>
      refine .inr ⟨i, argument, by rw [Nat.add_right_comm, Nat.add_assoc], by simpa using hat, hcall,
        href, ?_⟩
      rw [hindex, List.take_succ_cons, List.countP_cons]
      split <;> omega
  · rintro (⟨rfl, hcall, href, hindex⟩ | ⟨i, argument, rfl, hat, hcall, href, hindex⟩)
    · exact ⟨0, t, rfl, rfl, hcall, href, by simpa using hindex⟩
    · refine ⟨i + 1, argument, by rw [Nat.add_right_comm, Nat.add_assoc], by simpa using hat, hcall,
        href, ?_⟩
      rw [hindex, List.take_succ_cons, List.countP_cons]
      split <;> omega

mutual

/-- The walk finds, below a tree, what refers to the class in a call of the bootstrap method. -/
theorem mem_located_iff {className : String} {p : Address} {s : Site} : ∀ t : Python.Tree,
    (p, s) ∈ located className t ↔
      ∃ q k argument, p = q ++ [k, lastNode argument.parts] ∧ t.at? q = some s.call ∧
        RefersAt className k argument s
  | .piece piece => by
    simp only [located, List.not_mem_nil, false_iff, not_exists, not_and]
    rintro q k argument - hq ⟨-, hk, -, -⟩
    cases q with
    | nil =>
      simp only [Tree.at?_nil, Option.some.injEq] at hq
      simp [← hq, Tree.parts] at hk
    | cons i q => simp [Tree.at?_piece] at hq
  | .node kind opening parts closing => by
    rw [located, mem_locatedAmong_iff parts]
    constructor
    · rintro (⟨i, q, k, argument, rfl, hq, h⟩ | ⟨i, argument, rfl, hat, hcall, href, hindex⟩)
      · exact ⟨i :: q, k, argument, by simp, by rwa [Tree.at?_cons], h⟩
      · split at hcall
        next hb =>
          simp only [Option.some.injEq] at hcall
          refine ⟨[], i, argument, by simp, by simpa using hcall, ?_, ?_, href, ?_⟩
          · rwa [← hcall]
          · rw [← hcall]; exact hat
          · rw [← hcall]; simpa [Tree.parts] using hindex
        next => simp at hcall
    · rintro ⟨q, k, argument, rfl, hq, h⟩
      cases q with
      | cons i q =>
        rw [Tree.at?_cons] at hq
        exact .inl ⟨i, q, k, argument, by simp, hq, h⟩
      | nil =>
        simp only [Tree.at?_nil, Option.some.injEq] at hq
        obtain ⟨hshape, hat, href, hindex⟩ := h
        refine .inr ⟨k, argument, by simp, ?_, ?_, href, ?_⟩
        · rw [← hq] at hat; exact hat
        · rw [if_pos (by rwa [← hq] at hshape), hq]
        · rw [← hq] at hindex; simpa [Tree.parts] using hindex

theorem mem_locatedAmong_iff {className : String} {call : Option Python.Tree}
    {index position : Nat} {p : Address} {s : Site} : ∀ ts : List Python.Tree,
    (p, s) ∈ locatedAmong className call index position ts ↔
      (∃ i q k argument, p = (position + i) :: q ++ [k, lastNode argument.parts] ∧
        atAll? ts (i :: q) = some s.call ∧ RefersAt className k argument s) ∨
      OwnReference className call index position ts p s
  | [] => by simp [locatedAmong, OwnReference]
  | t :: rest => by
    rw [locatedAmong, List.mem_append, List.mem_append, mem_locatedAmong_iff rest,
      ownReference_cons]
    have hown : (p, s) ∈ (siteAt className call index t).map
          (fun s => ([position, lastNode t.parts], s)) ↔
        p = [position, lastNode t.parts] ∧ s ∈ siteAt className call index t := by
      simp only [List.mem_map, Prod.mk.injEq]
      constructor
      · rintro ⟨s, hs, rfl, rfl⟩
        exact ⟨rfl, hs⟩
      · rintro ⟨rfl, hs⟩
        exact ⟨s, hs, rfl, rfl⟩
    have hnested : (p, s) ∈ (located className t).map (under position) ↔
        ∃ q k argument, p = position :: q ++ [k, lastNode argument.parts] ∧
          t.at? q = some s.call ∧ RefersAt className k argument s := by
      simp only [List.mem_map, under, Prod.mk.injEq]
      constructor
      · rintro ⟨⟨q, s⟩, hmem, rfl, rfl⟩
        obtain ⟨q, k, argument, rfl, hq, h⟩ := (mem_located_iff t).mp hmem
        exact ⟨q, k, argument, by simp, hq, h⟩
      · rintro ⟨q, k, argument, rfl, hq, h⟩
        exact ⟨(q ++ [k, lastNode argument.parts], s),
          (mem_located_iff t).mpr ⟨q, k, argument, rfl, hq, h⟩, by simp, rfl⟩
    rw [hown, hnested]
    constructor
    · rintro ((⟨q, k, argument, rfl, hq, h⟩ | h) | ⟨i, q, k, argument, rfl, hq, h⟩ | h)
      · exact .inl ⟨0, q, k, argument, by simp, by simpa using hq, h⟩
      · exact .inr (.inl h)
      · exact .inl ⟨i + 1, q, k, argument, by rw [Nat.add_right_comm, Nat.add_assoc],
          by simpa using hq, h⟩
      · exact .inr (.inr h)
    · rintro (⟨i, q, k, argument, rfl, hq, h⟩ | h | h)
      · cases i with
        | zero => exact .inl (.inl ⟨q, k, argument, by simp, by simpa using hq, h⟩)
        | succ i =>
          exact .inr (.inl ⟨i, q, k, argument, by rw [Nat.add_right_comm, Nat.add_assoc],
            by simpa using hq, h⟩)
      · exact .inl (.inr h)
      · exact .inr (.inr h)

end

/-! ### The order of the references -/

/-- A position of a node is not after that of the last node. -/
theorem le_lastNode {ts : List Python.Tree} {i : Nat} {u : Python.Tree} (hi : ts[i]? = some u)
    (hu : u.isNode = true) : i ≤ lastNode ts := by
  induction ts generalizing i with
  | nil => simp at hi
  | cons t rest ih =>
    cases i with
    | zero => exact Nat.zero_le _
    | succ i =>
      simp only [List.getElem?_cons_succ] at hi
      rw [lastNode, if_pos (List.any_eq_true.mpr ⟨u, List.mem_of_getElem? hi, hu⟩)]
      exact Nat.succ_le_succ (ih hi)

/-- Nothing below a name is a call. -/
theorem at?_name_ne_call {t call : Python.Tree} {id : String} {q : Address}
    (ht : t.identifier? = some id) (hcall : call.kind? = some .call) : t.at? q ≠ some call := by
  unfold Tree.identifier? at ht
  split at ht
  next o id c =>
    intro hq
    match q with
    | [] =>
      simp only [Tree.at?_nil, Option.some.injEq] at hq
      simp [← hq, Tree.kind?] at hcall
    | [0] =>
      simp only [Tree.at?_cons, Tree.parts, Tree.atAll?_cons_zero, Tree.at?_nil,
        Option.some.injEq] at hq
      simp [← hq, Tree.kind?] at hcall
    | 0 :: i :: q =>
      rw [Tree.at?_cons] at hq
      simp [Tree.parts, Tree.at?_piece] at hq
    | (i + 1) :: q =>
      rw [Tree.at?_cons] at hq
      simp [Tree.parts] at hq
  next => simp at ht

/-- What is found below an argument that refers to the class stands before the reference. -/
theorem lt_lastNode_of_mem_located {className : String} {argument identifier : Python.Tree}
    {p : Address} {s : Site} (href : reference? className argument = some identifier)
    (hmem : (p, s) ∈ located className argument) :
    ∃ i q, p = i :: q ∧ i < lastNode argument.parts := by
  obtain ⟨hkind, hat, -, hname⟩ := reference?_eq_some_iff.mp href
  obtain ⟨q, k, inner, rfl, hq, h⟩ := (mem_located_iff argument).mp hmem
  have hcall := (isBootstrapCall_iff.mp h.shape).kind?
  cases q with
  | nil =>
    simp only [Tree.at?_nil, Option.some.injEq] at hq
    rw [← hq, hkind] at hcall
    simp at hcall
  | cons i q =>
    refine ⟨i, q ++ [k, lastNode inner.parts], rfl, ?_⟩
    rw [Tree.at?] at hq
    obtain ⟨u, hu, hbelow⟩ := Option.bind_eq_some_iff.mp hq
    have hnode : u.isNode = true := by
      cases u with
      | node => rfl
      | piece piece =>
        cases q with
        | nil =>
          simp only [Tree.at?_nil, Option.some.injEq] at hbelow
          simp [← hbelow, Tree.kind?] at hcall
        | cons j q => simp [Tree.at?_piece] at hbelow
    refine Nat.lt_of_le_of_ne (le_lastNode hu hnode) ?_
    rintro rfl
    rw [hu, Option.some.injEq] at hat
    exact at?_name_ne_call (hat ▸ hname) hcall hbelow

theorem le_head_of_mem_locatedAmong {className : String} {call : Option Python.Tree}
    {index position : Nat} {ts : List Python.Tree} {p : Address} {s : Site}
    (h : (p, s) ∈ locatedAmong className call index position ts) :
    ∃ i q, p = i :: q ∧ position ≤ i := by
  rcases (mem_locatedAmong_iff ts).mp h with ⟨i, q, k, argument, rfl, _⟩ | ⟨i, argument, rfl, _⟩
  · exact ⟨position + i, q ++ [k, lastNode argument.parts], rfl, Nat.le_add_right _ _⟩
  · exact ⟨position + i, [lastNode argument.parts], rfl, Nat.le_add_right _ _⟩

mutual

/-- The walk finds references in the order of their addresses. -/
theorem located_sorted (className : String) : ∀ t : Python.Tree,
    (located className t).Pairwise (fun a b => a.1 < b.1)
  | .piece _ => .nil
  | .node kind opening parts closing => by
    rw [located]
    exact locatedAmong_sorted className _ 0 0 parts

theorem locatedAmong_sorted (className : String) (call : Option Python.Tree)
    (index position : Nat) : ∀ ts : List Python.Tree,
    (locatedAmong className call index position ts).Pairwise (fun a b => a.1 < b.1)
  | [] => .nil
  | t :: rest => by
    rw [locatedAmong, List.append_assoc, List.pairwise_append]
    refine ⟨?_, List.pairwise_append.mpr
      ⟨?_, locatedAmong_sorted className call _ (position + 1) rest, ?_⟩, ?_⟩
    · rw [List.pairwise_map]
      exact (located_sorted className t).imp fun h => List.cons_lt_cons_iff.mpr (.inr ⟨rfl, h⟩)
    · unfold siteAt
      split <;> simp
    · -- the reference in this part, and those in later parts
      rintro a ha ⟨p, s⟩ hb
      obtain ⟨_, _, rfl⟩ := List.mem_map.mp ha
      obtain ⟨i, q, rfl, hi⟩ := le_head_of_mem_locatedAmong hb
      exact List.cons_lt_cons_iff.mpr (.inl hi)
    · -- what is nested in this part comes before its own reference and before later parts
      rintro a ha ⟨p, s⟩ hb
      obtain ⟨⟨p', s'⟩, hnested, rfl⟩ := List.mem_map.mp ha
      rcases List.mem_append.mp hb with hb | hb
      · obtain ⟨own, hown, heq⟩ := List.mem_map.mp hb
        obtain ⟨rfl, rfl⟩ := Prod.mk.injEq .. ▸ heq
        obtain ⟨i, q, rfl, hi⟩ := lt_lastNode_of_mem_located (mem_siteAt_iff.mp hown).2.1 hnested
        exact List.cons_lt_cons_iff.mpr (.inr ⟨rfl, List.cons_lt_cons_iff.mpr (.inl hi)⟩)
      · obtain ⟨i, q, rfl, hi⟩ := le_head_of_mem_locatedAmong hb
        exact List.cons_lt_cons_iff.mpr (.inl hi)

end

/-! ### The sites of a module -/

theorem sitesAmong_none (className : String) (index : Nat) (ts : List Python.Tree) :
    sitesAmong className none index ts = ts.flatMap (sitesIn className) := by
  induction ts generalizing index with
  | nil => rfl
  | cons t rest ih =>
    rw [sitesAmong, ih, List.flatMap_cons]
    simp [siteAt]

theorem sites_eq_sitesAmong (className : String) (m : Python.Module) :
    sites className m = sitesAmong className none 0 m.trees := by
  rw [sitesAmong_none, Module.trees, List.flatMap_assoc]
  rfl

/-- What the walk finds in a list of trees is what matches there. -/
theorem mem_locatedAmong_iff_matchesAt {className : String} {ts : List Python.Tree} {p : Address}
    {s : Site} : (p, s) ∈ locatedAmong className none 0 0 ts ↔ MatchesAt className ts p s := by
  rw [mem_locatedAmong_iff]
  constructor
  · rintro (⟨i, q, k, argument, rfl, hq, hshape, hat, href, hindex⟩ | ⟨_, _, _, _, hcall, _⟩)
    · obtain ⟨hkind, hval, hlast, hname⟩ := reference?_eq_some_iff.mp href
      have h : MatchesAt className ts _ _ :=
        .intro hq (isBootstrapCall_iff.mp hshape) hat hkind hval hlast hname
      rw [← hindex] at h
      simpa using h
    · exact absurd hcall (by simp)
  · rintro ⟨callAt, shape, argumentAt, unstarred, valueAt, last, named⟩
    rename_i q k j call argument identifier
    obtain ⟨hj, hvalue⟩ := lastNode_eq valueAt (isNode_of_identifier? named) last
    subst hj
    cases q with
    | nil => simp at callAt
    | cons i q =>
      refine .inl ⟨i, q, k, argument, by simp, callAt, isBootstrapCall_iff.mpr shape, argumentAt,
        ?_, rfl⟩
      exact reference?_eq_some_iff.mpr ⟨unstarred, valueAt, last, named⟩

/-- The sites of a module with the addresses of their references: all its matches, in the order of
these addresses. -/
structure FoundIn (className : String) (m : Python.Module) (found : List (Address × Site)) :
    Prop where
  sites : sites className m = found.map Prod.snd
  ordered : found.Pairwise fun a b => a.1 < b.1
  exact : ∀ p s, (p, s) ∈ found ↔ MatchesAt className m.trees p s

theorem foundIn_locatedAmong (className : String) (m : Python.Module) :
    FoundIn className m (locatedAmong className none 0 0 m.trees) :=
  ⟨by rw [locatedAmong_map_snd, sites_eq_sitesAmong], locatedAmong_sorted className none 0 0 _,
    fun _ _ => mem_locatedAmong_iff_matchesAt⟩

/-! ### From the names upwards

The sites can also be found from the names of the class: every such name is met in a walk from the
top, and it makes a site if what stands above it has the right shape. -/

/-- The addresses of the names of the class. -/
def candidates (className : String) (ts : List Python.Tree) : List Address :=
  (Tree.addressesFrom 0 ts).filter fun p => (atAll? ts p).any (·.isName className)

/-- The site that the name at an address makes. What stands above it has to be an argument without a
star whose value it is, and above that a call of the bootstrap method. -/
def matchAt? (ts : List Python.Tree) (p : Address) : Option Site := do
  let identifier ← atAll? ts p
  let argument ← atAll? ts p.dropLast
  let call ← atAll? ts p.dropLast.dropLast
  if argument.kind? = some (.arg false) ∧ p.getLast? = some (lastNode argument.parts) ∧
      isBootstrapCall call then
    let before := call.parts.take (p.dropLast.getLast?.getD 0)
    some ⟨call, identifier, before.countP Tree.isArgument⟩
  else none

/-- The sites that the names of the class make, with the addresses of these names. -/
def matched (className : String) (ts : List Python.Tree) : List (Address × Site) :=
  (candidates className ts).filterMap fun p => (matchAt? ts p).map (p, ·)

theorem mem_candidates_iff {className : String} {ts : List Python.Tree} {p : Address} :
    p ∈ candidates className ts ↔
      ∃ identifier, atAll? ts p = some identifier ∧ identifier.identifier? = some className := by
  have hname (t : Python.Tree) : t.isName className = true ↔ t.identifier? = some className := by
    simp [Tree.isName]
  unfold candidates
  rw [List.mem_filter, Option.any_eq_true_iff_get, Tree.mem_addressesFrom_iff]
  constructor
  · rintro ⟨-, hsome, hid⟩
    exact ⟨_, (Option.some_get hsome).symm, (hname _).mp hid⟩
  · rintro ⟨identifier, hat, hid⟩
    cases p with
    | nil => simp at hat
    | cons i q =>
      refine ⟨⟨i, q, identifier, by rw [Nat.zero_add], hat, isNode_of_identifier? hid⟩, ?_⟩
      simp [hat, hname, hid]

/-- As many names are met as the module has. -/
theorem length_candidates (className : String) (m : Python.Module) :
    (candidates className m.trees).length = referenceCount className m := by
  have hmet := Tree.map_atAll?_addressesFrom [] m.trees
  rw [List.length_nil, List.nil_append] at hmet
  have hcount := congrArg (List.countP fun t => t.any (·.isName className)) hmet
  rw [List.countP_map, List.countP_map] at hcount
  rw [candidates, ← List.countP_eq_length_filter, referenceCount, ← m.nodesAll_trees]
  exact hcount

theorem matchAt?_concat (ts : List Python.Tree) (q : Address) (k j : Nat) :
    matchAt? ts (q ++ [k] ++ [j]) = (atAll? ts (q ++ [k] ++ [j])).bind fun identifier =>
      (atAll? ts (q ++ [k])).bind fun argument => (atAll? ts q).bind fun call =>
        if argument.kind? = some (.arg false) ∧ j = lastNode argument.parts ∧
            isBootstrapCall call then
          some ⟨call, identifier, (call.parts.take k).countP Tree.isArgument⟩
        else none := by
  simp [matchAt?, -List.append_assoc]

/-- A name that makes a site has two nodes above it. -/
theorem eq_concat_of_matchAt? {ts : List Python.Tree} {p : Address} {s : Site}
    (h : matchAt? ts p = some s) : ∃ q k j, p = q ++ [k] ++ [j] := by
  obtain rfl | ⟨r, j, rfl⟩ := p.eq_nil_or_concat'
  · simp [matchAt?] at h
  obtain rfl | ⟨q, k, rfl⟩ := r.eq_nil_or_concat'
  · simp [matchAt?] at h
  exact ⟨q, k, j, rfl⟩

theorem mem_matched_iff_matchAt? {className : String} {ts : List Python.Tree} {p : Address}
    {s : Site} :
    (p, s) ∈ matched className ts ↔ p ∈ candidates className ts ∧ matchAt? ts p = some s := by
  simp [matched, List.mem_filterMap]

/-- The names that make sites are those that match. -/
theorem mem_matched_iff {className : String} {ts : List Python.Tree} {p : Address} {s : Site} :
    (p, s) ∈ matched className ts ↔ MatchesAt className ts p s := by
  rw [mem_matched_iff_matchAt?, mem_candidates_iff]
  constructor
  · rintro ⟨⟨identifier, hat, hid⟩, h⟩
    obtain ⟨q, k, j, rfl⟩ := eq_concat_of_matchAt? h
    rw [matchAt?_concat, hat, Option.bind_some] at h
    obtain ⟨argument, hargument, habove⟩ := Option.bind_eq_some_iff.mp h
    obtain ⟨call, hcall, hsite⟩ := Option.bind_eq_some_iff.mp habove
    split at hsite
    · next hshape =>
      obtain ⟨hkind, rfl, hboot⟩ := hshape
      obtain rfl := Option.some.inj hsite
      have hpart := (Tree.atAll?_concat hcall k).symm.trans hargument
      have hvalue := (Tree.atAll?_concat hargument _).symm.trans hat
      rw [← List.append_cons q k]
      exact .intro hcall (isBootstrapCall_iff.mp hboot) hpart hkind hvalue
        (isNode_of_after_lastNode (List.mem_of_getElem? hvalue) (isNode_of_identifier? hid)) hid
    · cases hsite
  · rintro ⟨callAt, shape, argumentAt, unstarred, valueAt, last, named⟩
    rename_i q k j call argument identifier
    have hargument : atAll? ts (q ++ [k]) = some argument :=
      (Tree.atAll?_concat callAt k).trans argumentAt
    have hidentifier : atAll? ts (q ++ [k] ++ [j]) = some identifier :=
      (Tree.atAll?_concat hargument j).trans valueAt
    obtain ⟨hj, -⟩ := lastNode_eq valueAt (isNode_of_identifier? named) last
    rw [List.append_cons q k]
    refine ⟨⟨identifier, hidentifier, named⟩, ?_⟩
    rw [matchAt?_concat, hidentifier, hargument, callAt]
    simp [unstarred, hj, isBootstrapCall_iff.mpr shape]

theorem matched_sorted (className : String) (ts : List Python.Tree) :
    (matched className ts).Pairwise fun a b => a.1 < b.1 := by
  have hsorted : (candidates className ts).Pairwise (· < ·) :=
    (Tree.addressesFrom_sorted 0 ts).sublist List.filter_sublist
  refine List.pairwise_filterMap.mpr (hsorted.imp ?_)
  intro p q hlt a ha b hb
  obtain ⟨s, -, rfl⟩ := Option.map_eq_some_iff.mp ha
  obtain ⟨s', -, rfl⟩ := Option.map_eq_some_iff.mp hb
  exact hlt

/-- Upwards from the names and downwards from the top, the same sites are found in the same order. -/
theorem matched_eq_locatedAmong (className : String) (ts : List Python.Tree) :
    matched className ts = locatedAmong className none 0 0 ts := by
  have hne {a b : Address × Site} (h : a.1 < b.1) : a ≠ b := by
    rintro rfl
    exact List.lt_irrefl _ h
  have hsorted := matched_sorted className ts
  have hsorted' := locatedAmong_sorted className none 0 0 ts
  have hperm : (matched className ts).Perm (locatedAmong className none 0 0 ts) := by
    refine (List.perm_ext_iff_of_nodup (hsorted.imp hne) (hsorted'.imp hne)).mpr ?_
    rintro ⟨p, s⟩
    rw [mem_matched_iff, mem_locatedAmong_iff_matchesAt]
  refine hperm.eq_of_pairwise (fun a b _ _ hab hba => ?_) hsorted hsorted'
  exact absurd (List.lt_trans hab hba) (List.lt_irrefl _)

/-- The sites of a module are the matches in its trees, each once and in the order of the names that
make them sites. They are found among the names of the class by what stands above each. -/
theorem sites_exact (className : String) (m : Python.Module) :
    FoundIn className m (matched className m.trees) ∧
      (candidates className m.trees).length = referenceCount className m := by
  rw [matched_eq_locatedAmong]
  exact ⟨foundIn_locatedAmong className m, length_candidates className m⟩

end LocaleRegistrar.Bootstrap
