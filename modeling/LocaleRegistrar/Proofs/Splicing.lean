import LocaleRegistrar.Registration.Edit
import Mathlib.Data.List.AList
import Mathlib.Data.List.Permutation
import Mathlib.Tactic.ByContra

/-! Putting edits into a module. An edit may know its anchor as a node rather than by its position,
and the edits may be gathered by their anchors first and handed out along the body; both come to the
same. Main statements: every statement of the module and of the edits ends up in its place exactly
once, edits whose anchor is missing are refused and counted, and it does not matter in which order
edits are listed. -/

namespace LocaleRegistrar.Registration

open LocaleRegistrar.Python
open scoped List

/-! ### Sorting by order -/

/-- The list in ascending order, where members of the same order stay as they are listed. -/
structure StablySorted {α : Type} (order : α → Int) (es sorted : List α) : Prop where
  ascending : sorted.Pairwise fun a b => order a ≤ order b
  ties : ∀ k, sorted.filter (order · = k) = es.filter (order · = k)

section

variable {α : Type} (order : α → Int)

theorem order_trans (a b c : α) (hab : decide (order a ≤ order b) = true)
    (hbc : decide (order b ≤ order c) = true) : decide (order a ≤ order c) = true := by
  simp only [decide_eq_true_eq] at hab hbc ⊢
  omega

theorem order_total (a b : α) : (decide (order a ≤ order b) || decide (order b ≤ order a)) = true := by
  simp only [Bool.or_eq_true, decide_eq_true_eq]
  omega

theorem stablySorted_mergeSort (es : List α) :
    StablySorted order es (es.mergeSort fun a b => order a ≤ order b) := by
  refine ⟨?_, fun k => ?_⟩
  · simpa using List.pairwise_mergeSort (order_trans order) (order_total order) es
  · -- members of one order are in order as they are listed, and so they are listed the same way in
    -- the result, where there are no others of that order
    have hties : (es.filter (order · = k)).Pairwise fun a b => decide (order a ≤ order b) = true := by
      refine List.pairwise_filter.mpr (List.pairwise_of_forall fun a b ha hb => ?_)
      simp only [decide_eq_true_eq] at ha hb ⊢
      omega
    have hsublist := (List.sublist_mergeSort (order_trans order) (order_total order) hties
      List.filter_sublist).filter (order · = k)
    rw [List.filter_filter] at hsublist
    simp only [Bool.and_self] at hsublist
    refine (hsublist.eq_of_length ?_).symm
    exact ((List.mergeSort_perm es _).filter _).length_eq.symm

theorem mergeSort_map {β : Type} (f : β → α) (es : List β) :
    (es.map f).mergeSort (fun a b => order a ≤ order b) =
      (es.mergeSort fun a b => order (f a) ≤ order (f b)).map f :=
  (List.map_mergeSort (f := f) fun _ _ _ _ => rfl).symm

/-- With pairwise different orders, there is one way to sort. -/
theorem mergeSort_eq_of_perm {es es' : List α} (hperm : es ~ es')
    (hdistinct : es.Pairwise fun a b => order a ≠ order b) :
    es.mergeSort (fun a b => order a ≤ order b) = es'.mergeSort fun a b => order a ≤ order b := by
  have hsorted := List.mergeSort_perm es fun a b => decide (order a ≤ order b)
  have hsorted' := List.mergeSort_perm es' fun a b => decide (order a ≤ order b)
  refine List.Perm.eq_of_pairwise (fun a b ha hb hab hba => ?_)
    (stablySorted_mergeSort order es).ascending (stablySorted_mergeSort order es').ascending
    (hsorted.trans (hperm.trans hsorted'.symm))
  by_contra hne
  have : Std.Symm fun a b => order a ≠ order b := ⟨fun _ _ => Ne.symm⟩
  exact hdistinct.forall (hsorted.mem_iff.mp ha)
    (hperm.mem_iff.mpr (hsorted'.mem_iff.mp hb)) hne (by omega)

end

/-! ### Anchors that are nodes -/

/-- An edit that knows its anchor as a node, whether of the module or of another tree. -/
structure NodeEdit (ι : Type) where
  anchor : Option ι
  statement : Statement
  order : Int

/-- The statements of edits at one anchor. -/
def inOrder {ι : Type} (es : List (NodeEdit ι)) : List Statement :=
  (es.mergeSort fun a b => a.order ≤ b.order).map (·.statement)

/-- Edits at one anchor are sorted in one way only, however they are listed. -/
theorem inOrder_filter_eq_of_perm {ι : Type} {edits edits' : List (NodeEdit ι)}
    (hperm : edits ~ edits')
    (hdistinct : edits.Pairwise fun a b => a.anchor = b.anchor → a.order ≠ b.order)
    (p : NodeEdit ι → Bool) (hp : ∀ a b, p a = true → p b = true → a.anchor = b.anchor) :
    inOrder (edits.filter p) = inOrder (edits'.filter p) := by
  have hgroup : (edits.filter p).Pairwise fun a b => a.order ≠ b.order := by
    refine List.pairwise_filter.mpr (hdistinct.imp ?_)
    intro a b h ha hb
    exact h (hp a b ha hb)
  rw [inOrder, inOrder, mergeSort_eq_of_perm NodeEdit.order (hperm.filter p) hgroup]

section

variable {ι : Type} [DecidableEq ι]

namespace NodeEdit

/-- Is the edit's anchor one of the nodes? -/
def isAmong (nodes : List ι) (e : NodeEdit ι) : Bool := e.anchor.any (nodes.contains ·)

/-- Does the edit have an anchor that is none of the nodes? -/
def isLost (nodes : List ι) (e : NodeEdit ι) : Bool := e.anchor.isSome && !e.isAmong nodes

/-- The edit with the first position that its anchor has among the nodes, and the position past them
all if it is none of them. -/
def place (nodes : List ι) (e : NodeEdit ι) : Edit :=
  ⟨e.anchor.map nodes.idxOf, e.statement, e.order⟩

theorem isLost_iff {nodes : List ι} {e : NodeEdit ι} :
    e.isLost nodes = true ↔ ∃ a, e.anchor = some a ∧ a ∉ nodes := by
  cases he : e.anchor <;> simp [isLost, isAmong, he]

theorem isStray_place (nodes : List ι) (e : NodeEdit ι) :
    isStray nodes.length (e.place nodes) = e.isLost nodes := by
  obtain ⟨anchor, statement, order⟩ := e
  cases anchor with
  | none => rfl
  | some a =>
    have hmem : nodes.length ≤ nodes.idxOf a ↔ a ∉ nodes := by
      rw [← List.idxOf_lt_length_iff, Nat.not_lt]
    simp [isStray, place, isLost, isAmong, hmem]

end NodeEdit

open NodeEdit (place)

theorem countP_isStray_place (nodes : List ι) (edits : List (NodeEdit ι)) :
    (edits.map (place nodes)).countP (isStray nodes.length) = edits.countP (·.isLost nodes) := by
  rw [List.countP_map]
  exact List.countP_congr fun e _ => by rw [Function.comp_apply, NodeEdit.isStray_place]

theorem statementsAt_place (nodes : List ι) (edits : List (NodeEdit ι)) (position : Option Nat) :
    statementsAt (edits.map (place nodes)) position =
      inOrder (edits.filter fun e => e.anchor.map nodes.idxOf == position) := by
  rw [statementsAt, List.filter_map, mergeSort_map Edit.order, List.map_map]
  rfl

theorem statementsAt_place_none (nodes : List ι) (edits : List (NodeEdit ι)) :
    statementsAt (edits.map (place nodes)) none = inOrder (edits.filter (·.anchor == none)) := by
  rw [statementsAt_place]
  congr 2
  funext e
  cases e.anchor <;> rfl

theorem idxOf_eq_length_iff {seen rest : List ι} {a b : ι} :
    (seen ++ a :: rest).idxOf b = seen.length ↔ b ∉ seen ∧ b = a := by
  by_cases hb : b ∈ seen
  · have hlt := List.idxOf_lt_length_iff.mpr hb
    rw [List.idxOf_append_of_mem hb]
    simp [hb, Nat.ne_of_lt hlt]
  · rw [List.idxOf_append_of_notMem hb, List.idxOf_cons]
    by_cases ha : a = b
    · simp [ha, hb]
    · simp [beq_eq_false_iff_ne.mpr ha, hb, Ne.symm ha]

theorem anchor_of_position {nodes : List ι} {k : Nat} {anchor : Option ι} (hk : k < nodes.length)
    (h : anchor.map nodes.idxOf = some k) : anchor = nodes[k]? := by
  obtain ⟨a, rfl, rfl⟩ := Option.map_eq_some_iff.mp h
  exact (List.getElem?_idxOf (List.idxOf_lt_length_iff.mp hk)).symm

/-- At a node go the edits that name it, unless the same node came before. -/
theorem statementsAt_place_some (seen rest : List ι) (a : ι) (edits : List (NodeEdit ι)) :
    statementsAt (edits.map (place (seen ++ a :: rest))) (some seen.length) =
      inOrder ((edits.filter fun e => !e.isAmong seen).filter (·.anchor == some a)) := by
  rw [statementsAt_place, List.filter_filter]
  congr 2
  funext e
  cases he : e.anchor with
  | none => rfl
  | some b =>
    have hb := @idxOf_eq_length_iff _ _ seen rest a b
    rw [Bool.eq_iff_iff]
    simp [NodeEdit.isAmong, he, hb, and_comm]

/-! ### Gathering edits by their anchors -/

/-- Edits that wait for their anchors, in groups. -/
abbrev Pending (ι : Type) := AList fun _ : ι => List (NodeEdit ι)

namespace Pending

/-- The edits that wait for a node. -/
def group (p : Pending ι) (a : ι) : List (NodeEdit ι) := (p.lookup a).getD []

/-- Lets one more edit wait for a node, after those that do already. -/
def add (p : Pending ι) (a : ι) (e : NodeEdit ι) : Pending ι := p.insert a (p.group a ++ [e])

/-- Lets nothing wait for a node any more. -/
def release (p : Pending ι) (a : ι) : Pending ι := p.erase a

/-- How many edits wait. -/
def size (p : Pending ι) : Nat := (p.entries.flatMap fun x => x.2).length

theorem size_release (p : Pending ι) (a : ι) :
    (p.release a).size + (p.group a).length = p.size := by
  obtain ⟨entries, hkeys⟩ := p
  show ((entries.kerase a).flatMap fun x => x.2).length + ((entries.dlookup a).getD []).length =
    (entries.flatMap fun x => x.2).length
  clear hkeys
  induction entries with
  | nil => rfl
  | cons x rest ih =>
    by_cases hx : a = x.1
    · obtain ⟨b, es⟩ := x
      subst hx
      simp [Nat.add_comm]
    · rw [List.kerase_cons_ne hx, List.dlookup_cons_ne _ x hx]
      simp only [List.flatMap_cons, List.length_append]
      omega

theorem size_add (p : Pending ι) (a : ι) (e : NodeEdit ι) : (p.add a e).size = p.size + 1 := by
  have hinsert : (p.add a e).size = (p.group a ++ [e]).length + (p.release a).size := by
    rw [size, add, AList.entries_insert, List.flatMap_cons, List.length_append]
    rfl
  rw [hinsert, ← size_release p a, List.length_append, List.length_singleton]
  omega

theorem group_add (p : Pending ι) (a b : ι) (e : NodeEdit ι) :
    (p.add a e).group b = if b = a then p.group a ++ [e] else p.group b := by
  unfold group add
  split
  next hb => rw [hb, AList.lookup_insert, Option.getD_some]; rfl
  next hb => rw [AList.lookup_insert_ne hb]

theorem group_release (p : Pending ι) (a b : ι) :
    (p.release a).group b = if b = a then [] else p.group b := by
  unfold group release
  split
  next hb => rw [hb, AList.lookup_erase, Option.getD_none]
  next hb => rw [AList.lookup_erase_ne hb]

/-- The edits of a list that have an anchor wait for it, and no others do. -/
structure Holds (p : Pending ι) (es : List (NodeEdit ι)) : Prop where
  group_eq : ∀ a, p.group a = es.filter (·.anchor == some a)
  nonempty : ∀ a ∈ p, p.group a ≠ []
  size_eq : p.size = es.countP (·.anchor.isSome)

theorem holds_empty : Holds (∅ : Pending ι) [] :=
  ⟨fun _ => rfl, fun a ha => absurd ha (AList.notMem_empty a), rfl⟩

theorem Holds.pass {p : Pending ι} {es : List (NodeEdit ι)} {e : NodeEdit ι} (h : p.Holds es)
    (he : e.anchor = none) : p.Holds (es ++ [e]) := by
  refine ⟨fun a => ?_, h.nonempty, ?_⟩
  · simp [h.group_eq, List.filter_append, he]
  · simp [h.size_eq, he]

theorem Holds.add {p : Pending ι} {es : List (NodeEdit ι)} {e : NodeEdit ι} {a : ι}
    (h : p.Holds es) (he : e.anchor = some a) : (p.add a e).Holds (es ++ [e]) := by
  refine ⟨fun b => ?_, fun b hb => ?_, ?_⟩
  · rw [group_add, List.filter_append, h.group_eq, h.group_eq]
    by_cases hb : b = a
    · simp [hb, he]
    · simp [hb, he, Ne.symm hb]
  · rw [group_add]
    split
    · exact List.append_ne_nil_of_right_ne_nil _ (List.cons_ne_nil _ _)
    next hne => exact h.nonempty b (((AList.mem_insert _).mp hb).resolve_left hne)
  · simp [size_add, h.size_eq, he]

theorem Holds.release {p : Pending ι} {es : List (NodeEdit ι)} (h : p.Holds es) (a : ι) :
    (p.release a).Holds (es.filter fun e => !(e.anchor == some a)) := by
  refine ⟨fun b => ?_, fun b hb => ?_, ?_⟩
  · rw [group_release, List.filter_filter, h.group_eq]
    split
    next hb =>
      subst hb
      simp
    next hb =>
      refine List.filter_congr fun e _ => ?_
      by_cases he : e.anchor = some b
      · simp [he, hb]
      · simp [he]
  · obtain ⟨hne, hb⟩ := AList.mem_erase.mp hb
    rw [group_release, if_neg hne]
    exact h.nonempty b hb
  · have hsize := size_release p a
    rw [h.size_eq, h.group_eq] at hsize
    have hgroup : (es.filter (·.anchor == some a)).countP (·.anchor.isSome) =
        (es.filter (·.anchor == some a)).length := by
      refine List.countP_eq_length.mpr fun e he => ?_
      rw [eq_of_beq (List.mem_filter.mp he).2]
      rfl
    have hcount := List.countP_eq_countP_filter_add es (·.anchor.isSome) (·.anchor == some a)
    omega

theorem Holds.isEmpty_iff {p : Pending ι} {es : List (NodeEdit ι)} (h : p.Holds es) :
    p.entries.isEmpty = true ↔ es.countP (·.anchor.isSome) = 0 := by
  rw [← h.size_eq, List.isEmpty_iff]
  constructor
  · intro hnil
    rw [size, hnil]
    rfl
  · intro hzero
    obtain ⟨entries, hkeys⟩ := p
    cases entries with
    | nil => rfl
    | cons x rest =>
      obtain ⟨a, waiting⟩ := x
      refine absurd ?_ (h.nonempty a (by simp [AList.mem_keys]))
      have hwaiting : waiting.length = 0 := by
        rw [size, List.flatMap_cons, List.length_append] at hzero
        exact (Nat.add_eq_zero_iff.mp hzero).1
      rw [group, AList.lookup, List.dlookup_cons_eq]
      exact List.length_eq_zero_iff.mp hwaiting

end Pending

/-- Lets an edit wait for its anchor, or puts it with those that have none. -/
def gatherStep (gathered : Pending ι × List (NodeEdit ι)) (e : NodeEdit ι) :
    Pending ι × List (NodeEdit ι) :=
  match e.anchor with
  | some a => (gathered.1.add a e, gathered.2)
  | none => (gathered.1, gathered.2 ++ [e])

/-- The edits by their anchors, and those without one. -/
def gather (edits : List (NodeEdit ι)) : Pending ι × List (NodeEdit ι) :=
  edits.foldl gatherStep (∅, [])

/-- Hands out the edits that wait, each group at the first statement that is its node. The result is
the body, and what waits still. -/
def handOut : Pending ι → List (ι × Statement) → List Statement × Pending ι
  | p, [] => ([], p)
  | p, (a, s) :: rest =>
    let (body, left) := handOut (p.release a) rest
    (inOrder (p.group a) ++ s :: body, left)

/-- The module with all edits put in, in one pass over them and one over the body. -/
def applyGathered (nodes : List ι) (m : Python.Module) (edits : List (NodeEdit ι)) :
    Except StrayAnchors Module :=
  let (pending, trailing) := gather edits
  let (body, left) := handOut pending (nodes.zip m.body)
  if left.entries.isEmpty then .ok { m with body := body ++ inOrder trailing }
  else .error ⟨left.size⟩

theorem gatherStep_spec {p : Pending ι} {trailing es : List (NodeEdit ι)} (e : NodeEdit ι)
    (hp : p.Holds es) (ht : trailing = es.filter (·.anchor == none)) :
    (gatherStep (p, trailing) e).1.Holds (es ++ [e]) ∧
      (gatherStep (p, trailing) e).2 = (es ++ [e]).filter (·.anchor == none) := by
  unfold gatherStep
  split
  next a he => exact ⟨hp.add he, by simp [ht, he]⟩
  next he => exact ⟨hp.pass he, by simp [ht, he]⟩

theorem foldl_gatherStep_spec (edits : List (NodeEdit ι)) {p : Pending ι}
    {trailing es : List (NodeEdit ι)} (hp : p.Holds es)
    (ht : trailing = es.filter (·.anchor == none)) :
    (edits.foldl gatherStep (p, trailing)).1.Holds (es ++ edits) ∧
      (edits.foldl gatherStep (p, trailing)).2 = (es ++ edits).filter (·.anchor == none) := by
  induction edits generalizing p trailing es with
  | nil =>
    rw [List.append_nil]
    exact ⟨hp, ht⟩
  | cons e edits ih =>
    obtain ⟨hp', ht'⟩ := gatherStep_spec e hp ht
    rw [List.foldl_cons, List.append_cons]
    exact ih hp' ht'

theorem gather_spec (edits : List (NodeEdit ι)) :
    (gather edits).1.Holds edits ∧ (gather edits).2 = edits.filter (·.anchor == none) :=
  foldl_gatherStep_spec edits Pending.holds_empty rfl

/-- What is handed out along the rest of a body is what goes there, and what waits in the end has no
anchor in the body. -/
theorem handOut_spec {edits : List (NodeEdit ι)} {seen rest : List ι} {body : List Statement}
    {p : Pending ι} (hp : p.Holds (edits.filter fun e => !e.isAmong seen))
    (hrest : rest.length = body.length) :
    (handOut p (rest.zip body)).1 ++ inOrder (edits.filter (·.anchor == none)) =
        splice (edits.map (place (seen ++ rest))) seen.length body ∧
      (handOut p (rest.zip body)).2.Holds (edits.filter fun e => !e.isAmong (seen ++ rest)) := by
  induction rest generalizing seen body p with
  | nil =>
    obtain rfl := List.length_eq_zero_iff.mp hrest.symm
    rw [splice, statementsAt_place_none, List.append_nil]
    exact ⟨rfl, hp⟩
  | cons a rest ih =>
    cases body with
    | nil => cases hrest
    | cons s body =>
      have hnodes : seen ++ a :: rest = (seen ++ [a]) ++ rest := by simp
      have hrelease : (p.release a).Holds (edits.filter fun e => !e.isAmong (seen ++ [a])) := by
        have h := hp.release a
        rw [List.filter_filter] at h
        convert h using 3 with e
        rw [Bool.eq_iff_iff]
        cases he : e.anchor <;> simp [NodeEdit.isAmong, he, and_comm]
      obtain ⟨hbody, hleft⟩ := ih hrelease (Nat.succ.inj hrest)
      rw [List.length_append, List.length_singleton, ← hnodes] at hbody
      rw [← hnodes] at hleft
      rw [List.zip_cons_cons, handOut, splice, statementsAt_place_some, ← hp.group_eq, ← hbody]
      exact ⟨by simp, hleft⟩

/-- Gathering the edits first gives the same module, or refuses the same number of edits. -/
theorem applyGathered_eq_apply (nodes : List ι) (m : Python.Module) (edits : List (NodeEdit ι))
    (hnodes : nodes.length = m.body.length) :
    applyGathered nodes m edits = apply m (edits.map (place nodes)) := by
  obtain ⟨hall, htrailing⟩ := gather_spec edits
  have hunseen : (edits.filter fun e => !e.isAmong []) = edits := by
    refine List.filter_eq_self.mpr fun e _ => ?_
    cases he : e.anchor <;> simp [NodeEdit.isAmong, he]
  have hpending : (gather edits).1.Holds (edits.filter fun e => !e.isAmong []) := by
    rwa [hunseen]
  obtain ⟨hbody, hleft⟩ := handOut_spec hpending hnodes
  have hcount : (edits.filter fun e => !e.isAmong nodes).countP (·.anchor.isSome) =
      (edits.map (place nodes)).countP (isStray m.body.length) := by
    rw [← hnodes, countP_isStray_place, List.countP_filter]
    rfl
  rw [List.nil_append] at hbody hleft
  simp only [applyGathered, apply, hleft.size_eq, hleft.isEmpty_iff, hcount, htrailing, hbody,
    List.length_nil]

/-! ### Where everything ends up -/

theorem sublist_splice (edits : List Edit) (i : Nat) (body : List Statement) :
    body.Sublist (splice edits i body) := by
  induction body generalizing i with
  | nil => exact List.nil_sublist _
  | cons s rest ih => exact ((ih (i + 1)).cons_cons s).trans (List.sublist_append_right _ _)

theorem statementsAt_perm (edits : List Edit) (anchor : Option Nat) :
    statementsAt edits anchor ~ (edits.filter (·.anchor == anchor)).map (·.statement) :=
  (List.mergeSort_perm _ _).map _

/-- Is the edit put in at position `i` or later? -/
def isFrom (i : Nat) (e : Edit) : Bool := e.anchor.all (i ≤ ·)

/-- The statements from position `i` on with what is put in there. -/
theorem splice_perm {edits : List Edit} {i : Nat} {body : List Statement}
    (h : ∀ e ∈ edits, isStray (i + body.length) e = false) :
    splice edits i body ~ body ++ (edits.filter (isFrom i)).map (·.statement) := by
  induction body generalizing i with
  | nil =>
    have hlast : edits.filter (isFrom i) = edits.filter (·.anchor == none) := by
      refine List.filter_congr fun e he => ?_
      have hstray := h e he
      cases hanchor : e.anchor with
      | none => simp [isFrom, hanchor]
      | some k => simpa [isFrom, isStray, hanchor] using hstray
    rw [hlast]
    exact statementsAt_perm edits none
  | cons s rest ih =>
    have hrest := ih (i := i + 1) fun e he => by
      rw [← h e he, List.length_cons]
      congr 1
      omega
    -- the edits from here on are those of this position and those from the next one on
    have hhere : (edits.filter (isFrom i)).filter (·.anchor == some i) =
        edits.filter (·.anchor == some i) := by
      rw [List.filter_filter]
      refine List.filter_congr fun e _ => ?_
      cases hanchor : e.anchor with
      | none => rfl
      | some k =>
        simp [isFrom, hanchor]
        omega
    have hlater : (edits.filter (isFrom i)).filter (fun e => !(e.anchor == some i)) =
        edits.filter (isFrom (i + 1)) := by
      rw [List.filter_filter]
      refine List.filter_congr fun e _ => ?_
      rw [Bool.eq_iff_iff]
      cases hanchor : e.anchor with
      | none => simp [isFrom, hanchor]
      | some k =>
        simp [isFrom, hanchor]
        omega
    have hparts := (List.filter_append_perm (·.anchor == some i) (edits.filter (isFrom i))).map
      (·.statement)
    rw [hhere, hlater, List.map_append] at hparts
    calc statementsAt edits (some i) ++ s :: splice edits (i + 1) rest
      ~ (edits.filter (·.anchor == some i)).map (·.statement) ++
          (s :: rest ++ (edits.filter (isFrom (i + 1))).map (·.statement)) :=
            (statementsAt_perm edits (some i)).append (hrest.cons s)
      _ ~ s :: rest ++ ((edits.filter (·.anchor == some i)).map (·.statement) ++
          (edits.filter (isFrom (i + 1))).map (·.statement)) := List.perm_append_comm_assoc _ _ _
      _ ~ s :: rest ++ (edits.filter (isFrom i)).map (·.statement) :=
            hparts.append_left _

/-- The body of a module where no anchor of the edits comes twice: before every statement what is
anchored at it, and what has no anchor at the end. -/
theorem splice_place_of_count {edits : List (NodeEdit ι)} {seen rest : List ι}
    {body : List Statement}
    (honce : ∀ e ∈ edits, ∀ a, e.anchor = some a → (seen ++ rest).count a ≤ 1)
    (hrest : rest.length = body.length) :
    splice (edits.map (place (seen ++ rest))) seen.length body =
      (rest.zip body).flatMap (fun x => inOrder (edits.filter (·.anchor == some x.1)) ++ [x.2]) ++
        inOrder (edits.filter (·.anchor == none)) := by
  induction rest generalizing seen body with
  | nil =>
    obtain rfl := List.length_eq_zero_iff.mp hrest.symm
    exact statementsAt_place_none _ _
  | cons a rest ih =>
    cases body with
    | nil => cases hrest
    | cons s body =>
      have hnodes : seen ++ a :: rest = (seen ++ [a]) ++ rest := by simp
      have hgroup : (edits.filter fun e => !e.isAmong seen).filter (·.anchor == some a) =
          edits.filter (·.anchor == some a) := by
        rw [List.filter_filter]
        refine List.filter_congr fun e hmem => ?_
        by_cases he : e.anchor = some a
        · have ha : a ∉ seen := by
            have hcount := honce e hmem a he
            rw [List.count_append, List.count_cons_self] at hcount
            exact List.count_eq_zero.mp (by omega)
          simp [NodeEdit.isAmong, he, ha]
        · simp [he]
      have hlater := @ih (seen ++ [a]) body (hnodes ▸ honce) (Nat.succ.inj hrest)
      rw [List.length_append, List.length_singleton, ← hnodes] at hlater
      rw [splice, statementsAt_place_some, hgroup, hlater, List.zip_cons_cons, List.flatMap_cons]
      simp

theorem splice_place {edits : List (NodeEdit ι)} {seen rest : List ι} {body : List Statement}
    (hdistinct : (seen ++ rest).Nodup) (hrest : rest.length = body.length) :
    splice (edits.map (place (seen ++ rest))) seen.length body =
      (rest.zip body).flatMap (fun x => inOrder (edits.filter (·.anchor == some x.1)) ++ [x.2]) ++
        inOrder (edits.filter (·.anchor == none)) :=
  splice_place_of_count (fun _ _ a _ => List.nodup_iff_count_le_one.mp hdistinct a) hrest

/-- How edits end up in a module: before each statement the edits that name its node, by their
orders, then the edits without an anchor. Everything is there once, the statements of the module are
in their order, and what is outside the body stays as it is. -/
structure Spliced (nodes : List ι) (m : Python.Module) (edits : List (NodeEdit ι))
    (edited : Python.Module) : Prop where
  body : ∃ sorted : Option ι → List (NodeEdit ι),
    (∀ anchor, StablySorted (·.order) (edits.filter (·.anchor == anchor)) (sorted anchor)) ∧
      edited.body =
        (nodes.zip m.body).flatMap (fun x => (sorted (some x.1)).map (·.statement) ++ [x.2]) ++
          (sorted none).map (·.statement)
  conserved : edited.body ~ m.body ++ edits.map (·.statement)
  kept : m.body <+ edited.body
  outside : edited = { m with body := edited.body }

/-- Edits are put into a module with different nodes. They are refused exactly if one of them has an
anchor that is none of the nodes, and all of these are counted; otherwise all edits end up in their
places. Gathering the edits by their anchors first makes no difference. -/
theorem apply_splices (nodes : List ι) (m : Python.Module) (hnodes : nodes.length = m.body.length)
    (hdistinct : nodes.Nodup) (edits : List (NodeEdit ι)) :
    applyGathered nodes m edits = apply m (edits.map (place nodes)) ∧
    ((∃ stray, apply m (edits.map (place nodes)) = .error stray) ↔
      ∃ e ∈ edits, ∃ a, e.anchor = some a ∧ a ∉ nodes) ∧
    (∀ stray, apply m (edits.map (place nodes)) = .error stray →
      stray.message = toString (edits.countP (·.isLost nodes)) ++
        " edit(s) reference an anchor outside the module body.") ∧
    ((∀ e ∈ edits, e.isLost nodes = false) →
      ∃ edited, apply m (edits.map (place nodes)) = .ok edited ∧ Spliced nodes m edits edited) := by
  have hstray := countP_isStray_place nodes edits
  rw [hnodes] at hstray
  refine ⟨applyGathered_eq_apply nodes m edits hnodes, ?_, fun stray h => ?_, fun hnone => ?_⟩
  · simp only [← NodeEdit.isLost_iff, ← List.countP_pos_iff, apply, hstray]
    split
    next hzero => simp [hzero]
    next hpos => simp [Nat.pos_of_ne_zero hpos]
  · simp only [apply, hstray] at h
    split at h
    · cases h
    · cases h
      rfl
  · have hzero : edits.countP (·.isLost nodes) = 0 := by simpa [List.countP_eq_zero] using hnone
    refine ⟨_, by rw [apply, hstray, hzero]; rfl, ?_, ?_, sublist_splice _ 0 m.body, rfl⟩
    · exact ⟨_, fun anchor => stablySorted_mergeSort NodeEdit.order _,
        @splice_place _ _ edits [] nodes m.body hdistinct hnodes⟩
    · have hfrom : (edits.map (place nodes)).filter (isFrom 0) = edits.map (place nodes) := by
        refine List.filter_eq_self.mpr fun e _ => ?_
        cases he : e.anchor <;> simp [isFrom, he]
      have hperm := @splice_perm (edits.map (place nodes)) 0 m.body
      rw [Nat.zero_add, hfrom, List.map_map] at hperm
      refine hperm fun e he => ?_
      simpa using List.countP_eq_zero.mp (hstray.trans hzero) e he

/-- Two of the edits before the second statement have one order; then two edits are lost. -/
theorem apply_splices_tied_orders :
    let line (text : String) : Statement := lineOf (.text text)
    let m : Python.Module := { body := [line "x", line "y"] }
    let edits : List (NodeEdit Nat) :=
      [⟨some 20, line "a", 5⟩, ⟨none, line "b", 0⟩, ⟨some 20, line "c", 5⟩, ⟨some 20, line "d", -1⟩,
       ⟨some 10, line "e", 7⟩]
    let lost : List (NodeEdit Nat) := [⟨some 30, line "f", 0⟩, ⟨some 40, line "g", 0⟩]
    [10, 20].length = m.body.length ∧ [10, 20].Nodup ∧
    (∃ edited, apply m (edits.map (place [10, 20])) = .ok edited ∧
      Spliced [10, 20] m edits edited ∧
      edited.body = [line "e", line "x", line "d", line "a", line "c", line "y", line "b"]) ∧
    ∃ stray, apply m ((edits ++ lost).map (place [10, 20])) = .error stray ∧
      stray.message = "2 edit(s) reference an anchor outside the module body." := by
  intro line m edits lost
  have hnodes : [10, 20].length = m.body.length := rfl
  have hdistinct : [10, 20].Nodup := by decide
  obtain ⟨-, -, -, hplaced⟩ := apply_splices [10, 20] m hnodes hdistinct edits
  obtain ⟨-, hrefused, hcounted, -⟩ := apply_splices [10, 20] m hnodes hdistinct (edits ++ lost)
  obtain ⟨edited, happly, hspliced⟩ := hplaced (by decide)
  obtain ⟨stray, hstray⟩ := hrefused.mpr ⟨⟨some 30, line "f", 0⟩, by simp [lost], 30, rfl, by decide⟩
  refine ⟨hnodes, hdistinct, ⟨edited, happly, hspliced, ?_⟩, stray, hstray,
    (hcounted stray hstray).trans (by decide)⟩
  have hbody : apply m (edits.map (place [10, 20])) =
      .ok { body := [line "e", line "x", line "d", line "a", line "c", line "y", line "b"] } := by
    cbv
  rw [← Except.ok.inj (hbody.symm.trans happly)]

/-! ### The listing of edits -/

theorem splice_congr {edits edits' : List Edit} {i : Nat} {body : List Statement}
    (hnone : statementsAt edits none = statementsAt edits' none)
    (hsome : ∀ k, k < i + body.length →
      statementsAt edits (some k) = statementsAt edits' (some k)) :
    splice edits i body = splice edits' i body := by
  induction body generalizing i with
  | nil => exact hnone
  | cons s rest ih =>
    have hlength : i + (s :: rest).length = i + 1 + rest.length := by
      rw [List.length_cons]
      omega
    rw [hlength] at hsome
    rw [splice, splice, hsome i (by omega), ih hsome]

/-- Edits at the same anchor have different orders, and so do edits without one. Then any two
listings of the edits give the same module, or are refused with the same count. -/
theorem apply_eq_of_perm (nodes : List ι) (m : Python.Module)
    (hnodes : nodes.length = m.body.length) {edits edits' : List (NodeEdit ι)}
    (hperm : edits ~ edits')
    (hdistinct : edits.Pairwise fun a b => a.anchor = b.anchor → a.order ≠ b.order) :
    apply m (edits.map (place nodes)) = apply m (edits'.map (place nodes)) ∧
      applyGathered nodes m edits = applyGathered nodes m edits' := by
  have hbody : splice (edits.map (place nodes)) 0 m.body =
      splice (edits'.map (place nodes)) 0 m.body := by
    refine splice_congr ?_ fun k hk => ?_
    · rw [statementsAt_place_none, statementsAt_place_none]
      refine inOrder_filter_eq_of_perm hperm hdistinct _ fun a b ha hb => ?_
      rw [eq_of_beq ha, eq_of_beq hb]
    · rw [statementsAt_place, statementsAt_place]
      refine inOrder_filter_eq_of_perm hperm hdistinct _ fun a b ha hb => ?_
      rw [Nat.zero_add, ← hnodes] at hk
      rw [anchor_of_position hk (eq_of_beq ha), anchor_of_position hk (eq_of_beq hb)]
  have happly : apply m (edits.map (place nodes)) = apply m (edits'.map (place nodes)) := by
    rw [apply, apply, hbody, (hperm.map _).countP_eq]
  exact ⟨happly, by rw [applyGathered_eq_apply nodes m _ hnodes, happly,
    applyGathered_eq_apply nodes m _ hnodes]⟩

/-- Edits listed forwards and backwards, for a module that has one node twice. -/
theorem apply_eq_of_perm_reversed :
    let line (text : String) : Statement := lineOf (.text text)
    let m : Python.Module := { body := [line "x", line "y", line "x"] }
    let edits : List (NodeEdit Nat) :=
      [⟨some 20, line "a", 5⟩, ⟨none, line "b", 0⟩, ⟨some 10, line "c", 5⟩, ⟨some 20, line "d", -1⟩]
    (edits.Pairwise fun a b => a.anchor = b.anchor → a.order ≠ b.order) ∧
      apply m (edits.reverse.map (place [10, 20, 10])) = apply m (edits.map (place [10, 20, 10])) ∧
      apply m (edits.map (place [10, 20, 10])) =
        .ok { body := [line "c", line "x", line "d", line "a", line "y", line "x", line "b"] } := by
  intro line m edits
  have hdistinct : edits.Pairwise fun a b => a.anchor = b.anchor → a.order ≠ b.order := by decide
  have hnodes : [10, 20, 10].length = m.body.length := rfl
  obtain ⟨hsame, -⟩ := apply_eq_of_perm [10, 20, 10] m hnodes edits.reverse_perm.symm hdistinct
  exact ⟨hdistinct, hsame.symm, by cbv⟩

end

end LocaleRegistrar.Registration
