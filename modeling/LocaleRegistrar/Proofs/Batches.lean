import LocaleRegistrar.Proofs.Splicing

/-! Edits that are put into a module in two batches. The nodes of the module are still there after
the first batch, so that the second one finds its anchors. Main statement: if no order of the second
batch is below one of the first at the same anchor, the module is the same as if all edits were put
in at once. -/

namespace LocaleRegistrar.Registration

open LocaleRegistrar.Python
open scoped List

/-! ### Sorting batches -/

section

variable {α : Type} {order : α → Int}

/-- The first member of an ascending list is at most that of another list with the same members of
each order. -/
theorem order_head_le {a b : α} {rest rest' : List α}
    (hasc : (b :: rest').Pairwise fun x y => order x ≤ order y)
    (hties : ∀ k, (a :: rest).filter (order · = k) = (b :: rest').filter (order · = k)) :
    order b ≤ order a := by
  have ha : a ∈ (b :: rest').filter (order · = order a) := by
    rw [← hties]
    exact List.mem_filter.mpr ⟨List.mem_cons_self, decide_eq_true rfl⟩
  rcases List.mem_cons.mp (List.mem_of_mem_filter ha) with rfl | ha
  · exact Int.le_refl _
  · exact List.rel_of_pairwise_cons hasc ha

/-- Ascending lists that hold the members of each order in the same way are equal. -/
theorem eq_of_ties {sorted sorted' : List α}
    (hasc : sorted.Pairwise fun a b => order a ≤ order b)
    (hasc' : sorted'.Pairwise fun a b => order a ≤ order b)
    (hties : ∀ k, sorted.filter (order · = k) = sorted'.filter (order · = k)) :
    sorted = sorted' := by
  induction sorted generalizing sorted' with
  | nil =>
    cases sorted' with
    | nil => rfl
    | cons b rest' => simpa using hties (order b)
  | cons a rest ih =>
    cases sorted' with
    | nil => simpa using hties (order a)
    | cons b rest' =>
      have horder : order b = order a :=
        Int.le_antisymm (order_head_le hasc' hties) (order_head_le hasc fun k => (hties k).symm)
      have hhead := hties (order a)
      rw [List.filter_cons_of_pos (by simp), List.filter_cons_of_pos (by simp [horder])] at hhead
      obtain rfl := (List.cons.inj hhead).1
      refine congrArg _ (ih hasc.of_cons hasc'.of_cons fun k => ?_)
      have hrest := hties k
      rw [List.filter_cons, List.filter_cons] at hrest
      split at hrest
      · exact (List.cons.inj hrest).2
      · exact hrest

/-- There is one stable way to sort. -/
theorem StablySorted.unique {es sorted sorted' : List α} (h : StablySorted order es sorted)
    (h' : StablySorted order es sorted') : sorted = sorted' :=
  eq_of_ties h.ascending h'.ascending fun k => (h.ties k).trans (h'.ties k).symm

/-- Batches that are sorted one by one are sorted if the second does not go below the first. -/
theorem StablySorted.append {first second sorted sorted' : List α}
    (h : StablySorted order first sorted) (h' : StablySorted order second sorted')
    (hle : ∀ a ∈ sorted, ∀ b ∈ sorted', order a ≤ order b) :
    StablySorted order (first ++ second) (sorted ++ sorted') where
  ascending := List.pairwise_append.mpr ⟨h.ascending, h'.ascending, hle⟩
  ties k := by rw [List.filter_append, List.filter_append, h.ties, h'.ties]

theorem mergeSort_append {first second : List α}
    (hle : ∀ a ∈ first, ∀ b ∈ second, order a ≤ order b) :
    (first ++ second).mergeSort (fun a b => order a ≤ order b) =
      first.mergeSort (fun a b => order a ≤ order b) ++
        second.mergeSort fun a b => order a ≤ order b :=
  (stablySorted_mergeSort order _).unique <|
    (stablySorted_mergeSort order _).append (stablySorted_mergeSort order _) fun a ha b hb =>
      hle a (List.mem_mergeSort.mp ha) b (List.mem_mergeSort.mp hb)

end

/-! ### Nodes after an insertion -/

/-- An edit that puts in a node, which has an identity as its anchor does. What a node says is given
by a function of nodes. -/
structure Insertion (ι : Type) where
  anchor : Option ι
  node : ι
  order : Int

section

variable {ι : Type} [DecidableEq ι] (content : ι → Statement)

namespace Insertion

/-- The edit with what its node says. -/
def toNodeEdit (e : Insertion ι) : NodeEdit ι := ⟨e.anchor, content e.node, e.order⟩

/-- The edit at the position that its anchor has among the nodes of a module. -/
def place (nodes : List ι) (e : Insertion ι) : Edit := (e.toNodeEdit content).place nodes

/-- The nodes of the edits at an anchor. -/
def nodesAt (es : List (Insertion ι)) (anchor : Option ι) : List ι :=
  ((es.filter (·.anchor == anchor)).mergeSort fun a b => a.order ≤ b.order).map (·.node)

/-- The nodes of a module after the edits. -/
def insertInto (nodes : List ι) (es : List (Insertion ι)) : List ι :=
  nodes.flatMap (fun a => nodesAt es (some a) ++ [a]) ++ nodesAt es none

theorem mem_nodesAt {es : List (Insertion ι)} {anchor : Option ι} {a : ι} :
    a ∈ nodesAt es anchor ↔ ∃ e ∈ es, e.anchor = anchor ∧ e.node = a := by
  simp [nodesAt, and_assoc]

theorem nodesAt_eq_nil {es : List (Insertion ι)} {anchor : Option ι}
    (h : ∀ e ∈ es, e.anchor ≠ anchor) : nodesAt es anchor = [] := by
  have hnone : es.filter (·.anchor == anchor) = [] := by simpa using h
  rw [nodesAt, hnone, List.mergeSort_nil, List.map_nil]

/-- At one anchor, the second batch comes after the first if no order of it is below one there. -/
theorem nodesAt_append {first second : List (Insertion ι)} {anchor : Option ι}
    (hle : ∀ e ∈ first, ∀ e' ∈ second, e.anchor = e'.anchor → e.order ≤ e'.order) :
    nodesAt (first ++ second) anchor = nodesAt first anchor ++ nodesAt second anchor := by
  rw [nodesAt, List.filter_append, mergeSort_append, List.map_append]
  · rfl
  · intro e he e' he'
    obtain ⟨he, hanchor⟩ := List.mem_filter.mp he
    obtain ⟨he', hanchor'⟩ := List.mem_filter.mp he'
    exact hle e he e' he' ((eq_of_beq hanchor).trans (eq_of_beq hanchor').symm)

/-- Among the nodes after an insertion of new nodes, those of the module are what they were. -/
theorem filter_insertInto {nodes : List ι} {es : List (Insertion ι)}
    (hfresh : ∀ e ∈ es, e.node ∉ nodes) : (insertInto nodes es).filter (· ∈ nodes) = nodes := by
  have hnew (anchor : Option ι) : (nodesAt es anchor).filter (· ∈ nodes) = [] := by
    refine List.filter_eq_nil_iff.mpr fun a ha => ?_
    obtain ⟨e, he, -, rfl⟩ := mem_nodesAt.mp ha
    simpa using hfresh e he
  rw [insertInto, List.filter_append, List.filter_flatMap, hnew, List.append_nil]
  calc nodes.flatMap (fun a => (nodesAt es (some a) ++ [a]).filter (· ∈ nodes))
    _ = nodes.flatMap fun a => [a] := by
      refine List.flatMap_congr fun a ha => ?_
      rw [List.filter_append, hnew, List.filter_cons_of_pos (by simpa using ha)]
      rfl
    _ = nodes := List.flatMap_singleton' nodes

/-- A node of the module comes as often after an insertion of new nodes as before. -/
theorem count_insertInto {nodes : List ι} {es : List (Insertion ι)}
    (hfresh : ∀ e ∈ es, e.node ∉ nodes) {a : ι} (ha : a ∈ nodes) :
    (insertInto nodes es).count a = nodes.count a := by
  conv_rhs => rw [← filter_insertInto hfresh]
  exact (List.count_filter (by simpa using ha)).symm

theorem inOrder_toNodeEdit (es : List (Insertion ι)) (anchor : Option ι) :
    inOrder ((es.map (toNodeEdit content)).filter (·.anchor == anchor)) =
      (nodesAt es anchor).map content := by
  rw [inOrder, List.filter_map, mergeSort_map NodeEdit.order, List.map_map, nodesAt, List.map_map]
  rfl

/-- Edits whose anchors each come once in a module are put in, and the body says what the nodes
after the edits say. A content may tell all nodes apart, so that is where the nodes go. -/
theorem apply_place {nodes : List ι} {m : Python.Module} (hm : m.body = nodes.map content)
    {es : List (Insertion ι)} (honce : ∀ e ∈ es, ∀ a, e.anchor = some a → nodes.count a = 1) :
    apply m (es.map (place content nodes)) =
      .ok { m with body := (insertInto nodes es).map content } := by
  have hlength : nodes.length = m.body.length := by rw [hm, List.length_map]
  have hplace : es.map (place content nodes) =
      (es.map (toNodeEdit content)).map (NodeEdit.place nodes) := by
    rw [List.map_map]
    rfl
  have hstray : (es.map (place content nodes)).countP (isStray m.body.length) = 0 := by
    rw [hplace, ← hlength, countP_isStray_place, List.countP_eq_zero]
    intro e hmem hlost
    obtain ⟨e, he, rfl⟩ := List.mem_map.mp hmem
    obtain ⟨a, hanchor, ha⟩ := NodeEdit.isLost_iff.mp hlost
    have hcount := honce e he a hanchor
    rw [List.count_eq_zero_of_not_mem ha] at hcount
    cases hcount
  have hbody : splice (es.map (place content nodes)) 0 m.body =
      (insertInto nodes es).map content := by
    have hspliced := @splice_place_of_count _ _ (es.map (toNodeEdit content)) [] nodes m.body
      (fun e hmem a ha => by
        obtain ⟨e, he, rfl⟩ := List.mem_map.mp hmem
        exact Nat.le_of_eq (honce e he a ha)) hlength
    rw [hplace]
    refine hspliced.trans ?_
    rw [hm, ← List.map_prod_left_eq_zip, List.flatMap_map]
    simp only [inOrder_toNodeEdit, insertInto, List.map_append, List.map_flatMap, List.map_cons,
      List.map_nil]
  rw [apply, hstray, hbody]
  rfl

/-! ### Two batches -/

/-- Two batches of edits for one module. Its nodes are all different, the anchors are among them and
what is put in is not; at no anchor does the second batch have an order below one of the first. -/
structure Batches (nodes : List ι) (first second : List (Insertion ι)) : Prop where
  distinct : nodes.Nodup
  anchored : ∀ e ∈ first ++ second, ∀ a, e.anchor = some a → a ∈ nodes
  fresh : ∀ e ∈ first ++ second, e.node ∉ nodes
  ordered : ∀ e ∈ first, ∀ e' ∈ second, e.anchor = e'.anchor → e.order ≤ e'.order

namespace Batches

variable {nodes : List ι} {first second : List (Insertion ι)}

theorem insertInto_append (h : Batches nodes first second) :
    insertInto (insertInto nodes first) second = insertInto nodes (first ++ second) := by
  -- nothing of the second batch goes before a node of the first
  have hnew (anchor : Option ι) :
      (nodesAt first anchor).flatMap (fun a => nodesAt second (some a) ++ [a]) =
        nodesAt first anchor := by
    calc (nodesAt first anchor).flatMap (fun a => nodesAt second (some a) ++ [a])
      _ = (nodesAt first anchor).flatMap fun a => [a] := by
        refine List.flatMap_congr fun a ha => ?_
        obtain ⟨e, he, -, rfl⟩ := mem_nodesAt.mp ha
        rw [nodesAt_eq_nil, List.nil_append]
        intro e' he' hanchor
        exact h.fresh e (List.mem_append_left _ he)
          (h.anchored e' (List.mem_append_right _ he') e.node hanchor)
      _ = nodesAt first anchor := List.flatMap_singleton' _
  rw [insertInto, insertInto, insertInto, List.flatMap_append, List.flatMap_assoc, hnew,
    List.append_assoc, nodesAt_append h.ordered]
  congr 1
  refine List.flatMap_congr fun a _ => ?_
  rw [List.flatMap_append, hnew, List.flatMap_singleton, nodesAt_append h.ordered,
    List.append_assoc]

end Batches

/-- Two batches are put in one after the other, where the second finds its anchors among the nodes
that the first has left, or both at once. All this succeeds, with the same nodes and the same module
in the end. -/
theorem apply_batches {nodes : List ι} {first second : List (Insertion ι)}
    (h : Batches nodes first second) {m : Python.Module} (hm : m.body = nodes.map content) :
    ∃ between edited : Python.Module,
      apply m (first.map (place content nodes)) = .ok between ∧
      between.body = (insertInto nodes first).map content ∧
      apply between (second.map (place content (insertInto nodes first))) = .ok edited ∧
      edited.body = (insertInto (insertInto nodes first) second).map content ∧
      insertInto (insertInto nodes first) second = insertInto nodes (first ++ second) ∧
      apply m ((first ++ second).map (place content nodes)) = .ok edited := by
  have honce : ∀ e ∈ first ++ second, ∀ a, e.anchor = some a → nodes.count a = 1 :=
    fun e he a ha => List.count_eq_one_of_mem h.distinct (h.anchored e he a ha)
  have hfirst := apply_place content hm fun e he => honce e (List.mem_append_left _ he)
  have hsecond := @apply_place _ _ content (insertInto nodes first)
    { m with body := (insertInto nodes first).map content } rfl second fun e he a ha => by
      have hmem := h.anchored e (List.mem_append_right _ he) a ha
      rw [count_insertInto (fun e he => h.fresh e (List.mem_append_left _ he)) hmem]
      exact honce e (List.mem_append_right _ he) a ha
  have hboth := apply_place content hm honce
  refine ⟨_, _, hfirst, rfl, hsecond, rfl, h.insertInto_append, ?_⟩
  rw [hboth, h.insertInto_append]

/-- Both batches put a node of the same order before the second node of a module and one at its
end. -/
theorem apply_batches_tied_orders :
    let content (n : Nat) : Statement := lineOf (.text (toString n))
    let m : Python.Module := { body := [10, 20].map content }
    let first : List (Insertion Nat) := [⟨some 20, 1, 5⟩, ⟨none, 2, 3⟩, ⟨some 20, 3, -1⟩]
    let second : List (Insertion Nat) := [⟨none, 4, 3⟩, ⟨some 10, 5, -7⟩, ⟨some 20, 6, 5⟩]
    Batches [10, 20] first second ∧
    ∃ between edited : Python.Module,
      apply m (first.map (place content [10, 20])) = .ok between ∧
      between.body = [10, 3, 1, 20, 2].map content ∧
      apply between (second.map (place content [10, 3, 1, 20, 2])) = .ok edited ∧
      apply m ((first ++ second).map (place content [10, 20])) = .ok edited ∧
      edited.body = [5, 10, 3, 1, 6, 20, 2, 4].map content := by
  intro content m first second
  have h : Batches [10, 20] first second := ⟨by decide, by decide, by decide, by decide⟩
  have hbetween : insertInto [10, 20] first = [10, 3, 1, 20, 2] := by cbv
  have hnodes : insertInto [10, 20] (first ++ second) = [5, 10, 3, 1, 6, 20, 2, 4] := by cbv
  obtain ⟨between, edited, hfirst, hbody, hsecond, hedited, hsame, hboth⟩ :=
    apply_batches content h (m := m) rfl
  rw [hsame, hnodes] at hedited
  rw [hbetween] at hbody hsecond
  exact ⟨h, between, edited, hfirst, hbody, hsecond, hboth, hedited⟩

end Insertion

end

end LocaleRegistrar.Registration
