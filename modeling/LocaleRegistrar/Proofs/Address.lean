import LocaleRegistrar.Python.Part

/-! Addresses in a list of trees. An address says which tree of the list is meant, then which part
of it, and so on downwards, so the lexicographic order of addresses is the order in which a walk
from the top meets what stands there: a node before what is below it, and an earlier part before a
later one. The nodes of a tree are exactly what its addresses lead to. -/

namespace LocaleRegistrar.Python

abbrev Address := List Nat

namespace Tree

/-- What stands at an address below a tree. -/
def at? : Tree → Address → Option Tree
  | t, [] => some t
  | t, i :: p => t.parts[i]?.bind fun u => at? u p

/-- What stands at an address in a list of trees. -/
def atAll? (ts : List Tree) : Address → Option Tree
  | [] => none
  | i :: p => ts[i]?.bind fun t => t.at? p

@[simp] theorem at?_nil (t : Tree) : t.at? [] = some t := by rw [at?]

theorem at?_cons (t : Tree) (i : Nat) (p : Address) :
    t.at? (i :: p) = atAll? t.parts (i :: p) := by
  rw [at?, atAll?]

/-- An address that does not end at the tree itself is an address in its parts. -/
theorem at?_eq_atAll? (t : Tree) {p : Address} (hp : p ≠ []) : t.at? p = atAll? t.parts p := by
  cases p with
  | nil => exact absurd rfl hp
  | cons i p => exact at?_cons t i p

@[simp] theorem atAll?_nil (p : Address) : atAll? [] p = none := by
  cases p <;> simp [atAll?]

@[simp] theorem atAll?_root (ts : List Tree) : atAll? ts [] = none := rfl

@[simp] theorem atAll?_cons_zero (t : Tree) (ts : List Tree) (p : Address) :
    atAll? (t :: ts) (0 :: p) = t.at? p := by
  simp [atAll?]

@[simp] theorem atAll?_cons_succ (t : Tree) (ts : List Tree) (i : Nat) (p : Address) :
    atAll? (t :: ts) ((i + 1) :: p) = atAll? ts (i :: p) := by
  simp [atAll?]

/-- Nothing stands below a piece. -/
theorem at?_piece (p : Piece) (i : Nat) (q : Address) : (Tree.piece p).at? (i :: q) = none := by
  rw [at?_cons]
  simp [parts]

/-! ### Nodes and their addresses -/

mutual

/-- The nodes of a tree are the nodes at its addresses. -/
theorem mem_nodes_iff (u : Tree) : ∀ t : Tree,
    u ∈ t.nodes ↔ u.isNode = true ∧ ∃ p, t.at? p = some u
  | .piece p => by
    simp only [nodes, List.not_mem_nil, false_iff, not_and, not_exists]
    intro hu q hq
    cases q with
    | nil =>
      simp only [at?_nil, Option.some.injEq] at hq
      subst hq
      simp [isNode] at hu
    | cons i q => simp [at?_piece] at hq
  | .node kind opening parts closing => by
    rw [nodes, List.mem_cons, mem_nodesAll_iff u parts]
    constructor
    · rintro (rfl | ⟨hu, p, hp⟩)
      · exact ⟨rfl, [], at?_nil _⟩
      · refine ⟨hu, p, ?_⟩
        rw [at?_eq_atAll? _ (by rintro rfl; simp at hp)]
        exact hp
    · rintro ⟨hu, p, hp⟩
      cases p with
      | nil => exact .inl (by simpa using hp.symm)
      | cons i p => exact .inr ⟨hu, i :: p, by rwa [at?_cons] at hp⟩

theorem mem_nodesAll_iff (u : Tree) : ∀ ts : List Tree,
    u ∈ nodesAll ts ↔ u.isNode = true ∧ ∃ p, atAll? ts p = some u
  | [] => by simp [nodesAll]
  | t :: rest => by
    rw [nodesAll, List.mem_append, mem_nodes_iff u t, mem_nodesAll_iff u rest, ← and_or_left]
    refine and_congr_right fun _ => ⟨?_, ?_⟩
    · rintro (⟨p, hp⟩ | ⟨p, hp⟩)
      · exact ⟨0 :: p, by simpa using hp⟩
      · cases p with
        | nil => simp at hp
        | cons i p => exact ⟨(i + 1) :: p, by simpa using hp⟩
    · rintro ⟨p, hp⟩
      match p with
      | [] => simp at hp
      | 0 :: p => exact .inl ⟨p, by simpa using hp⟩
      | (i + 1) :: p => exact .inr ⟨i :: p, by simpa using hp⟩

end

theorem nodesAll_eq_flatMap (ts : List Tree) : nodesAll ts = ts.flatMap nodes := by
  induction ts with
  | nil => rfl
  | cons t rest ih => rw [nodesAll, ih, List.flatMap_cons]

/-- What stands right below a tree at an address is one of its parts. -/
theorem at?_concat {t u : Tree} {p : Address} (h : t.at? p = some u) (i : Nat) :
    t.at? (p ++ [i]) = u.parts[i]? := by
  induction p generalizing t with
  | nil =>
    obtain rfl := Option.some.inj h
    simp [at?]
  | cons k p ih =>
    rw [at?] at h
    obtain ⟨v, hv, hbelow⟩ := Option.bind_eq_some_iff.mp h
    rw [List.cons_append, at?, hv]
    exact ih hbelow

theorem atAll?_concat {ts : List Tree} {u : Tree} {p : Address} (h : atAll? ts p = some u)
    (i : Nat) : atAll? ts (p ++ [i]) = u.parts[i]? := by
  cases p with
  | nil => simp at h
  | cons k p =>
    rw [atAll?] at h
    obtain ⟨t, ht, hbelow⟩ := Option.bind_eq_some_iff.mp h
    rw [List.cons_append, atAll?, ht]
    exact at?_concat hbelow i

/-! ### The walk from the top -/

mutual

/-- The addresses of the nodes of a tree, itself included, in the order in which a walk from the top
meets them. -/
def addresses : Tree → List Address
  | .piece _ => []
  | .node _ _ parts _ => [] :: addressesFrom 0 parts

/-- The addresses of the nodes in a list of trees, of which the first one stands at `position`. -/
def addressesFrom (position : Nat) : List Tree → List Address
  | [] => []
  | t :: rest => (addresses t).map (position :: ·) ++ addressesFrom (position + 1) rest

end

mutual

/-- A walk from the top meets every node. -/
theorem mem_addresses_iff {p : Address} : ∀ t : Tree,
    p ∈ addresses t ↔ ∃ u, t.at? p = some u ∧ u.isNode = true
  | .piece _ => by
    simp only [addresses, List.not_mem_nil, false_iff, not_exists, not_and]
    intro u hu
    cases p with
    | nil =>
      obtain rfl := Option.some.inj ((at?_nil _).symm.trans hu)
      simp [isNode]
    | cons i p => simp [at?_piece] at hu
  | .node kind opening parts closing => by
    rw [addresses, List.mem_cons, mem_addressesFrom_iff parts]
    constructor
    · rintro (rfl | ⟨i, q, u, rfl, hu, hnode⟩)
      · exact ⟨_, at?_nil _, rfl⟩
      · rw [Nat.zero_add, at?_cons]
        exact ⟨u, hu, hnode⟩
    · rintro ⟨u, hu, hnode⟩
      cases p with
      | nil => exact .inl rfl
      | cons i q =>
        rw [at?_cons] at hu
        exact .inr ⟨i, q, u, by rw [Nat.zero_add], hu, hnode⟩

theorem mem_addressesFrom_iff {p : Address} {position : Nat} : ∀ ts : List Tree,
    p ∈ addressesFrom position ts ↔
      ∃ i q u, p = (position + i) :: q ∧ atAll? ts (i :: q) = some u ∧ u.isNode = true
  | [] => by simp [addressesFrom]
  | t :: rest => by
    rw [addressesFrom, List.mem_append, List.mem_map, mem_addressesFrom_iff rest]
    constructor
    · rintro (⟨q, hq, rfl⟩ | ⟨i, q, u, rfl, hu, hnode⟩)
      · obtain ⟨u, hu, hnode⟩ := (mem_addresses_iff t).mp hq
        exact ⟨0, q, u, rfl, by rwa [atAll?_cons_zero], hnode⟩
      · exact ⟨i + 1, q, u, by rw [Nat.add_right_comm, Nat.add_assoc], by rwa [atAll?_cons_succ],
          hnode⟩
    · rintro ⟨i, q, u, rfl, hu, hnode⟩
      cases i with
      | zero =>
        rw [atAll?_cons_zero] at hu
        exact .inl ⟨q, (mem_addresses_iff t).mpr ⟨u, hu, hnode⟩, rfl⟩
      | succ i =>
        rw [atAll?_cons_succ] at hu
        exact .inr ⟨i, q, u, by rw [Nat.add_right_comm, Nat.add_assoc], hu, hnode⟩

end

mutual

/-- It meets the nodes in the order of their addresses. -/
theorem addresses_sorted : ∀ t : Tree, (addresses t).Pairwise (· < ·)
  | .piece _ => .nil
  | .node kind opening parts closing => by
    rw [addresses]
    refine .cons (fun p hp => ?_) (addressesFrom_sorted 0 parts)
    obtain ⟨i, q, -, rfl, -⟩ := (mem_addressesFrom_iff parts).mp hp
    exact List.nil_lt_cons _ _

theorem addressesFrom_sorted (position : Nat) : ∀ ts : List Tree,
    (addressesFrom position ts).Pairwise (· < ·)
  | [] => .nil
  | t :: rest => by
    rw [addressesFrom, List.pairwise_append]
    refine ⟨?_, addressesFrom_sorted (position + 1) rest, fun p hp q hq => ?_⟩
    · rw [List.pairwise_map]
      exact (addresses_sorted t).imp fun h => List.cons_lt_cons_iff.mpr (.inr ⟨rfl, h⟩)
    · obtain ⟨below, -, rfl⟩ := List.mem_map.mp hp
      obtain ⟨i, r, -, rfl, -⟩ := (mem_addressesFrom_iff rest).mp hq
      exact List.cons_lt_cons_iff.mpr (.inl (by omega))

end

mutual

/-- What it meets are the nodes, each before those below it. -/
theorem map_at?_addresses : ∀ t : Tree, (addresses t).map t.at? = t.nodes.map some
  | .piece _ => rfl
  | .node kind opening parts closing => by
    rw [addresses, nodes, List.map_cons, List.map_cons, at?_nil,
      ← map_atAll?_addressesFrom [] parts]
    refine congrArg _ (List.map_congr_left fun p hp => ?_)
    obtain ⟨i, q, -, rfl, -⟩ := (mem_addressesFrom_iff parts).mp hp
    exact at?_cons _ _ _

theorem map_atAll?_addressesFrom (front : List Tree) : ∀ ts : List Tree,
    (addressesFrom front.length ts).map (atAll? (front ++ ts)) = (nodesAll ts).map some
  | [] => rfl
  | t :: rest => by
    have hfirst : (atAll? (front ++ t :: rest)) ∘ (front.length :: ·) = t.at? := by
      funext p
      simp [atAll?]
    have hrest := map_atAll?_addressesFrom (front ++ [t]) rest
    rw [List.length_append, List.append_assoc] at hrest
    rw [addressesFrom, nodesAll, List.map_append, List.map_append, List.map_map, hfirst,
      map_at?_addresses t]
    exact congrArg _ hrest

end

end Tree

/-- The trees of a module, in the order of its text. -/
def Module.trees (m : Module) : List Tree :=
  m.body.flatMap Statement.trees

theorem Module.nodesAll_trees (m : Module) : Tree.nodesAll m.trees = m.nodes := by
  rw [Tree.nodesAll_eq_flatMap, trees, List.flatMap_assoc]
  rfl

end LocaleRegistrar.Python
