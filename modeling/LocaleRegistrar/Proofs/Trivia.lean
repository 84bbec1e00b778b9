import LocaleRegistrar.Proofs.Matching
import LocaleRegistrar.Python.Parse
import Mathlib.Data.List.Forall2

/-! Trivia: blanks, comments, blank lines, continued lines, redundant parentheses, and commas and
semicolons that separate or end. A function strips a module of its trivia, so that modules which
differ in trivia alone are the same when stripped. Main statement: the bootstrap sites of two such
modules correspond, each at the same place if only the nodes are counted. -/

namespace LocaleRegistrar.Python

/-! ### Stripped trees -/

/-- Does the character only set apart? The backslash and the line end continue a line. -/
def isFiller (c : Char) : Bool := Lexeme.isSpace c || Lexeme.isLineEnd c || c = '\\'

/-- The text without what sets it apart. -/
def core (text : String) : List Char :=
  ((text.toList.dropWhile isFiller).reverse.dropWhile isFiller).reverse

/-- Is the text trivia? A comma is, because the nodes tell what stands between commas, and so is a
parenthesis that no node owns, as in a header or an import. -/
def isTrivia (text : String) : Bool :=
  match core text with
  | [] => true
  | c :: rest => c = '#' || (rest = [] && ['(', ')', ','].contains c)

/-- What is left of a piece: nothing if it is trivia. Three dots are left one by one, because those
of a relative import may be set apart. -/
def Piece.stripped : Piece → Pieces
  | text s =>
    if isTrivia s then []
    else if core s = ['.', '.', '.'] then List.replicate 3 (.text ".")
    else [.text (String.ofList (core s))]
  | lineEnd _ => []
  | margin => []

namespace Tree

/-- What is left of a part of a node. In a name every piece counts as it stands. -/
def leftOver (named : Bool) : Tree → List Tree
  | piece p => if named then [piece p] else p.stripped.map piece
  | node kind opening parts closing => [node kind opening parts closing]

mutual

/-- The tree without trivia. The parentheses around a node are dropped. -/
def stripped : Tree → Tree
  | piece p => piece p
  | node kind _ parts _ => node kind [] (strippedAll (kind = .name) parts) []

/-- The parts of a node without trivia. -/
def strippedAll (named : Bool) : List Tree → List Tree
  | [] => []
  | t :: rest => t.stripped.leftOver named ++ strippedAll named rest

end

end Tree

def Small.stripped (s : Small) : Small := { content := s.content.stripped }

def Line.stripped (l : Line) : Line := { body := l.body.map Small.stripped }

def Decorator.stripped (d : Decorator) : Decorator := ⟨[], Tree.strippedAll false d.parts, {}⟩

mutual

/-- The statement without trivia. -/
def Statement.stripped : Statement → Statement
  | .simple line => .simple line.stripped
  | .compound kind _ decorators clauses =>
    .compound kind [] (decorators.map Decorator.stripped) (Clause.strippedAll clauses)

def Statement.strippedAll : List Statement → List Statement
  | [] => []
  | s :: rest => s.stripped :: Statement.strippedAll rest

def Clause.stripped : Clause → Clause
  | .plain _ keyword header suite =>
    .plain [] keyword (Tree.strippedAll false header) suite.stripped
  | .alternative _ clauses => .alternative [] (Clause.strippedAll clauses)

def Clause.strippedAll : List Clause → List Clause
  | [] => []
  | clause :: rest => clause.stripped :: Clause.strippedAll rest

/-- The suite without trivia. Whether it stands on the line of its header is trivia too. -/
def Suite.stripped : Suite → Suite
  | .inline _ body _ => .block {} none [.simple { body := body.map Small.stripped }] []
  | .block _ _ body _ => .block {} none (Statement.strippedAll body) []

end

/-- The module without trivia. -/
def Module.stripped (m : Module) : Module := { body := Statement.strippedAll m.body }

/-! ### What stripping keeps -/

namespace Tree

@[simp] theorem stripped_piece (p : Piece) : (piece p).stripped = piece p := by rw [stripped]

@[simp] theorem isNode_stripped (t : Tree) : t.stripped.isNode = t.isNode := by
  cases t <;> simp [stripped, isNode]

@[simp] theorem kind?_stripped (t : Tree) : t.stripped.kind? = t.kind? := by
  cases t <;> simp [stripped, kind?]

@[simp] theorem isArgument_stripped (t : Tree) : t.stripped.isArgument = t.isArgument := by
  cases t with
  | piece p => rw [stripped]
  | node kind opening parts closing => rw [stripped]; cases kind <;> rfl

theorem stripped_eq_piece_iff {t : Tree} {p : Piece} : t.stripped = piece p ↔ t = piece p := by
  cases t <;> simp [stripped]

theorem leftOver_of_isNode {t : Tree} (h : t.isNode = true) (named : Bool) :
    t.leftOver named = [t] := by
  cases t with
  | piece => cases h
  | node => rfl

/-- No node is left of a piece. -/
theorem filter_isNode_leftOver_piece (named : Bool) (p : Piece) :
    ((piece p).leftOver named).filter isNode = [] := by
  rw [List.filter_eq_nil_iff, leftOver]
  intro t ht
  split at ht
  · obtain rfl := List.mem_singleton.mp ht
    exact Bool.false_ne_true
  · obtain ⟨q, -, rfl⟩ := List.mem_map.mp ht
    exact Bool.false_ne_true

/-- The nodes among the parts stay, in their order. -/
theorem filter_isNode_strippedAll (named : Bool) (ts : List Tree) :
    (strippedAll named ts).filter isNode = (ts.filter isNode).map stripped := by
  induction ts with
  | nil => rw [strippedAll]; rfl
  | cons t rest ih =>
    rw [strippedAll, List.filter_append, ih]
    cases ht : t.isNode with
    | true =>
      rw [leftOver_of_isNode (by simpa using ht)]
      simp [ht]
    | false =>
      cases t with
      | node => cases ht
      | piece p =>
        rw [stripped_piece, filter_isNode_leftOver_piece]
        rfl

/-- In a name nothing is dropped. -/
theorem strippedAll_true (ts : List Tree) : strippedAll true ts = ts.map stripped := by
  induction ts with
  | nil => rw [strippedAll]; rfl
  | cons t rest ih =>
    have hpart : t.stripped.leftOver true = [t.stripped] := by
      cases t.stripped <;> rfl
    rw [strippedAll, ih, hpart]
    rfl

theorem identifier?_eq_some_iff {t : Tree} {id : String} :
    t.identifier? = some id ↔ t.kind? = some .name ∧ t.parts = [piece (.text id)] := by
  unfold identifier?
  constructor
  · intro h
    split at h
    · obtain rfl := Option.some.inj h
      exact ⟨rfl, rfl⟩
    · cases h
  · rintro ⟨hkind, hparts⟩
    cases t with
    | piece => cases hkind
    | node kind opening parts closing =>
      obtain rfl := Option.some.inj hkind
      obtain rfl : parts = [piece (.text id)] := hparts
      rfl

@[simp] theorem identifier?_stripped (t : Tree) : t.stripped.identifier? = t.identifier? := by
  refine Option.ext fun id => ?_
  rw [identifier?_eq_some_iff, identifier?_eq_some_iff, kind?_stripped]
  refine and_congr_right fun hkind => ?_
  cases t with
  | piece => cases hkind
  | node kind opening parts closing =>
    obtain rfl := Option.some.inj hkind
    have hparts : (node .name opening parts closing).stripped.parts = parts.map stripped := by
      rw [stripped, ← strippedAll_true]
      rfl
    rw [hparts, List.map_eq_singleton_iff]
    simp [stripped_eq_piece_iff, Tree.parts]

/-! ### Nodes below a node -/

theorem filter_isNode_parts_stripped (t : Tree) :
    t.stripped.parts.filter isNode = (t.parts.filter isNode).map stripped := by
  cases t with
  | piece p => rw [stripped]; rfl
  | node kind opening parts closing =>
    rw [stripped]
    exact filter_isNode_strippedAll _ parts

/-- The first node of a list and its last one are those of the nodes alone. -/
theorem find?_isNode_parts_stripped (t : Tree) :
    t.stripped.parts.find? isNode = (t.parts.find? isNode).map stripped := by
  rw [← List.head?_filter, ← List.head?_filter, filter_isNode_parts_stripped, List.head?_map]

theorem getLast?_isNode_parts_stripped (t : Tree) :
    (t.stripped.parts.filter isNode).getLast? = (t.parts.filter isNode).getLast?.map stripped := by
  rw [filter_isNode_parts_stripped, List.getLast?_map]

theorem callee?_eq (t : Tree) :
    t.callee? = if t.kind? = some .call then t.parts.find? isNode else none := by
  cases t with
  | piece => rfl
  | node kind => cases kind <;> rfl

theorem argumentValue?_eq (t : Tree) :
    t.argumentValue? =
      if t.kind? = some (.arg false) then (t.parts.filter isNode).getLast? else none := by
  cases t with
  | piece => rfl
  | node kind =>
    cases kind with
    | arg starred => cases starred <;> rfl
    | _ => rfl

theorem member?_eq (t : Tree) :
    t.member? = if t.kind? = some .member then
      (t.parts.find? isNode).bind fun value =>
        (t.parts.filter isNode).getLast?.bind fun attr => some (value, attr)
    else none := by
  cases t with
  | piece => rfl
  | node kind => cases kind <;> rfl

@[simp] theorem callee?_stripped (t : Tree) : t.stripped.callee? = t.callee?.map stripped := by
  rw [callee?_eq, callee?_eq, kind?_stripped, find?_isNode_parts_stripped]
  split <;> rfl

@[simp] theorem argumentValue?_stripped (t : Tree) :
    t.stripped.argumentValue? = t.argumentValue?.map stripped := by
  rw [argumentValue?_eq, argumentValue?_eq, kind?_stripped, getLast?_isNode_parts_stripped]
  split <;> rfl

@[simp] theorem member?_stripped (t : Tree) :
    t.stripped.member? = t.member?.map (Prod.map stripped stripped) := by
  rw [member?_eq, member?_eq, kind?_stripped, find?_isNode_parts_stripped,
    getLast?_isNode_parts_stripped]
  split
  · cases t.parts.find? isNode <;> cases (t.parts.filter isNode).getLast? <;> rfl
  · rfl

theorem filter_isNode_map_stripped (ts : List Tree) :
    (ts.map stripped).filter isNode = (ts.filter isNode).map stripped := by
  rw [List.filter_map]
  congr 2
  exact funext isNode_stripped

/-! ### Addresses by nodes -/

/-- An address with every position counted among the nodes alone, so that it does not depend on the
pieces between them. -/
def ranks (ts : List Tree) : Address → Address
  | [] => []
  | i :: p => (ts.take i).countP isNode :: ts[i]?.elim [] fun t => ranks t.parts p

/-- An address in a list after `n` more trees. -/
def later (n : Nat) : Address → Address
  | [] => []
  | i :: p => (i + n) :: p

@[simp] theorem later_zero (p : Address) : later 0 p = p := by
  cases p <;> rfl

@[simp] theorem ranks_cons_zero (t : Tree) (rest : List Tree) (p : Address) :
    ranks (t :: rest) (0 :: p) = 0 :: ranks t.parts p := by
  simp [ranks]

theorem ranks_later (t : Tree) (rest : List Tree) (p : Address) :
    ranks (t :: rest) (later 1 p) = later (if t.isNode then 1 else 0) (ranks rest p) := by
  cases p with
  | nil => rfl
  | cons i p => simp [ranks, later, List.countP_cons]

/-- Below what stands at an address, an address goes on from there. -/
theorem ranks_append {ts : List Tree} {q : Address} {u : Tree} (h : atAll? ts q = some u)
    (p : Address) : ranks ts (q ++ p) = ranks ts q ++ ranks u.parts p := by
  induction q generalizing ts with
  | nil => cases h
  | cons i q ih =>
    rw [atAll?] at h
    obtain ⟨t, ht, hq⟩ := Option.bind_eq_some_iff.mp h
    simp only [List.cons_append, ranks, ht, Option.elim_some]
    cases q with
    | nil =>
      obtain rfl := Option.some.inj hq
      rfl
    | cons j q =>
      rw [ih (by rwa [at?_cons] at hq)]

end Tree

/-! ### Stripped modules -/

/-- The nodes at the top of the trees that parts of a module hold. -/
def Part.roots (parts : List Part) : List Tree :=
  (parts.filterMap Part.tree?).filter Tree.isNode

namespace Part

@[simp] theorem roots_append (ps qs : List Part) : roots (ps ++ qs) = roots ps ++ roots qs := by
  simp [roots]

@[simp] theorem roots_cons_statement (s : Statement) (ps : List Part) :
    roots (.statement s :: ps) = roots ps := rfl

@[simp] theorem roots_map_tree (ts : List Tree) : roots (ts.map .tree) = ts.filter Tree.isNode := by
  simp [roots, List.filterMap_map, Function.comp_def, tree?]

@[simp] theorem roots_map_small_stripped (body : List Small) :
    roots ((body.map Small.stripped).map .small) = (roots (body.map .small)).map Tree.stripped := by
  have hroots (body : List Small) :
      roots (body.map .small) = (body.map Small.content).filter Tree.isNode := by
    simp [roots, List.filterMap_map, Function.comp_def, tree?]
  rw [hroots, hroots, ← Tree.filter_isNode_map_stripped, List.map_map, List.map_map]
  rfl

end Part

theorem roots_decorators_stripped (ds : List Decorator) :
    Part.roots ((ds.map Decorator.stripped).flatMap fun d => d.parts.map .tree) =
      (Part.roots (ds.flatMap fun d => d.parts.map .tree)).map Tree.stripped := by
  induction ds with
  | nil => rfl
  | cons d rest ih =>
    simp [ih, Decorator.stripped, Tree.filter_isNode_strippedAll]

mutual

/-- A stripped statement has the nodes of the statement, stripped. -/
theorem Statement.roots_stripped : ∀ s : Statement,
    Part.roots s.stripped.outline = (Part.roots s.outline).map Tree.stripped
  | .simple line => by
    rw [Statement.stripped, Statement.outline, Statement.outline]
    exact Part.roots_map_small_stripped line.body
  | .compound kind leading decorators clauses => by
    rw [Statement.stripped, Statement.outline, Statement.outline, Part.roots_append,
      Part.roots_append, Part.roots_cons_statement, Part.roots_cons_statement,
      roots_decorators_stripped, Clause.roots_strippedAll clauses, List.map_append]

theorem Statement.roots_strippedAll : ∀ body : List Statement,
    Part.roots (Statement.outlineAll (Statement.strippedAll body)) =
      (Part.roots (Statement.outlineAll body)).map Tree.stripped
  | [] => by
    rw [Statement.strippedAll, Statement.outlineAll]
    rfl
  | s :: rest => by
    rw [Statement.strippedAll, Statement.outlineAll, Statement.outlineAll, Part.roots_append,
      Part.roots_append, Statement.roots_stripped s, Statement.roots_strippedAll rest,
      List.map_append]

theorem Clause.roots_stripped : ∀ clause : Clause,
    Part.roots clause.stripped.outline = (Part.roots clause.outline).map Tree.stripped
  | .plain leading keyword header suite => by
    rw [Clause.stripped, Clause.outline, Clause.outline, Part.roots_append, Part.roots_append,
      Part.roots_map_tree, Part.roots_map_tree, Tree.filter_isNode_strippedAll,
      Suite.roots_stripped suite, List.map_append]
  | .alternative leading clauses => by
    rw [Clause.stripped, Clause.outline, Clause.outline, Part.roots_cons_statement,
      Part.roots_cons_statement, Clause.roots_strippedAll clauses]

theorem Clause.roots_strippedAll : ∀ clauses : List Clause,
    Part.roots (Clause.outlineAll (Clause.strippedAll clauses)) =
      (Part.roots (Clause.outlineAll clauses)).map Tree.stripped
  | [] => by
    rw [Clause.strippedAll, Clause.outlineAll]
    rfl
  | clause :: rest => by
    rw [Clause.strippedAll, Clause.outlineAll, Clause.outlineAll, Part.roots_append,
      Part.roots_append, Clause.roots_stripped clause, Clause.roots_strippedAll rest,
      List.map_append]

theorem Suite.roots_stripped : ∀ suite : Suite,
    Part.roots suite.stripped.outline = (Part.roots suite.outline).map Tree.stripped
  | .inline gap body tail => by
    rw [Suite.stripped, Suite.outline, Suite.outline, Statement.outlineAll, Statement.outlineAll,
      Statement.outline, List.append_nil, Part.roots_cons_statement]
    exact Part.roots_map_small_stripped body
  | .block tail indent body footer => by
    rw [Suite.stripped, Suite.outline, Suite.outline, Statement.roots_strippedAll body]

end

theorem Module.filter_isNode_trees (m : Module) :
    m.trees.filter Tree.isNode = Part.roots (Statement.outlineAll m.body) := by
  unfold trees
  induction m.body with
  | nil => rw [Statement.outlineAll]; rfl
  | cons s rest ih =>
    rw [Statement.outlineAll, Part.roots_append, ← ih, List.flatMap_cons, List.filter_append]
    rfl

/-- A stripped module has the trees of the module, stripped, but for those that are only pieces. -/
theorem Module.filter_isNode_trees_stripped (m : Module) :
    m.stripped.trees.filter Tree.isNode = (m.trees.map Tree.stripped).filter Tree.isNode := by
  rw [filter_isNode_trees, Tree.filter_isNode_map_stripped, filter_isNode_trees]
  exact Statement.roots_strippedAll m.body

end LocaleRegistrar.Python

namespace LocaleRegistrar.Bootstrap

open LocaleRegistrar.Python
open LocaleRegistrar.Python.Tree (atAll? ranks later)

/-! ### Sites and trivia -/

/-- The site without trivia. -/
def Site.stripped (s : Site) : Site := ⟨s.call.stripped, s.identifier.stripped, s.argument⟩

@[simp] theorem isBootstrapCall_stripped (t : Python.Tree) :
    isBootstrapCall t.stripped = isBootstrapCall t := by
  unfold isBootstrapCall
  rw [Tree.callee?_stripped]
  cases t.callee? with
  | none => rfl
  | some func =>
    simp only [Option.map_some, Option.bind_some, Tree.member?_stripped]
    cases func.member? with
    | none => rfl
    | some member => simp [Tree.isCall, Tree.isName]

theorem reference?_stripped (className : String) (t : Python.Tree) :
    reference? className t.stripped = (reference? className t).map Tree.stripped := by
  unfold reference?
  rw [Tree.argumentValue?_stripped]
  cases t.argumentValue? with
  | none => rfl
  | some value =>
    simp only [Option.map_some, Option.filter_some, Tree.isName, Tree.identifier?_stripped]
    split <;> rfl

theorem siteAt_stripped (className : String) (call : Option Python.Tree) (index : Nat)
    (t : Python.Tree) :
    siteAt className (call.map Tree.stripped) index t.stripped =
      (siteAt className call index t).map Site.stripped := by
  unfold siteAt
  rw [reference?_stripped]
  cases call <;> cases reference? className t <;> rfl

/-- Walking over a list that starts later finds the same, later. -/
theorem locatedAmong_succ (className : String) (call : Option Python.Tree) (index position : Nat)
    (ts : List Python.Tree) :
    locatedAmong className call index (position + 1) ts =
      (locatedAmong className call index position ts).map (Prod.map (later 1) id) := by
  induction ts generalizing index position with
  | nil => rfl
  | cons t rest ih =>
    rw [locatedAmong, locatedAmong, ih]
    simp [Function.comp_def, under, later]

/-- The node itself if it is a bootstrap call. -/
def ownCall (t : Python.Tree) : Option Python.Tree :=
  if isBootstrapCall t then some t else none

theorem ownCall_stripped (t : Python.Tree) :
    ownCall t.stripped = (ownCall t).map Tree.stripped := by
  unfold ownCall
  rw [isBootstrapCall_stripped]
  split <;> rfl

theorem located_eq_locatedAmong (className : String) (t : Python.Tree) :
    located className t = locatedAmong className (ownCall t) 0 0 t.parts := by
  cases t <;> rfl

/-- The last of the nodes in a list comes after all the others. -/
theorem countP_take_lastNode (ts : List Python.Tree) :
    (ts.take (lastNode ts)).countP Tree.isNode = (ts.filter Tree.isNode).length - 1 := by
  rw [← List.countP_eq_length_filter]
  induction ts with
  | nil => rfl
  | cons t rest ih =>
    rw [lastNode]
    by_cases hrest : rest.any Tree.isNode = true
    · have hpos : 0 < rest.countP Tree.isNode := by
        rw [List.countP_pos_iff]
        simpa using hrest
      rw [if_pos hrest, List.take_succ_cons, List.countP_cons, List.countP_cons, ih]
      omega
    · have hzero : rest.countP Tree.isNode = 0 := by
        rw [List.countP_eq_zero]
        simpa using hrest
      rw [if_neg hrest, List.countP_cons, hzero, List.take_zero, List.countP_nil]
      split <;> rfl

/-- The sites among the parts of a node, each with the address of its reference by nodes. -/
def traced (className : String) (call : Option Python.Tree) (index : Nat)
    (ts : List Python.Tree) : List (Address × Site) :=
  (locatedAmong className call index 0 ts).map (Prod.map (ranks ts) id)

theorem traced_cons (className : String) (call : Option Python.Tree) (index : Nat)
    (t : Python.Tree) (rest : List Python.Tree) :
    traced className call index (t :: rest) =
      (traced className (ownCall t) 0 t.parts).map (under 0) ++
        (siteAt className call index t).map
          (fun s => ([0, (t.parts.filter Tree.isNode).length - 1], s)) ++
        (traced className call (if t.isArgument then index + 1 else index) rest).map
          (Prod.map (later (if t.isNode then 1 else 0)) id) := by
  have hlast : ranks (t :: rest) [0, lastNode t.parts] =
      [0, (t.parts.filter Tree.isNode).length - 1] := by
    rw [Tree.ranks_cons_zero, ← countP_take_lastNode]
    simp only [ranks]
    cases t.parts[lastNode t.parts]? <;> rfl
  unfold traced
  rw [locatedAmong, locatedAmong_succ, located_eq_locatedAmong]
  simp only [List.map_append, List.map_map, Function.comp_def, Prod.map, under, id,
    Tree.ranks_cons_zero, Tree.ranks_later, hlast]

/-- Pieces do not matter to what is found, nor to where. -/
theorem traced_filter_isNode (className : String) (call : Option Python.Tree) (index : Nat)
    (ts : List Python.Tree) :
    traced className call index (ts.filter Tree.isNode) = traced className call index ts := by
  induction ts generalizing index with
  | nil => rfl
  | cons t rest ih =>
    cases t with
    | node kind opening parts closing =>
      rw [List.filter_cons_of_pos rfl, traced_cons, traced_cons, ih]
    | piece p =>
      have hnone : siteAt className call index (.piece p) = [] := by
        cases call <;> rfl
      rw [List.filter_cons_of_neg Bool.false_ne_true, traced_cons, hnone, ih]
      simp [Tree.isArgument, Tree.isNode, Tree.parts, traced, locatedAmong]

theorem traced_congr {ts us : List Python.Tree}
    (h : ts.filter Tree.isNode = us.filter Tree.isNode) (className : String)
    (call : Option Python.Tree) (index : Nat) :
    traced className call index ts = traced className call index us := by
  rw [← traced_filter_isNode, h, traced_filter_isNode]

mutual

/-- In a stripped node the walk finds what it finds in the node, at the same places. -/
theorem traced_parts_stripped (className : String) : ∀ t : Python.Tree,
    traced className (ownCall t.stripped) 0 t.stripped.parts =
      (traced className (ownCall t) 0 t.parts).map (Prod.map id Site.stripped)
  | .piece p => by
    rw [Tree.stripped_piece]
    rfl
  | .node kind opening parts closing => by
    rw [ownCall_stripped]
    refine (traced_congr ?_ className _ 0).trans (traced_map_stripped className _ 0 parts)
    rw [Tree.filter_isNode_parts_stripped, Tree.filter_isNode_map_stripped]
    rfl

theorem traced_map_stripped (className : String) (call : Option Python.Tree) (index : Nat) :
    ∀ ts : List Python.Tree,
    traced className (call.map Tree.stripped) index (ts.map Tree.stripped) =
      (traced className call index ts).map (Prod.map id Site.stripped)
  | [] => rfl
  | t :: rest => by
    have hcount : (t.stripped.parts.filter Tree.isNode).length =
        (t.parts.filter Tree.isNode).length := by
      rw [Tree.filter_isNode_parts_stripped, List.length_map]
    rw [List.map_cons, traced_cons, traced_cons, traced_parts_stripped className t, hcount,
      siteAt_stripped, Tree.isArgument_stripped, Tree.isNode_stripped,
      traced_map_stripped className call _ rest]
    simp only [List.map_append, List.map_map, Function.comp_def, under, Prod.map, id]

end

/-- In a stripped module the walk finds what it finds in the module, at the same places. -/
theorem traced_trees_stripped (className : String) (m : Python.Module) :
    traced className none 0 m.stripped.trees =
      (traced className none 0 m.trees).map (Prod.map id Site.stripped) := by
  rw [traced_congr m.filter_isNode_trees_stripped]
  exact traced_map_stripped className none 0 m.trees

/-! ### Corresponding sites -/

/-- Two sites, each with the address of its reference in a list of trees, correspond: their
references and their calls stand at the same places by nodes, differ in trivia alone, and the
argument is the same one. -/
structure Corresponds (ts us : List Python.Tree) (f g : Address × Site) : Prop where
  identifierAt : ranks ts f.1 = ranks us g.1
  callAt : ∃ p q, p <+: f.1 ∧ q <+: g.1 ∧ atAll? ts p = some f.2.call ∧
    atAll? us q = some g.2.call ∧ ranks ts p = ranks us q
  call : f.2.call.stripped = g.2.call.stripped
  identifier : f.2.identifier.stripped = g.2.identifier.stripped
  argument : f.2.argument = g.2.argument

/-- The call of a site stands two levels above the reference, by nodes too. -/
theorem MatchesAt.call_ranks {className : String} {ts : List Python.Tree} {p : Address} {s : Site}
    (h : MatchesAt className ts p s) :
    ∃ q, q <+: p ∧ atAll? ts q = some s.call ∧ ∃ i j, ranks ts p = ranks ts q ++ [i, j] := by
  obtain ⟨callAt, -, argumentAt, -, -, -, -⟩ := h
  rename_i q k j call argument identifier
  refine ⟨q, List.prefix_append _ _, callAt, ?_⟩
  rw [Tree.ranks_append callAt]
  simp only [ranks, argumentAt, Option.elim_some]
  cases argument.parts[j]? <;> exact ⟨_, _, rfl⟩

theorem corresponds_of_traced {className : String} {ts us : List Python.Tree} {f g : Address × Site}
    (hf : MatchesAt className ts f.1 f.2) (hg : MatchesAt className us g.1 g.2)
    (h : Prod.map (ranks ts) Site.stripped f = Prod.map (ranks us) Site.stripped g) :
    Corresponds ts us f g := by
  obtain ⟨hranks, hsite⟩ := Prod.mk.injEq .. ▸ h
  obtain ⟨hcall, hidentifier, hargument⟩ := Site.mk.injEq .. ▸ hsite
  obtain ⟨p, hp, hpcall, i, j, hi⟩ := hf.call_ranks
  obtain ⟨q, hq, hqcall, i', j', hi'⟩ := hg.call_ranks
  rw [hi, hi'] at hranks
  exact ⟨by rw [hi, hi', hranks], ⟨p, q, hp, hq, hpcall, hqcall, (List.append_inj' hranks rfl).1⟩,
    hcall, hidentifier, hargument⟩

/-- Modules that differ in trivia alone have corresponding sites: as many, in the same order, and
each at the place of the other. -/
theorem sites_ignore_trivia {m m' : Python.Module} (h : m.stripped = m'.stripped)
    (className : String) :
    ∃ found found', FoundIn className m found ∧ FoundIn className m' found' ∧
      List.Forall₂ (Corresponds m.trees m'.trees) found found' := by
  have hfound := foundIn_locatedAmong className m
  have hfound' := foundIn_locatedAmong className m'
  refine ⟨_, _, hfound, hfound', ?_⟩
  -- by nodes and without trivia, both walks find what the walk over the stripped module finds
  have hstripped (m : Python.Module) :
      (locatedAmong className none 0 0 m.trees).map (Prod.map (ranks m.trees) Site.stripped) =
        traced className none 0 m.stripped.trees := by
    rw [traced_trees_stripped, traced, List.map_map]
    rfl
  have hsame := (hstripped m).trans ((congrArg _ (congrArg _ h)).trans (hstripped m').symm)
  rw [← List.forall₂_eq_eq_eq, List.forall₂_map_left_iff, List.forall₂_map_right_iff] at hsame
  have hleft := (List.forall₂_and_left _ _).mpr
    ⟨fun f hf => (hfound.exact f.1 f.2).mp hf, hsame⟩
  have hboth := (List.forall₂_and_left _ _).mpr
    ⟨fun g hg => (hfound'.exact g.1 g.2).mp hg, hleft.flip⟩
  exact hboth.flip.imp fun f g hfg => corresponds_of_traced hfg.2.1 hfg.1 hfg.2.2

/-- A call with a comment and a blank line before it, parentheses, a line end and a comma among its
parts, and a semicolon on a continued line makes the site that the bare call makes. -/
theorem sites_ignore_trivia_laid_out :
    ∃ m m', parseModule "a().bootstrapModule(B)\n" = some m ∧
      parseModule "# c\n\n(a)().bootstrapModule(\n (B),)\\\n;\n" = some m' ∧
      m.stripped = m'.stripped ∧
      ∃ found found', found.length = 1 ∧ FoundIn "B" m found ∧ FoundIn "B" m' found' ∧
        List.Forall₂ (Corresponds m.trees m'.trees) found found' := by
  have hsame : (parseModule "a().bootstrapModule(B)\n").map Module.stripped =
      (parseModule "# c\n\n(a)().bootstrapModule(\n (B),)\\\n;\n").map Module.stripped := by decide +kernel
  have hone : ((parseModule "a().bootstrapModule(B)\n").map fun m => (sites "B" m).length) =
      some 1 := by decide +kernel
  obtain ⟨m, hm, hlength⟩ := Option.map_eq_some_iff.mp hone
  rw [hm] at hsame
  obtain ⟨m', hm', hstripped⟩ := Option.map_eq_some_iff.mp hsame.symm
  obtain ⟨found, found', hfound, hfound', hpairs⟩ := sites_ignore_trivia hstripped.symm "B"
  rw [hfound.sites, List.length_map] at hlength
  exact ⟨m, m', hm, hm', hstripped.symm, found, found', hlength, hfound, hfound', hpairs⟩

end LocaleRegistrar.Bootstrap
