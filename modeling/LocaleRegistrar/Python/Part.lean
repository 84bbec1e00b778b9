import LocaleRegistrar.Python.Render

/-!
What a module is made of, in the order of its text: statements, small statements and the trees in
the headers of compound statements. Every node of a tree comes before the nodes below it.
-/

namespace LocaleRegistrar.Python

mutual

/-- The nodes of a tree, itself included, each before those below it. -/
def Tree.nodes : Tree → List Tree
  | .piece _ => []
  | .node kind opening parts closing => .node kind opening parts closing :: Tree.nodesAll parts

def Tree.nodesAll : List Tree → List Tree
  | [] => []
  | t :: rest => t.nodes ++ Tree.nodesAll rest

end

/-- A part of a module that is no part of a tree. -/
inductive Part
  | statement (s : Statement)
  | small (s : Small)
  | tree (t : Tree)

namespace Part

/-- The tree that a part holds. -/
def tree? : Part → Option Tree
  | statement _ => none
  | small s => some s.content
  | tree t => some t

end Part

def Line.parts (l : Line) : List Part :=
  l.body.map .small

mutual

/-- The parts of a statement, itself included. -/
def Statement.outline : Statement → List Part
  | .simple line => .statement (.simple line) :: line.parts
  | .compound kind leading decorators clauses =>
    .statement (.compound kind leading decorators clauses) ::
      decorators.flatMap (fun d => d.parts.map .tree) ++ Clause.outlineAll clauses

def Statement.outlineAll : List Statement → List Part
  | [] => []
  | s :: rest => s.outline ++ Statement.outlineAll rest

/-- The parts of a clause. An `elif` counts as a conditional statement. -/
def Clause.outline : Clause → List Part
  | .plain _ _ header suite => header.map .tree ++ suite.outline
  | .alternative leading clauses =>
    .statement (.compound .conditional leading [] clauses) :: Clause.outlineAll clauses

def Clause.outlineAll : List Clause → List Part
  | [] => []
  | clause :: rest => clause.outline ++ Clause.outlineAll rest

def Suite.outline : Suite → List Part
  | .inline _ body _ => body.map .small
  | .block _ _ body _ => Statement.outlineAll body

end

/-- The trees of a statement. -/
def Statement.trees (s : Statement) : List Tree :=
  s.outline.filterMap Part.tree?

/-- The nodes of a statement. -/
def Statement.nodes (s : Statement) : List Tree :=
  s.trees.flatMap Tree.nodes

namespace Module

def outline (m : Module) : List Part :=
  m.body.flatMap Statement.outline

/-- The nodes of a module. -/
def nodes (m : Module) : List Tree :=
  m.body.flatMap Statement.nodes

end Module

/-- What a search looks for. -/
inductive Query
  | module
  /-- Lines of small statements. -/
  | line
  | compound (kind : CompoundKind)
  /-- Small statements of a kind. -/
  | small (kind : Kind)
  /-- Nodes of trees whose kind is one of these. -/
  | node (kinds : List Kind)

namespace Query

/-- Does a query ask for this statement? -/
def asksForStatement : Query → Statement → Bool
  | line, .simple _ => true
  | compound wanted, .compound kind _ _ _ => kind = wanted
  | _, _ => false

/-- Does a query ask for this small statement? -/
def asksForSmall : Query → Small → Bool
  | small kind, s => s.content.kind? = some kind
  | _, _ => false

/-- Does a query ask for this node? -/
def asksForNode : Query → Tree → Bool
  | node kinds, t => kinds.any (some · == t.kind?)
  | _, _ => false

/-- The texts of the nodes of a tree that a query asks for. -/
def inTree (q : Query) (t : Tree) : List String :=
  (t.nodes.filter q.asksForNode).map Tree.alone

/-- The texts of what a query asks for in a part, each written alone. -/
def inPart (q : Query) : Part → List String
  | .statement s => if q.asksForStatement s then [s.alone] else []
  | .small s => (if q.asksForSmall s then [s.alone] else []) ++ q.inTree s.content
  | .tree t => q.inTree t

/-- The texts of everything in a module that a query asks for, in the order of the module's text. -/
def search (q : Query) (m : Module) : List String :=
  match q with
  | .module => [m.alone]
  | _ => m.outline.flatMap q.inPart

end Query

end LocaleRegistrar.Python
