import LocaleRegistrar.Python.Grammar.Parser

/-!
What may be assigned to. A target is a name, an attribute, a subscript, or a tuple or list of
targets, among which some may be starred. An augmented or annotated assignment takes a single target,
and a deletion takes no starred ones.
-/

namespace LocaleRegistrar.Python.Grammar

/-- Is the tree a name that can be bound? -/
def isVariable (t : Tree) : Bool :=
  match t.identifier? with
  | some id => !constants.contains id
  | none => false

/-- A name, an attribute or a subscript. -/
def isSingleTarget (t : Tree) : Bool :=
  isVariable t || t.kind? == some .member || t.kind? == some .subscript

mutual

/-- May the tree be assigned to? Inside a tuple or a list, starred targets count if `starred`. -/
def isTarget (starred : Bool) : Tree → Bool
  | .piece _ => false
  | .node .name o parts c => isVariable (.node .name o parts c)
  | .node .member _ _ _ => true
  | .node .subscript _ _ _ => true
  | .node .tuple _ parts _ => areTargets starred parts
  | .node .list _ parts _ => areTargets starred parts
  | .node _ _ _ _ => false

/-- May all nodes of the list be assigned to? -/
def areTargets (starred : Bool) : List Tree → Bool
  | [] => true
  | .piece _ :: rest => areTargets starred rest
  | .node .starred [] parts [] :: rest =>
    starred && isStarredTarget starred parts && areTargets starred rest
  | t :: rest => isTarget starred t && areTargets starred rest

/-- Is what stands after a star a target? -/
def isStarredTarget (starred : Bool) : List Tree → Bool
  | [] => true
  | .piece _ :: rest => isStarredTarget starred rest
  | t :: rest => isTarget starred t && isStarredTarget starred rest

end

/-- May the left side of an assignment be `t`? It may be starred as a whole. -/
def isAssignable (t : Tree) : Bool :=
  areTargets true [t]

/-- May `t` be deleted? -/
def isDeletable (t : Tree) : Bool :=
  isTarget false t

end LocaleRegistrar.Python.Grammar
