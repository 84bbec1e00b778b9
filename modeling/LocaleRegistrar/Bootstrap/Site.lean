import LocaleRegistrar.Python.Part

/-!
Bootstrap sites: the calls `<call>.bootstrapModule(…, Class, …)` of a module. The value before the
method has to be a call, whatever it calls, and the class has to be an argument of its own, by
position or by keyword.
-/

namespace LocaleRegistrar.Bootstrap

open LocaleRegistrar.Python

/-- The method that starts an application. -/
def method : String := "bootstrapModule"

/-- A bootstrap call, the reference to the class among its arguments, and the argument's index. -/
structure Site where
  call : Python.Tree
  identifier : Python.Tree
  argument : Nat

/-- Is this a call of the bootstrap method on the result of another call? -/
def isBootstrapCall (t : Python.Tree) : Bool :=
  match t.callee?.bind Python.Tree.member? with
  | some (value, attr) => value.isCall && attr.isName method
  | none => false

/-- The reference to the class that is all of an argument's value. -/
def reference? (className : String) (argument : Python.Tree) : Option Tree :=
  argument.argumentValue?.filter (·.isName className)

/-- The site that an argument of `call` makes. -/
def siteAt (className : String) (call : Option Python.Tree) (index : Nat)
    (argument : Python.Tree) : List Site :=
  match call, reference? className argument with
  | some call, some identifier => [⟨call, identifier, index⟩]
  | _, _ => []

mutual

/-- The sites in a tree, in the order of their references to the class. -/
def sitesIn (className : String) : Python.Tree → List Site
  | .piece _ => []
  | .node kind opening parts closing =>
    let self := Python.Tree.node kind opening parts closing
    sitesAmong className (if isBootstrapCall self then some self else none) 0 parts

/-- The sites among the parts of a node, which is `call` if it is a bootstrap call. `index` counts
the arguments. The value of an argument is its last node, so the sites nested in the argument come
before the one that it makes itself. -/
def sitesAmong (className : String) (call : Option Python.Tree) (index : Nat) :
    List Python.Tree → List Site
  | [] => []
  | t :: rest =>
    sitesIn className t ++ siteAt className call index t ++
      sitesAmong className call (if t.isArgument then index + 1 else index) rest

end

/-- The sites of a statement. -/
def sitesOf (className : String) (s : Statement) : List Site :=
  s.trees.flatMap (sitesIn className)

/-- The sites of a module. -/
def sites (className : String) (m : Python.Module) : List Site :=
  m.body.flatMap (sitesOf className)

/-- How often a module names the class, at a site or elsewhere. -/
def referenceCount (className : String) (m : Python.Module) : Nat :=
  m.nodes.countP (·.isName className)

end LocaleRegistrar.Bootstrap
