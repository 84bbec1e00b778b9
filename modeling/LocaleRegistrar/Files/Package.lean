import LocaleRegistrar.Files.Tree

/-!
Finding a package on a search path. A directory with an `__init__.py` is a package by itself;
directories without one that have the same name are the portions of one package. A module file of
that name is no package, and it hides the portions.

Finding a package only looks at the files. What the import of a package does besides, running its
`__init__.py` and keeping compiled modules, is not modelled, so a package that cannot be imported is
found all the same.
-/

namespace LocaleRegistrar.Files

/-- What a name is in one directory of a search path. -/
inductive Found
  /-- A package with the directory it is in. -/
  | package (l : Location)
  /-- A plain module. -/
  | module
  /-- A directory that may be a portion of a package. -/
  | portion (l : Location)
  | nothing
deriving DecidableEq, Repr

namespace Tree

/-- What a name is in a directory. -/
def findIn (t : Tree) (name : String) (dir : Location) : Found :=
  let place := dir ++ [name]
  if t.isDirectory place && t.isFile (place ++ ["__init__.py"]) then .package place
  else if t.isFile (dir ++ [name ++ ".py"]) then .module
  else if t.isDirectory place then .portion place
  else .nothing

/-- The directories of the package that a name is on a search path. The first package or module
decides; without one, all portions count. -/
def findOn (t : Tree) (path : List Location) (name : String) : Option (List Location) :=
  let found := path.map (t.findIn name)
  let decides : Found → Bool
    | .package _ | .module => true
    | _ => false
  match found.find? decides with
  | some (.package place) => some [place]
  | some _ => none
  | none =>
    let portions := found.filterMap fun
      | .portion place => some place
      | _ => none
    if portions.isEmpty then none else some portions

/-- The directories of a package with a dotted name. -/
def packageDirectories (t : Tree) (path : List Location) (name : String) :
    Option (List Location) :=
  (Text.fields '.' name).foldlM (fun path part => if part = "" then none else t.findOn path part)
    path

/-- The first node of every name in several directories. -/
def mergedChildren (t : Tree) (dirs : List Location) : List (String × Node) :=
  (dirs.flatMap t.children).foldl
    (fun seen child => if (seen.lookup child.1).isSome then seen else seen ++ [child]) []

end Tree

end LocaleRegistrar.Files
