import LocaleRegistrar.Text.Fields

/-!
Paths of files. A path is a sequence of names, from the root or from the directory that it is read
in. Empty names and `.` are dropped when a path is read; `..` stays, because what it means depends
on the files. A path that starts with exactly two slashes keeps them.
-/

namespace LocaleRegistrar.Files

/-- Where a path starts. -/
inductive Root
  | here
  | slash
  | twoSlashes
deriving DecidableEq, Repr

def Root.text : Root → String
  | here => ""
  | slash => "/"
  | twoSlashes => "//"

structure Path where
  root : Root := .here
  names : List String := []
deriving DecidableEq, Repr

/-- A place in the file tree: the names on the way from the root to it. -/
abbrev Location := List String

namespace Path

/-- The root that a text starts with. -/
def rootOf : List Char → Root
  | '/' :: '/' :: '/' :: _ => .slash
  | '/' :: '/' :: _ => .twoSlashes
  | '/' :: _ => .slash
  | _ => .here

def parse (text : String) : Path :=
  ⟨rootOf text.toList, (Text.fields '/' text).filter fun name => name ≠ "" ∧ name ≠ "."⟩

def text (p : Path) : String :=
  if p.root = .here ∧ p.names = [] then "." else p.root.text ++ "/".intercalate p.names

/-- The path `q` read from `p`. -/
def join (p q : Path) : Path :=
  if q.root = .here then { p with names := p.names ++ q.names } else q

/-- The path without its last name. -/
def parent (p : Path) : Path :=
  { p with names := p.names.dropLast }

/-- The last name of a path. -/
def name (p : Path) : String :=
  p.names.getLast?.getD ""

/-- The path of a location. -/
def ofLocation (l : Location) : Path := ⟨.slash, l⟩

/-- A location after one more name. -/
def step (l : Location) (name : String) : Location :=
  if name = ".." then l.dropLast else l ++ [name]

/-- The location that a path names when it is read from `here`, by its names alone. -/
def resolve (here : Location) (p : Path) : Location :=
  p.names.foldl step (if p.root = .here then here else [])

end Path

/-- Locations are ordered by their names, from the root on. -/
def Location.before : Location → Location → Bool
  | [], _ => true
  | _ :: _, [] => false
  | x :: a, y :: b => if x = y then Location.before a b else decide (x ≤ y)

end LocaleRegistrar.Files
