import LocaleRegistrar.Files.Path
import LocaleRegistrar.Text.Quoted

/-!
A tree of files and directories. What stands where is a function of the location; a path is followed
name by name, so that `..` after something that is no directory fails.

A tree has no symbolic and no hard links. With links, a file can be reached under several names, a
directory lists it once for each of them, and writing under one of them changes what stands under
the others; nothing here says so. Every file may be read and written.
-/

namespace LocaleRegistrar.Files

inductive Node
  | file (bytes : List UInt8)
  | directory
deriving DecidableEq, Repr

/-- Why an operation on files fails. -/
inductive FileFault
  | notFound
  | alreadyExists
  | notDirectory
  | isDirectory
deriving DecidableEq, Repr

/-- A failed operation, with the path it was about. -/
structure FileError where
  fault : FileFault
  path : Path
deriving DecidableEq, Repr

namespace FileError

def message (e : FileError) : String :=
  let cause := match e.fault with
    | .notFound => "[Errno 2] No such file or directory"
    | .alreadyExists => "[Errno 17] File exists"
    | .notDirectory => "[Errno 20] Not a directory"
    | .isDirectory => "[Errno 21] Is a directory"
  cause ++ ": " ++ Text.quoted e.path.text

end FileError

/-- The files, each location at most once. The root is always there. -/
structure Tree where
  entries : List (Location × Node) := []
deriving DecidableEq, Repr

namespace Tree

/-- What stands at a location. -/
def get? (t : Tree) (l : Location) : Option Node :=
  if l = [] then some .directory else t.entries.lookup l

/-- The tree with `e` at a location. -/
def insert (t : Tree) (l : Location) (e : Node) : Tree :=
  if (t.entries.lookup l).isSome then
    ⟨t.entries.map fun entry => if entry.1 = l then (l, e) else entry⟩
  else ⟨t.entries ++ [(l, e)]⟩

/-- The tree without what stands at a location or below it. -/
def remove (t : Tree) (l : Location) : Tree :=
  ⟨t.entries.filter fun entry => !l.isPrefixOf entry.1⟩

def isFile (t : Tree) (l : Location) : Bool :=
  match t.get? l with
  | some (.file _) => true
  | _ => false

def isDirectory (t : Tree) (l : Location) : Bool :=
  t.get? l = some .directory

/-- The tree with a directory at a location and at every location above it. -/
def withDirectories (t : Tree) (l : Location) : Tree :=
  (List.range l.length).foldl
    (fun t n =>
      let above := l.take (n + 1)
      if (t.get? above).isSome then t else t.insert above .directory)
    t

/-- What a directory holds: the names and the nodes of everything directly below it. -/
def children (t : Tree) (l : Location) : List (String × Node) :=
  t.entries.filterMap fun (place, e) =>
    if place.dropLast = l then place.getLast?.map (·, e) else none

/-- Does a name match a pattern, in which `*` stands for any characters? -/
def matchesPattern : List Char → List Char → Bool
  | [], cs => cs.isEmpty
  | '*' :: pattern, cs =>
    (List.range (cs.length + 1)).any fun n => matchesPattern pattern (cs.drop n)
  | c :: pattern, d :: cs => c = d && matchesPattern pattern cs
  | _ :: _, [] => false

/-- A pattern without `*` matches itself. -/
theorem matchesPattern_iff_eq {pattern : List Char} (h : '*' ∉ pattern) (cs : List Char) :
    matchesPattern pattern cs = true ↔ pattern = cs := by
  induction pattern generalizing cs with
  | nil => cases cs <;> simp [matchesPattern]
  | cons c pattern ih =>
    have hc : c ≠ '*' := fun heq => h (heq ▸ List.mem_cons_self)
    have hrest : '*' ∉ pattern := fun hmem => h (List.mem_cons_of_mem c hmem)
    cases cs with
    | nil => simp [matchesPattern]
    | cons d cs => simp [matchesPattern, ih hrest]

/-- A pattern that starts with its only `*` matches what ends as it does. -/
theorem matchesPattern_star {suffix : List Char} (h : '*' ∉ suffix) (cs : List Char) :
    matchesPattern ('*' :: suffix) cs = suffix.isSuffixOf cs := by
  rw [Bool.eq_iff_iff, List.isSuffixOf_iff_suffix]
  simp only [matchesPattern, List.any_eq_true, List.mem_range, matchesPattern_iff_eq h]
  constructor
  · rintro ⟨n, -, rfl⟩
    exact List.drop_suffix n cs
  · rintro ⟨front, rfl⟩
    exact ⟨front.length, by simp only [List.length_append]; omega, by simp⟩

/-- What a directory holds under names that match a pattern. -/
def glob (t : Tree) (l : Location) (pattern : String) : List (String × Node) :=
  (t.children l).filter fun child => matchesPattern pattern.toList child.1.toList

/-- The locations below a directory, from it on. -/
def below (t : Tree) (l : Location) : List Location :=
  t.entries.filterMap fun (place, _) =>
    if l.isPrefixOf place && place ≠ l then some (place.drop l.length) else none

/-! ### Following paths -/

/-- Follows one more name from a location. -/
def follow (t : Tree) (l : Location) (name : String) : Except FileFault Location :=
  match t.get? l with
  | some .directory => .ok (Path.step l name)
  | some (.file _) => .error .notDirectory
  | none => .error .notFound

/-- The location that a path leads to. There need not be anything there. -/
def locate (t : Tree) (here : Location) (p : Path) : Except FileFault Location :=
  p.names.foldlM (follow t) (if p.root = .here then here else [])

/-- The bytes of the file that a path leads to. -/
def read (t : Tree) (here : Location) (p : Path) : Except FileError (List UInt8) :=
  match t.locate here p with
  | .error fault => .error ⟨fault, p⟩
  | .ok l =>
    match t.get? l with
    | some (.file bytes) => .ok bytes
    | some .directory => .error ⟨.isDirectory, p⟩
    | none => .error ⟨.notFound, p⟩

/-- Writes a file. -/
def write (t : Tree) (here : Location) (p : Path) (bytes : List UInt8) : Except FileError Tree :=
  match t.locate here p with
  | .error fault => .error ⟨fault, p⟩
  | .ok l => if t.isDirectory l then .error ⟨.isDirectory, p⟩ else .ok (t.insert l (.file bytes))

/-- Makes one directory. A directory that is already there will do. -/
def makeDirectory (t : Tree) (here : Location) (p : Path) : Except FileError Tree :=
  match t.locate here p with
  | .error fault => .error ⟨fault, p⟩
  | .ok l =>
    match t.get? l with
    | none => .ok (t.insert l .directory)
    | some .directory => .ok t
    | some (.file _) => .error ⟨.alreadyExists, p⟩

/-- The files after an operation that may have failed, and why it failed. -/
abbrev Attempt := Tree × Option FileError

/-- The files after an operation that changes nothing if it fails. -/
def attempt (t : Tree) : Except FileError Tree → Attempt
  | .ok t => (t, none)
  | .error e => (t, some e)

/-- Goes on after an operation unless it failed. -/
def Attempt.next (a : Attempt) (f : Tree → Attempt) : Attempt :=
  match a with
  | (t, none) => f t
  | (t, some e) => (t, some e)

/-- Makes the directory of the first `n` names of a path, and those above it that are missing. What
has been made stays if a later one cannot be made. -/
def makeDirectories (t : Tree) (here : Location) (p : Path) : Nat → Attempt
  | 0 => t.attempt (t.makeDirectory here { p with names := [] })
  | n + 1 =>
    let q := { p with names := p.names.take (n + 1) }
    match t.makeDirectory here q with
    | .error ⟨.notFound, _⟩ =>
      (makeDirectories t here p n).next fun t => t.attempt (t.makeDirectory here q)
    | result => t.attempt result

/-- Writes a file, in a directory that is made if it is missing. -/
def writeInto (t : Tree) (here : Location) (p : Path) (bytes : List UInt8) : Attempt :=
  (t.makeDirectories here p.parent p.parent.names.length).next fun t =>
    t.attempt (t.write here p bytes)

end Tree

end LocaleRegistrar.Files
