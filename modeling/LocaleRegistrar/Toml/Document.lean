import LocaleRegistrar.Toml.Reader

/-!
Reading a TOML document. A table may be opened by a header once, and neither a header nor a dotted
key may add to a value that was written as a whole.
-/

namespace LocaleRegistrar.Toml

open LocaleRegistrar.Data

/-- What has been read of a document. -/
structure Document where
  root : Table := []
  /-- The key of the table that fields are added to. -/
  header : Key := []
  /-- The keys that no header may open again. -/
  opened : List Key := []
  /-- The keys of lists and tables that were written as a whole. -/
  closed : List Key := []
  /-- The tables that dotted keys have made since the last header. From the next header on they count
  as opened. -/
  dotted : List Key := []

namespace Document

/-- Is a key, or one that leads to it, the key of a value that was written as a whole? -/
def isClosed (d : Document) (k : Key) : Bool :=
  d.closed.any (·.isPrefixOf k)

/-- Ends the fields of a header. -/
def endHeader (d : Document) : Document :=
  { d with opened := d.dotted ++ d.opened, dotted := [] }

/-- The keys of the tables on the way to a field, from the current header on. -/
def pathKeys (d : Document) (k : Key) : List Key :=
  (List.range (k.length - 1)).map fun n => d.header ++ k.take (n + 1)

/-- Adds a field to the current table. -/
def addField (d : Document) (k : Key) (v : Value) : Option Document := do
  let path := d.pathKeys k
  if path.any d.opened.contains then none
  else if d.isClosed (d.header ++ k.dropLast) then none
  else
    let root ← assign true (d.header ++ k) v d.root
    let closed := if isContainer v then (d.header ++ k) :: d.closed else d.closed
    some { d with root, closed, dotted := path ++ d.dotted }

/-- Opens a table. -/
def openTable (d : Document) (k : Key) : Option Document := do
  if d.opened.contains k || d.isClosed k then none
  else
    let root ← changeAt true some k d.root
    some { d with root, header := k, opened := k :: d.opened }

/-- Adds an empty table to a list of tables. -/
def appendTable (k : String) (t : Table) : Option Table :=
  match t.lookup k with
  | none => some (t ++ [(k, .list [.table []])])
  | some (.list values) => some (replaceField k (.list (values ++ [.table []])) t)
  | some _ => none

/-- Opens the next table of a list of tables. What was opened in the one before may be opened
again. -/
def openNext (d : Document) (k : Key) : Option Document := do
  if d.isClosed k then none
  else
    let last ← k.getLast?
    let root ← changeAt true (appendTable last) k.dropLast d.root
    let opened := d.opened.filter fun other => !k.isPrefixOf other
    let closed := d.closed.filter fun other => !k.isPrefixOf other
    some { d with root, header := k, opened := k :: opened, closed }

end Document

/-- A line of a document, without the comment after it. -/
def statement (d : Document) : Reader Document := do
  match ← peek with
  | some '#' => return d
  | some '[' =>
    let d := d.endHeader
    let double ← startsWith "[["
    expect (if double then "[[" else "[")
    skip isSpace
    let k ← key
    let d ← if double then d.openNext k else d.openTable k
    expect (if double then "]]" else "]")
    return d
  | _ =>
    let k ← key
    expect "="
    skip isSpace
    let v ← anyValue
    d.addField k v

/-- The lines of a document. `n` bounds their number. -/
def statements : Nat → Document → Reader Document
  | 0, _ => failure
  | n + 1, d => do
    skip isSpace
    match ← peek with
    | none => return d
    | some '\n' =>
      expect "\n"
      statements n d
    | some _ =>
      let d ← statement d
      skip isSpace
      skipComment
      match ← peek with
      | none => return d
      | some _ =>
        expect "\n"
        statements n d

/-- The text with a line feed for every pair of carriage return and line feed. -/
def joinLineEnds : List Char → List Char
  | '\r' :: '\n' :: rest => '\n' :: joinLineEnds rest
  | c :: rest => c :: joinLineEnds rest
  | [] => []

/-- The table that a document is, if it is one. -/
def parse (text : String) : Option Table :=
  let cs := joinLineEnds text.toList
  ((statements (cs.length + 1) {}).run cs).map fun (d, _) => d.root

end LocaleRegistrar.Toml
