import LocaleRegistrar.Python.Statement

/-!
Writing syntax as text. What is written depends on the context: the line end and the indentation
that stand for the usual ones, and the margin, which is the indentation of the block that is being
written. A node is written as a list of strings, and a statement as a list of lines, logical lines
and the blank ones between them.
-/

namespace LocaleRegistrar.Python

/-- Where something is written: what the usual line end and indentation are there, and the margin. -/
structure Context where
  usual : Usual := {}
  margin : String := ""

namespace Context

/-- The context of a block that adds `indent` to the margin. -/
def deeper (c : Context) (indent : Option String) : Context :=
  { c with margin := c.margin ++ indent.getD c.usual.indent }

end Context

def LineEnd.write (c : Context) : LineEnd → String
  | usual => c.usual.lineEnd
  | literal text => text

def Piece.write (c : Context) : Piece → String
  | text s => s
  | lineEnd e => e.write c
  | margin => c.margin

mutual

def Tree.write (c : Context) : Tree → List String
  | .piece p => [p.write c]
  | .node _ opening parts closing =>
    opening.map (·.write c) ++ Tree.writeAll c parts ++ closing.map (·.write c)

def Tree.writeAll (c : Context) : List Tree → List String
  | [] => []
  | t :: rest => t.write c ++ Tree.writeAll c rest

end

/-- A small statement with its semicolon. One that has none of its own is followed by the usual
semicolon unless it is the last of its line. -/
def Small.write (c : Context) (last : Bool) (s : Small) : List String :=
  s.content.write c ++
    match s.semicolon with
    | some pieces => pieces.map (·.write c)
    | none => if last then [] else ["; "]

/-- The small statements of a line. -/
def Small.writeAll (c : Context) : List Small → List String
  | [] => []
  | [s] => s.write c true
  | s :: rest => s.write c false ++ Small.writeAll c rest

/-- A line as it is written: its text and its line end. -/
structure WrittenLine where
  text : List String
  lineEnd : String
deriving DecidableEq, Repr

/-- The text of lines one after the other. -/
def WrittenLine.joinAll (lines : List WrittenLine) : String :=
  String.join (lines.flatMap fun l => l.text ++ [l.lineEnd])

def BlankLine.write (c : Context) (b : BlankLine) : WrittenLine :=
  ⟨(if b.indented then [c.margin] else []) ++ [b.text], b.lineEnd.write c⟩

/-- The line that starts with `start` and has this tail. -/
def Tail.write (c : Context) (start : List String) (t : Tail) : WrittenLine :=
  ⟨start ++ [t.blank, t.comment], t.lineEnd.write c⟩

def Line.write (c : Context) (l : Line) : List WrittenLine :=
  l.leading.map (·.write c) ++ [l.tail.write c (c.margin :: Small.writeAll c l.body)]

def Decorator.write (c : Context) (d : Decorator) : List WrittenLine :=
  d.leading.map (·.write c) ++ [d.tail.write c (c.margin :: Tree.writeAll c d.parts)]

mutual

def Statement.write (c : Context) : Statement → List WrittenLine
  | .simple line => line.write c
  | .compound _ leading decorators clauses =>
    leading.map (·.write c) ++ decorators.flatMap (·.write c) ++ Clause.writeAll c "" clauses

/-- The statements of a block, one after the other. -/
def Statement.writeAll (c : Context) : List Statement → List WrittenLine
  | [] => []
  | s :: rest => s.write c ++ Statement.writeAll c rest

/-- A clause; `lead` is written before its keyword. -/
def Clause.write (c : Context) (lead : String) : Clause → List WrittenLine
  | .plain leading keyword header suite =>
    leading.map (·.write c) ++ suite.write c ([c.margin, lead, keyword] ++ Tree.writeAll c header)
  | .alternative leading clauses => leading.map (·.write c) ++ Clause.writeAll c "el" clauses

/-- The clauses of a statement, with `lead` before the keyword of the first. -/
def Clause.writeAll (c : Context) (lead : String) : List Clause → List WrittenLine
  | [] => []
  | clause :: rest => clause.write c lead ++ Clause.writeAll c "" rest

/-- A suite after the header `start`. -/
def Suite.write (c : Context) (start : List String) : Suite → List WrittenLine
  | .inline gap body tail => [tail.write c (start ++ gap.map (·.write c) ++ Small.writeAll c body)]
  | .block tail indent body footer =>
    let inner := c.deeper indent
    tail.write c start :: (Statement.writeAll inner body ++ footer.map (·.write inner))

end

/-- The text of a node by itself: the usual line end is a line feed, and there is no margin. -/
def Tree.alone (t : Tree) : String := String.join (t.write {})

/-- The text of a small statement by itself, with its semicolon if it has one. -/
def Small.alone (s : Small) : String := String.join (s.write {} true)

/-- The text of a statement by itself. The usual line end is a line feed, the usual indentation four
blanks, and there is no margin. -/
def Statement.alone (s : Statement) : String := WrittenLine.joinAll (s.write {})

namespace Module

/-- The lines of a module in a context. -/
def write (c : Context) (m : Module) : List WrittenLine :=
  m.header.map (·.write c) ++ Statement.writeAll c m.body ++ m.footer.map (·.write c)

/-- The text of a module in a context. Without a line end at the end of its text, the last one that
is written is left out. -/
def text (c : Context) (m : Module) : String :=
  let lines := m.write c
  if m.closed then
    if lines.isEmpty then c.usual.lineEnd else WrittenLine.joinAll lines
  else
    WrittenLine.joinAll lines.dropLast ++ String.join ((lines.getLast?.map (·.text)).getD [])

/-- The text of a module by itself. -/
def alone (m : Module) : String := m.text {}

/-- The text of a module. -/
def render (m : Module) : String := m.text { usual := m.usual }

end Module

end LocaleRegistrar.Python
