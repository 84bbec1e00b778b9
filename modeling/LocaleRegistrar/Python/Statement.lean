import LocaleRegistrar.Python.Tree

/-!
Statements and modules. A logical line of small statements is kept apart from a compound statement,
which is a sequence of clauses, each with a header and a suite. Blank and comment lines belong to
what they stand before: the lines before the first statement to the module's header, those before a
later statement or clause to it, and those at the end of a block to the block's footer, up to the
last one that has the block's own indentation.
-/

namespace LocaleRegistrar.Python

/-- A line without a statement. -/
structure BlankLine where
  /-- Does it start with the indentation of its block? -/
  indented : Bool
  /-- The blanks after the indentation, and the comment. -/
  text : String
  lineEnd : LineEnd
deriving DecidableEq, Repr

/-- What stands after the last token of a line. -/
structure Tail where
  blank : String := ""
  comment : String := ""
  lineEnd : LineEnd := .usual
deriving DecidableEq, Repr

/-- One of the statements of a line. -/
structure Small where
  content : Tree
  /-- The semicolon after it with the pieces around it; without one, it is set off from the next
  statement of the line in the usual way. -/
  semicolon : Option Pieces := none
deriving DecidableEq

/-- A logical line of small statements. -/
structure Line where
  leading : List BlankLine := []
  body : List Small
  tail : Tail := {}
deriving DecidableEq

/-- A line `@decorator` before a function or a class. -/
structure Decorator where
  leading : List BlankLine
  parts : List Tree
  tail : Tail
deriving DecidableEq

/-- The kinds of compound statement. -/
inductive CompoundKind
  | functionDef
  | classDef
  | conditional
  | other
deriving DecidableEq, Repr

mutual

inductive Statement
  | simple (line : Line)
  /-- The leading lines of the statement, its decorators and its clauses. -/
  | compound (kind : CompoundKind) (leading : List BlankLine) (decorators : List Decorator)
      (clauses : List Clause)

inductive Clause
  /-- The lines before the clause, its keyword, the rest of its header up to the colon, and its
  suite. -/
  | plain (leading : List BlankLine) (keyword : String) (header : List Tree) (suite : Suite)
  /-- An `elif`, which is a conditional statement of its own nested in the one before. -/
  | alternative (leading : List BlankLine) (clauses : List Clause)

inductive Suite
  /-- Small statements on the line of the header, after the blanks that follow the colon. -/
  | inline (gap : Pieces) (body : List Small) (tail : Tail)
  /-- An indented block: what ends the header's line, the indentation added (`none` is the usual
  one), the statements and the lines after them. -/
  | block (tail : Tail) (indent : Option String) (body : List Statement) (footer : List BlankLine)

end

instance : Inhabited Statement := ⟨.simple ⟨[], [], {}⟩⟩

mutual

def Statement.decEq : (s t : Statement) → Decidable (s = t)
  | .simple line, .simple line' => decidable_of_decidable_of_iff (p := line = line') (by simp)
  | .compound kind leading decorators clauses, .compound kind' leading' decorators' clauses' =>
    have := Clause.decEqAll clauses clauses'
    decidable_of_decidable_of_iff (p := kind = kind' ∧ leading = leading' ∧
      decorators = decorators' ∧ clauses = clauses') (by simp)
  | .simple _, .compound .. => isFalse (by simp)
  | .compound .., .simple _ => isFalse (by simp)

def Statement.decEqAll : (ss ts : List Statement) → Decidable (ss = ts)
  | [], [] => isTrue rfl
  | s :: ss, t :: ts =>
    have := Statement.decEq s t
    have := Statement.decEqAll ss ts
    decidable_of_decidable_of_iff (p := s = t ∧ ss = ts) (by simp)
  | [], _ :: _ => isFalse (by simp)
  | _ :: _, [] => isFalse (by simp)

def Clause.decEq : (c d : Clause) → Decidable (c = d)
  | .plain leading keyword header suite, .plain leading' keyword' header' suite' =>
    have := Suite.decEq suite suite'
    decidable_of_decidable_of_iff (p := leading = leading' ∧ keyword = keyword' ∧
      header = header' ∧ suite = suite') (by simp)
  | .alternative leading clauses, .alternative leading' clauses' =>
    have := Clause.decEqAll clauses clauses'
    decidable_of_decidable_of_iff (p := leading = leading' ∧ clauses = clauses') (by simp)
  | .plain .., .alternative .. => isFalse (by simp)
  | .alternative .., .plain .. => isFalse (by simp)

def Clause.decEqAll : (cs ds : List Clause) → Decidable (cs = ds)
  | [], [] => isTrue rfl
  | c :: cs, d :: ds =>
    have := Clause.decEq c d
    have := Clause.decEqAll cs ds
    decidable_of_decidable_of_iff (p := c = d ∧ cs = ds) (by simp)
  | [], _ :: _ => isFalse (by simp)
  | _ :: _, [] => isFalse (by simp)

def Suite.decEq : (s t : Suite) → Decidable (s = t)
  | .inline gap body tail, .inline gap' body' tail' =>
    decidable_of_decidable_of_iff (p := gap = gap' ∧ body = body' ∧ tail = tail') (by simp)
  | .block tail indent body footer, .block tail' indent' body' footer' =>
    have := Statement.decEqAll body body'
    decidable_of_decidable_of_iff (p := tail = tail' ∧ indent = indent' ∧ body = body' ∧
      footer = footer') (by simp)
  | .inline .., .block .. => isFalse (by simp)
  | .block .., .inline .. => isFalse (by simp)

end

instance : DecidableEq Statement := Statement.decEq

/-- The line end and the indentation that a module uses unless told otherwise. -/
structure Usual where
  lineEnd : String := "\n"
  indent : String := "    "
deriving DecidableEq, Repr

namespace Statement

/-- The lines before the statement that belong to it. -/
def leading : Statement → List BlankLine
  | simple line => line.leading
  | compound _ leading _ _ => leading

/-- The statement with other lines before it. -/
def withLeading (leading : List BlankLine) : Statement → Statement
  | simple line => simple { line with leading }
  | compound kind _ decorators clauses => compound kind leading decorators clauses

end Statement

/-- A module: the lines before its first statement, its statements and the lines after them. -/
structure Module where
  header : List BlankLine := []
  body : List Statement := []
  footer : List BlankLine := []
  usual : Usual := {}
  /-- Does its text end with a line end? -/
  closed : Bool := true
deriving DecidableEq

end LocaleRegistrar.Python
