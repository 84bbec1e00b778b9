/-!
The parts of a Python statement, kept with every blank, comment and bracket, so that writing a tree
gives back the text that was read. A tree is a piece of text or a node over a list of trees; the
redundant parentheses around an expression belong to the node that they enclose.

Two things in a text are not kept as they stand: a line end that is the module's usual one, and the
indentation of the block that a continuation line lies in. Both are written from the context.
-/

namespace LocaleRegistrar.Python

/-- The end of a line: the usual one of the module it is written in, or a particular one. -/
inductive LineEnd
  | usual
  | literal (text : String)
deriving DecidableEq, Repr

/-- What a tree is made of: text as it stands, the end of a line, or the indentation of the block
that the tree is written in. -/
inductive Piece
  | text (s : String)
  | lineEnd (e : LineEnd)
  | margin
deriving DecidableEq, Repr

/-- What stands between two tokens: blanks, comments and the line ends among them. -/
abbrev Pieces := List Piece

/-- The line end in a module whose usual one is `usual`. -/
def LineEnd.relativeTo (usual : String) : LineEnd → LineEnd
  | .usual => .usual
  | .literal text => if text = usual then .usual else .literal text

def Piece.relativeTo (usual : String) : Piece → Piece
  | lineEnd e => lineEnd (e.relativeTo usual)
  | p => p

/-- The kinds of node that a tool may ask for. All others are `other`. -/
inductive Kind
  /-- An identifier, or one of the constants `True`, `False` and `None`. -/
  | name
  /-- `value.attr` -/
  | member
  /-- `value[slices]` -/
  | subscript
  /-- `func(args)` -/
  | call
  /-- One argument of a call or of a class, with the comma after it. -/
  | arg (starred : Bool)
  | tuple
  | list
  /-- `*value` -/
  | starred
  | integer
  /-- One string or bytes literal without replacement fields. -/
  | stringLiteral
  /-- Several literals side by side. -/
  | stringSequence
  /-- One name of an import, with the comma after it. -/
  | importAlias
  /-- The statement `import a, b` -/
  | importModules
  /-- The statement `from a import b` -/
  | importFrom
  /-- A statement that is an expression. -/
  | expression
  | other
deriving DecidableEq, Repr

/-- A piece, or a node with the parentheses around it. -/
inductive Tree
  | piece (p : Piece)
  | node (kind : Kind) (opening : Pieces) (parts : List Tree) (closing : Pieces)

instance : Inhabited Tree := ⟨.piece .margin⟩

namespace Tree

mutual

def decEq : (t u : Tree) → Decidable (t = u)
  | piece p, piece q => decidable_of_decidable_of_iff (p := p = q) (by simp)
  | node kind opening parts closing, node kind' opening' parts' closing' =>
    have := decEqAll parts parts'
    decidable_of_decidable_of_iff (p := kind = kind' ∧ opening = opening' ∧ parts = parts' ∧
      closing = closing') (by simp)
  | piece _, node .. => isFalse (by simp)
  | node .., piece _ => isFalse (by simp)

def decEqAll : (ts us : List Tree) → Decidable (ts = us)
  | [], [] => isTrue rfl
  | t :: ts, u :: us =>
    have := decEq t u
    have := decEqAll ts us
    decidable_of_decidable_of_iff (p := t = u ∧ ts = us) (by simp)
  | [], _ :: _ => isFalse (by simp)
  | _ :: _, [] => isFalse (by simp)

end

instance : DecidableEq Tree := decEq

/-- Text as it stands. -/
def text (s : String) : Tree := .piece (.text s)

/-- A node without parentheses around it. -/
def bare (kind : Kind) (parts : List Tree) : Tree := .node kind [] parts []

/-- An identifier. -/
def ofName (id : String) : Tree := bare .name [text id]

/-- The tree with one more pair of parentheses around it. -/
def parenthesize (opening closing : Pieces) : Tree → Tree
  | piece p => node .other opening [piece p] closing
  | node kind o parts c => node kind (opening ++ o) parts (c ++ closing)

mutual

/-- The tree in a module whose usual line end is `usual`. -/
def relativeTo (usual : String) : Tree → Tree
  | piece p => piece (p.relativeTo usual)
  | node kind opening parts closing =>
    node kind (opening.map (·.relativeTo usual)) (relativeToAll usual parts)
      (closing.map (·.relativeTo usual))

def relativeToAll (usual : String) : List Tree → List Tree
  | [] => []
  | t :: rest => t.relativeTo usual :: relativeToAll usual rest

end

/-- The kind of a node. -/
def kind? : Tree → Option Kind
  | piece _ => none
  | node kind _ _ _ => some kind

/-- The parts of a node. -/
def parts : Tree → List Tree
  | piece _ => []
  | node _ _ parts _ => parts

def isNode : Tree → Bool
  | piece _ => false
  | node .. => true

/-- The nodes directly below a node. -/
def children (t : Tree) : List Tree :=
  t.parts.filter isNode

/-- The identifier that a name node holds. -/
def identifier? : Tree → Option String
  | node .name _ [piece (.text id)] _ => some id
  | _ => none

def isName (id : String) (t : Tree) : Bool :=
  t.identifier? == some id

def isCall (t : Tree) : Bool :=
  t.kind? == some .call

/-- What a call calls. -/
def callee? : Tree → Option Tree
  | node .call _ parts _ => parts.find? isNode
  | _ => none

/-- The value and the name of a member node. -/
def member? : Tree → Option (Tree × Tree)
  | node .member _ parts _ => do
    let value ← parts.find? isNode
    let attr ← (parts.filter isNode).getLast?
    return (value, attr)
  | _ => none

/-- The value of an argument that is not starred. -/
def argumentValue? : Tree → Option Tree
  | node (.arg false) _ parts _ => (parts.filter isNode).getLast?
  | _ => none

def isArgument : Tree → Bool
  | node (.arg _) _ _ _ => true
  | _ => false

end Tree

end LocaleRegistrar.Python
