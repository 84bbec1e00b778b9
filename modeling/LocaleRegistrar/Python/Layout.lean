import LocaleRegistrar.Python.Lexeme
import LocaleRegistrar.Python.Statement

/-!
The layout of a Python text: its logical lines, nested by their indentation. A line that is followed
by deeper ones heads the block that they form. Here the blank lines get their owners, and the blanks
between two lexemes are cut into pieces, relative to the indentation of the block they lie in. The
line ends among these pieces are kept as they are.
-/

namespace LocaleRegistrar.Python

/-- A lexeme with the pieces before it. -/
structure Token where
  kind : TokenKind
  text : String
  gap : Pieces
deriving Repr

/-- A logical line with the blank lines that belong to it. -/
structure LogicalLine where
  leading : List BlankLine
  tokens : List Token
  tail : Tail
deriving Repr

/-- A logical line, alone or at the head of a block. -/
inductive Item
  | plain (line : LogicalLine)
  /-- The line, the indentation that the block adds to its own, the lines of the block and the blank
  lines after them. -/
  | headed (line : LogicalLine) (indent : String) (items : List Item) (footer : List BlankLine)

/-- The layout of a whole text: its lines and the blank lines after them. -/
structure Layout where
  items : List Item
  footer : List BlankLine

namespace Layout

open Lexeme (isLineEnd)

/-- The first line end of the text, or else a line feed. -/
def usualLineEnd : List Char → String
  | [] => "\n"
  | '\r' :: '\n' :: _ => "\r\n"
  | c :: rest => if isLineEnd c then c.toString else usualLineEnd rest

def lineEnd (usual : String) : Option String → LineEnd
  | none => .usual
  | some text => LineEnd.relativeTo usual (.literal text)

/-- The blanks between two lexemes, cut at their line ends: the first line of them, and each further
line with the line end before it. A line end after a backslash does not count. -/
def gapLines (comment : Bool) : List Char → List Char × List (String × List Char)
  | [] => ([], [])
  | '\r' :: '\n' :: rest =>
    let (first, more) := gapLines false rest
    ([], ("\r\n", first) :: more)
  | '\\' :: '\r' :: '\n' :: rest =>
    if comment then
      let (first, more) := gapLines false rest
      (['\\'], ("\r\n", first) :: more)
    else
      let (first, more) := gapLines false rest
      ('\\' :: '\r' :: '\n' :: first, more)
  | '\\' :: c :: rest =>
    if comment && isLineEnd c then
      let (first, more) := gapLines false rest
      (['\\'], (c.toString, first) :: more)
    else
      let (first, more) := gapLines comment rest
      ('\\' :: c :: first, more)
  | c :: rest =>
    if isLineEnd c then
      let (first, more) := gapLines false rest
      ([], (c.toString, first) :: more)
    else
      let (first, more) := gapLines (comment || c = '#') rest
      (c :: first, more)

/-- Text as pieces. -/
def textPieces (cs : List Char) : Pieces :=
  if cs.isEmpty then [] else [.text (String.ofList cs)]

/-- A line that starts with the margin is cut after it. -/
def cutMargin (margin line : List Char) : Pieces :=
  match Lexeme.after? margin line with
  | some rest => .margin :: textPieces rest
  | none => textPieces line

/-- The blanks between two lexemes as pieces. -/
def gapPieces (margin gap : List Char) : Pieces :=
  let (first, more) := gapLines false gap
  textPieces first ++ more.flatMap fun (ending, line) =>
    .lineEnd (.literal ending) :: cutMargin margin line

def token (margin : List Char) (l : Lexeme) : Token :=
  ⟨l.kind, l.text, gapPieces margin l.gap⟩

def tail (usual : String) (t : RawTail) : Tail :=
  ⟨String.ofList t.blank, String.ofList t.comment, lineEnd usual t.lineEnd⟩

def blankLine (usual : String) (margin : List Char) (b : RawBlank) : BlankLine :=
  match Lexeme.after? margin b.text with
  | some rest => ⟨true, String.ofList rest, lineEnd usual b.lineEnd⟩
  | none => ⟨false, String.ofList b.text, lineEnd usual b.lineEnd⟩

/-- The blank lines up to the last one that starts with the margin, and the others. -/
def splitFooter (margin : List Char) (blanks : List RawBlank) : List RawBlank × List RawBlank :=
  let footer := (blanks.reverse.dropWhile fun b => (Lexeme.after? margin b.text).isNone).reverse
  (footer, blanks.drop footer.length)

/-- Two measures of an indentation: its width with tabs that stop at every eighth column, and with
tabs one column wide. Two indentations compare only if both measures say the same. -/
structure Width where
  wide : Nat
  narrow : Nat
deriving DecidableEq, Repr

/-- A form feed starts the count anew. -/
def width (indent : List Char) : Width :=
  indent.foldl (fun w c =>
    if c = ' ' then ⟨w.wide + 1, w.narrow + 1⟩
    else if c = '\t' then ⟨(w.wide / 8 + 1) * 8, w.narrow + 1⟩
    else ⟨0, 0⟩) ⟨0, 0⟩

/-- A block whose end has not been reached. -/
structure Level where
  margin : List Char
  width : Width
  /-- The lines read so far, the latest first. -/
  items : List Item

/-- The open blocks, the innermost first; the module itself is `base`. -/
structure Levels where
  inner : List Level
  base : List Item

namespace Levels

def top (ls : Levels) : List Char × Width :=
  match ls.inner with
  | [] => ([], ⟨0, 0⟩)
  | level :: _ => (level.margin, level.width)

/-- Adds a line to the innermost block. -/
def push (ls : Levels) (item : Item) : Levels :=
  match ls.inner with
  | [] => { ls with base := item :: ls.base }
  | level :: outer => { ls with inner := { level with items := item :: level.items } :: outer }

/-- The latest line of the list becomes the head of a block. -/
def headLatest (indent : String) (block : List Item) (footer : List BlankLine) :
    List Item → Option (List Item)
  | .plain line :: before => some (.headed line indent block.reverse footer :: before)
  | _ => none

/-- Ends the innermost block. Its lines follow the latest line of the block around it. -/
def close (ls : Levels) (footer : List BlankLine) : Option Levels :=
  match ls.inner with
  | [] => none
  | [level] => do
    let base ← headLatest (String.ofList level.margin) level.items footer ls.base
    return ⟨[], base⟩
  | level :: around :: outer => do
    let indent ← Lexeme.after? around.margin level.margin
    let items ← headLatest (String.ofList indent) level.items footer around.items
    return ⟨{ around with items } :: outer, ls.base⟩

/-- Ends the blocks that are wider than `w`, innermost first. Each takes its footer from the blank
lines; the rest of them are given back. -/
def closeTo (usual : String) (w : Nat) : Nat → Levels → List RawBlank →
    Option (Levels × List RawBlank)
  | 0, ls, blanks => some (ls, blanks)
  | fuel + 1, ls, blanks =>
    if ls.top.2.wide ≤ w then some (ls, blanks)
    else do
      let (footer, blanks) := splitFooter ls.top.1 blanks
      let ls ← ls.close (footer.map (blankLine usual ls.top.1))
      closeTo usual w fuel ls blanks

/-- Goes to the block that a line of this indentation belongs to. -/
def goTo (usual : String) (indent : List Char) (ls : Levels) (blanks : List RawBlank) :
    Option (Levels × List RawBlank) :=
  let w := Layout.width indent
  let top := ls.top.2
  if top.wide < w.wide then
    if top.narrow < w.narrow then some (⟨⟨indent, w, []⟩ :: ls.inner, ls.base⟩, blanks) else none
  else do
    let (ls, blanks) ← closeTo usual w.wide ls.inner.length ls blanks
    if ls.top.2 = w then return (ls, blanks) else none

/-- Adds the logical lines to the blocks. -/
def addLines (usual : String) : List RawLine → Levels → Option Levels
  | [], ls => some ls
  | line :: rest, ls => do
    let (ls, blanks) ←
      match line.indent with
      | some indent => goTo usual indent ls line.blanks
      | none => some (ls, line.blanks)
    let margin := ls.top.1
    let item : Item := .plain
      { leading := blanks.map (blankLine usual margin)
        tokens := line.lexemes.map (token margin)
        tail := Layout.tail usual line.tail }
    addLines usual rest (ls.push item)

end Levels

/-- The layout of a text, if it can be cut into lexemes and its indentation is consistent. -/
def ofText (usual : String) (cs : List Char) : Option Layout := do
  let (lines, blanks) ← Lexeme.readLines (cs.length + 1) cs
  let ls ← Levels.addLines usual lines ⟨[], []⟩
  let (ls, blanks) ← Levels.closeTo usual 0 ls.inner.length ls blanks
  return ⟨ls.base.reverse, blanks.map (blankLine usual [])⟩

/-- The indentation of the first block of the text, or else four spaces. -/
def usualIndent (items : List Item) : String :=
  (items.findSome? fun
    | .plain _ => none
    | .headed _ indent _ _ => some indent).getD "    "

end Layout

end LocaleRegistrar.Python
