import LocaleRegistrar.Console.Markup
import LocaleRegistrar.Text.Blank
import LocaleRegistrar.Text.Fields
import LocaleRegistrar.Text.Width

/-!
What is printed: lines of text, messages of a level and tables. A message that is not well marked up
fails and prints nothing.
-/

namespace LocaleRegistrar.Console

/-- A line of text or a row of a table. -/
inductive Item
  | line (text : String)
  | row (cells : List String)
deriving DecidableEq, Repr

/-- The levels of messages. -/
inductive Level
  | debug
  | info
  | success
  | warning
  | error
deriving DecidableEq, Repr

namespace Level

def label : Level → String
  | debug => "DEBUG"
  | info => "INFO"
  | success => "SUCCESS"
  | warning => "WARNING"
  | error => "ERROR"

/-- What stands before the text of a message. -/
def icon : Level → String
  | debug => ""
  | info => "ℹ️  "
  | success => "✅ "
  | warning => "⚠️  "
  | error => "❌ "

end Level

/-- The lines of a text. -/
def linesOf (text : List Char) : List (List Char) :=
  (Text.fieldsList '\n' (text.filter (!isCursorControl ·))).map (Text.expandTabsFrom 0)

def lineOf (text : List Char) : Item :=
  .line (String.ofList (Text.trimEndList text))

/-- Prints a text with markup. -/
def printed (message : String) : Except MessageFault (List Item) := do
  return (linesOf (← (← render message).shown)).map lineOf

/-- Prints a message. Its level stands before its first line, and further lines are indented. One
whose styles cannot be printed is left out. -/
def logged (level : Level) (message : String) : Except MessageFault (List Item) := do
  let rendered ← render (level.icon ++ message)
  let label := level.label.toList
  let first := label ++ List.replicate (9 - label.length) ' '
  match rendered.shown with
  | .error _ => return []
  | .ok text =>
    match linesOf text with
    | [] => return []
    | line :: rest =>
      return lineOf (first ++ line) :: rest.map fun line => lineOf (List.replicate 9 ' ' ++ line)

/-- The lines of a text with markup, without the blanks around them. -/
def cellLines (message : String) : Except MessageFault (List String) := do
  let text ← (← render message).shown
  return (linesOf text).map fun line => String.ofList (Text.trimList line)

/-- The lines of a row, as many as its longest cell has. -/
def rowLines (cells : List (List String)) : List (List String) :=
  let height := cells.foldl (fun height lines => max height lines.length) 0
  (List.range height).map fun n => cells.map fun lines => lines.getD n ""

/-- Prints a table: its title, the names of its columns and its rows. -/
def tabled (title : String) (rows : List (List String)) : Except MessageFault (List Item) := do
  let title ← cellLines title
  let rows ← rows.mapM fun row => row.mapM cellLines
  return title.map .line ++ (rows.flatMap rowLines).map .row

/-- The items without the empty lines at their end. -/
def trimItems (items : List Item) : List Item :=
  (items.reverse.dropWhile (· = .line "")).reverse

end LocaleRegistrar.Console
