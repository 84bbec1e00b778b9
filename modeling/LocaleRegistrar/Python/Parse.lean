import LocaleRegistrar.Python.Grammar.Compound

/-!
Reading a module from its text. The result keeps the whole text except for a byte-order mark, for
blanks before the first token of a line that are not its block's indentation, and for the last line
end of a text that does not end in a line feed.
-/

namespace LocaleRegistrar.Python

/-- The text without the mark that may start it. -/
def dropMark (cs : List Char) : List Char :=
  match cs with
  | c :: rest => if c.toNat = 0xFEFF then rest else cs
  | [] => []

/-- The statements of a text, the blank lines after them, and what is usual in the text. -/
def parseText (cs : List Char) : Option (List Statement × List BlankLine × Usual) := do
  let lineEnd := Layout.usualLineEnd cs
  let layout ← Layout.ofText lineEnd cs
  let usual : Usual := ⟨lineEnd, Layout.usualIndent layout.items⟩
  let readings ← Grammar.readItems usual false layout.items
  let body ← Grammar.statements readings
  return (body, layout.footer, usual)

/-- Reads a module. The lines before its first statement are its header; without a statement all
lines are. The grammar alone decides what a module is. What only a check of finished nodes could
refuse is read: text and bytes side by side in one string, or a bare `except` before other
handlers. -/
def parseModule (text : String) : Option Module := do
  let cs := dropMark text.toList
  let (body, footer, usual) ← parseText cs
  let closed := cs.getLast? = some '\n'
  match body with
  | [] => return { header := footer, usual, closed }
  | statement :: rest =>
    return { header := statement.leading, body := statement.withLeading [] :: rest, footer, usual,
             closed }

/-- Reads a text that holds one statement. The lines before it belong to it. -/
def parseStatement (text : String) : Option Statement := do
  let (body, _, _) ← parseText (dropMark text.toList)
  match body with
  | [statement] => return statement
  | _ => none

end LocaleRegistrar.Python
