import LocaleRegistrar.Python.Tree
import LocaleRegistrar.Text.Fields
import LocaleRegistrar.Text.Identifier
import LocaleRegistrar.Text.Quoted

/-!
Names made from text, which has to be an identifier, and dotted paths of such names.
-/

namespace LocaleRegistrar.Python

/-- Why a text is no name. -/
inductive BadName
  | empty
  | notIdentifier (text : String)
deriving DecidableEq, Repr

namespace BadName

def message : BadName → String
  | empty => "Cannot have empty name identifier."
  | notIdentifier text => "Name " ++ Text.quoted text ++ " is not a valid identifier."

end BadName

/-- Checks that a text is a name. Keywords are not refused. -/
def checkName (text : String) : Except BadName Unit :=
  if text = "" then .error .empty
  else if Text.isIdentifier text then .ok ()
  else .error (.notIdentifier text)

/-- The node of a name. -/
def nameNode (text : String) : Except BadName Tree := do
  checkName text
  return .ofName text

/-- The attribute `attr` of `value`. -/
def memberNode (value attr : Tree) : Tree :=
  .bare .member [value, .text ".", attr]

/-- The node of a dotted path, whose parts are checked from left to right. -/
def dottedNode (path : String) : Except BadName Tree :=
  match Text.fields '.' path with
  | [] => .error .empty
  | part :: parts => do
    parts.foldlM (fun value part => do return memberNode value (← nameNode part))
      (← nameNode part)

end LocaleRegistrar.Python
