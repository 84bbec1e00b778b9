import LocaleRegistrar.Text.Blank
import LocaleRegistrar.Text.Fields

/-!
References to the class that an application starts with, written `path#ClassName`.
-/

namespace LocaleRegistrar.Bootstrap

/-- The module that declares the class, and the class. -/
structure Entry where
  path : String
  className : String
deriving DecidableEq, Repr

/-- A text that refers to no class. -/
structure BadEntry where
  text : String
deriving DecidableEq, Repr

namespace BadEntry

def message (bad : BadEntry) : String :=
  "Invalid entry module '" ++ bad.text ++ "'. Expected 'path#ClassName'."

end BadEntry

namespace Entry

/-- Reads a reference. The last `#` divides it, and a class has to be named after it. -/
def parse (text : String) : Except BadEntry Entry :=
  match Text.splitLast '#' text with
  | some (path, className) =>
    if Text.trim className = "" then .error ⟨text⟩
    else .ok ⟨Text.trim path, Text.trim className⟩
  | none => .error ⟨text⟩

def text (e : Entry) : String :=
  e.path ++ "#" ++ e.className

end Entry

end LocaleRegistrar.Bootstrap
