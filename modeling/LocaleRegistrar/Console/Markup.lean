import LocaleRegistrar.Console.Style
import LocaleRegistrar.Python.Literal
import LocaleRegistrar.Text.Word

/-!
Markup in messages. A tag `[name]` styles what follows until `[/name]` or `[/]` closes it, and is not
printed. A backslash before a tag makes it plain text, and two backslashes before one stand for one.
Brackets that hold no tag are plain text. A tag whose name starts with `@` stands for an action, with
its arguments after an equals sign.

The codes of pictures, such as `:wrench:`, are left in the text as they are.
-/

namespace LocaleRegistrar.Console

/-- A piece of a message: plain text, or the inside of a tag with the number of backslashes before
it. -/
inductive Token
  | text (cs : List Char)
  | tag (backslashes : Nat) (content : List Char)
deriving DecidableEq, Repr

/-- May this be the first character of a tag? -/
def startsTag (c : Char) : Bool :=
  ('a' ≤ c && c ≤ 'z') || c = '#' || c = '/' || c = '@'

/-- What is open while a message is scanned. -/
inductive Pending
  /-- Backslashes that a tag may follow. -/
  | backslashes (count : Nat)
  /-- Backslashes and a bracket, with the characters since, last first, which so far make a tag. -/
  | bracket (count : Nat) (reversed : List Char)

namespace Pending

/-- What is open, as plain text. -/
def chars : Pending → List Char
  | backslashes count => List.replicate count '\\'
  | bracket count reversed => List.replicate count '\\' ++ '[' :: reversed.reverse

end Pending

/-- Puts plain text before tokens. -/
def prependText (cs : List Char) (tokens : List Token) : List Token :=
  match cs, tokens with
  | [], tokens => tokens
  | cs, .text more :: rest => .text (cs ++ more) :: rest
  | cs, tokens => .text cs :: tokens

/-- The tokens of a message, given what is open. -/
def scan (pending : Pending) : List Char → List Token
  | [] => prependText pending.chars []
  | c :: rest =>
    match pending with
    | .backslashes count =>
      if c = '\\' then scan (.backslashes (count + 1)) rest
      else if c = '[' then scan (.bracket count []) rest
      else prependText (pending.chars ++ [c]) (scan (.backslashes 0) rest)
    | .bracket count reversed =>
      if c = '[' then
        let trailing := (reversed.takeWhile (· = '\\')).length
        let kept := Pending.bracket count (reversed.drop trailing)
        prependText kept.chars (scan (.bracket trailing []) rest)
      else if reversed.isEmpty && !startsTag c then
        if c = '\\' then prependText pending.chars (scan (.backslashes 1) rest)
        else prependText (pending.chars ++ [c]) (scan (.backslashes 0) rest)
      else if c = ']' then .tag count reversed.reverse :: scan (.backslashes 0) rest
      else scan (.bracket count (c :: reversed)) rest

def tokens (message : String) : List Token :=
  scan (.backslashes 0) message.toList

/-! ### Escaping -/

def escapeToken : Token → List Char
  | .text cs => cs
  | .tag count content =>
    List.replicate (2 * count + 1) '\\' ++ '[' :: content ++ [']']

/-- The markup that prints a text: tags get a backslash, and so does a single backslash at the end. -/
def escape (text : String) : String :=
  let escaped := (tokens text).flatMap escapeToken
  let trailing := (escaped.reverse.takeWhile (· = '\\')).length
  String.ofList (if trailing = 1 then escaped ++ ['\\'] else escaped)

/-! ### Tags -/

/-- Why a message cannot be printed. -/
inductive MessageFault
  /-- A tag closes nothing, or closes one whose parameters are no literal. -/
  | markup
  /-- A component of a colour is no number. -/
  | colour
deriving DecidableEq, Repr

/-- A tag that is open. -/
structure OpenTag where
  /-- The name of its style. -/
  name : String
  /-- What stands after the equals sign. -/
  parameters : Option (List Char)
  /-- How much text stands before it. -/
  start : Nat
deriving DecidableEq, Repr

/-- A style with the part of the text that it covers. -/
structure Span where
  start : Nat
  stop : Nat
  style : String
deriving DecidableEq, Repr

/-- Do parameters name what is called, with literals as its arguments? They may also be a literal
themselves. -/
def parametersHold (parameters : List Char) : Bool :=
  let call := Text.trimList parameters
  let arguments := call.dropWhile fun c => Text.isWord c || c = '.'
  if arguments.isEmpty then true
  else if arguments.head? = some '(' && arguments.getLast? = some ')' &&
    !arguments.contains '\n' then Python.Literal.isLiteral arguments
  else Python.Literal.isLiteral call

namespace OpenTag

/-- A tag of this kind names an action and not a style. -/
def isAction (tag : OpenTag) : Bool :=
  tag.name.toList.head? = some '@'

/-- The style of a tag over the text from its place up to `stop`. -/
def span (stop : Nat) (tag : OpenTag) : Span :=
  { start := tag.start, stop,
    style := match tag.parameters with
      | some (c :: rest) => tag.name ++ " " ++ String.ofList (c :: rest)
      | _ => tag.name }

/-- What closing a tag leaves: its style over the text since. The parameters of an action are read
then. -/
def close (tag : OpenTag) (position : Nat) : Except MessageFault (List Span) :=
  if !tag.isAction then .ok [tag.span position]
  else if parametersHold (tag.parameters.getD []) then .ok []
  else .error .markup

end OpenTag

/-- The innermost tag of a name, and the others. -/
def takeTag (name : String) : List OpenTag → Option (OpenTag × List OpenTag)
  | [] => none
  | top :: rest =>
    if top.name = name then some (top, rest)
    else (takeTag name rest).map fun (tag, others) => (tag, top :: others)

/-- The tag that `[/name]` closes, and the others. Without a name it closes the innermost one. -/
def closedTag (name : List Char) (opened : List OpenTag) :
    Except MessageFault (OpenTag × List OpenTag) :=
  if name.all Text.isBlank then
    match opened with
    | [] => .error .markup
    | top :: rest => .ok (top, rest)
  else
    match styleName? name with
    | none => .error .colour
    | some name =>
      match takeTag name opened with
      | some closed => .ok closed
      | none => .error .markup

/-- The tags that are open after another tag, and the style of one that it closes. -/
def applyTag (content : List Char) (position : Nat) (opened : List OpenTag) :
    Except MessageFault (List OpenTag × List Span) :=
  let name := content.takeWhile (· ≠ '=')
  match name with
  | '/' :: name =>
    (closedTag name opened).bind fun (tag, rest) =>
      (tag.close position).map fun spans => (rest, spans)
  | name =>
    match styleName? name with
    | none => .error .colour
    | some name =>
      let parameters := (content.dropWhile (· ≠ '=')).tail?
      .ok (⟨name, parameters, position⟩ :: opened, [])

/-! ### Rendering -/

/-- A message without its tags, and the styles of its parts. -/
structure Rendered where
  text : List Char
  spans : List Span
deriving DecidableEq, Repr

/-- Plain text as it is printed: a backslash before a bracket is dropped. -/
def plainText : List Char → List Char
  | '\\' :: '[' :: rest => '[' :: plainText rest
  | c :: rest => c :: plainText rest
  | [] => []

/-- What tokens amount to, given the tags that are open and how much text stands before them. -/
def renderTokens (opened : List OpenTag) (position : Nat) :
    List Token → Except MessageFault Rendered
  | [] => .ok ⟨[], opened.map (OpenTag.span position)⟩
  | .text cs :: rest => do
    let plain := plainText cs
    let after ← renderTokens opened (position + plain.length) rest
    return { after with text := plain ++ after.text }
  | .tag count content :: rest => do
    let before := List.replicate (count / 2) '\\'
    if count % 2 = 1 then
      let plain := before ++ '[' :: content ++ [']']
      let after ← renderTokens opened (position + plain.length) rest
      return { after with text := plain ++ after.text }
    else
      let position := position + before.length
      let (opened, closed) ← applyTag content position opened
      let after ← renderTokens opened position rest
      return ⟨before ++ after.text, closed ++ after.spans⟩

def render (message : String) : Except MessageFault Rendered :=
  renderTokens [] 0 (tokens message)

/-- Is this one of the characters that move the cursor and are never printed? -/
def isCursorControl (c : Char) : Bool :=
  [7, 8, 11, 12, 13].contains c.toNat

/-- A style that cannot be printed, although its name could be read. -/
def Span.isFaulty (span : Span) : Bool :=
  match Style.read span.style.toList with
  | .error .component => true
  | _ => false

namespace Rendered

/-- Is the style of this part looked at? A text of several lines, or one with tabs, is printed piece
by piece, and a style that covers no character of a piece is not. -/
def shows (rendered : Rendered) (span : Span) : Bool :=
  let whole := !(rendered.text.contains '\n' || rendered.text.contains '\t')
  let covered := (rendered.text.take span.stop).drop span.start
  whole || covered.any fun c => c ≠ '\n' && !isCursorControl c

/-- The text, if all the styles that are looked at can be printed. -/
def shown (rendered : Rendered) : Except MessageFault (List Char) :=
  if rendered.spans.any fun span => rendered.shows span && span.isFaulty then .error .colour
  else .ok rendered.text

end Rendered

end LocaleRegistrar.Console
