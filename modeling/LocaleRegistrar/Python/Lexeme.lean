import LocaleRegistrar.Text.Identifier

/-!
Lexemes: the words, numbers, strings and symbols of a Python text, each with the blanks before it.
The text is cut into logical lines. A line ends at the first line end outside brackets; lines that
hold only blanks and a comment stand between the logical ones.

A string with replacement fields (a template) is cut further: its text and its fields alternate, a
field holds lexemes like a bracket does, and what follows a colon in a field is text again.
-/

namespace LocaleRegistrar.Python

inductive TokenKind
  | word
  | number
  | string
  | symbol
  | templateStart
  | templateText
  | templateEnd
deriving DecidableEq, Repr

structure Lexeme where
  kind : TokenKind
  text : String
  /-- The blanks before it, and inside brackets also comments and line ends. -/
  gap : List Char
deriving Repr

/-- What follows the last lexeme of a line; without a line end, the text ends there. -/
structure RawTail where
  blank : List Char
  comment : List Char
  lineEnd : Option String
deriving Repr

/-- A line without lexemes: blanks and a comment. -/
structure RawBlank where
  text : List Char
  lineEnd : Option String
deriving Repr

/-- A logical line with the blank lines before it. -/
structure RawLine where
  blanks : List RawBlank
  /-- The blanks before the first lexeme. A line whose start is continued from the line before by a
  backslash has no indentation of its own. -/
  indent : Option (List Char)
  lexemes : List Lexeme
  tail : RawTail
deriving Repr

namespace Lexeme

def isSpace (c : Char) : Bool := c = ' ' || c = '\t' || c = '\x0c'

def isLineEnd (c : Char) : Bool := c = '\n' || c = '\r'

/-- The line end at the start of the text. -/
def takeLineEnd : List Char → Option (String × List Char)
  | '\r' :: '\n' :: rest => some ("\r\n", rest)
  | '\r' :: rest => some ("\r", rest)
  | '\n' :: rest => some ("\n", rest)
  | _ => none

/-- A character in front of what was taken. -/
def keep (c : Char) : Option (List Char × List Char) → Option (List Char × List Char)
  | some (taken, rest) => some (c :: taken, rest)
  | none => none

/-- The blanks at the start of the text. A backslash joins a line to the next one and there must be
a next one. Inside brackets line ends and comments count as blanks too. -/
def takeGap (nested comment : Bool) : List Char → Option (List Char × List Char)
  | [] => some ([], [])
  | '\\' :: '\r' :: '\n' :: rest =>
    if comment then keep '\\' (takeGap nested comment ('\r' :: '\n' :: rest))
    else if rest.isEmpty then none
    else keep '\\' (keep '\r' (keep '\n' (takeGap nested comment rest)))
  | '\\' :: c :: rest =>
    if comment then keep '\\' (takeGap nested comment (c :: rest))
    else if isLineEnd c then
      if rest.isEmpty then none else keep '\\' (keep c (takeGap nested comment rest))
    else some ([], '\\' :: c :: rest)
  | c :: rest =>
    if isLineEnd c then
      if nested then keep c (takeGap nested false rest) else some ([], c :: rest)
    else if comment || isSpace c then keep c (takeGap nested comment rest)
    else if nested && c = '#' then keep c (takeGap nested true rest)
    else some ([], c :: rest)

/-- A comment at the start of the text, up to the end of its line. -/
def takeComment (cs : List Char) : List Char × List Char :=
  match cs with
  | '#' :: _ => (cs.takeWhile (!isLineEnd ·), cs.dropWhile (!isLineEnd ·))
  | _ => ([], cs)

/-! ### Numbers -/

/-- Digits, with single underscores before and between them. -/
def takeDigits (isDigit : Char → Bool) : List Char → List Char × List Char
  | '_' :: c :: rest =>
    if isDigit c then
      let (digits, rest) := takeDigits isDigit rest
      ('_' :: c :: digits, rest)
    else ([], '_' :: c :: rest)
  | c :: rest =>
    if isDigit c then
      let (digits, rest) := takeDigits isDigit rest
      (c :: digits, rest)
    else ([], c :: rest)
  | [] => ([], [])

def isHexDigit (c : Char) : Bool :=
  c.isDigit || ('a' ≤ c && c ≤ 'f') || ('A' ≤ c && c ≤ 'F')

/-- Digits that start with a digit. -/
def takeDecimal (cs : List Char) : List Char × List Char :=
  match cs with
  | '_' :: _ => ([], cs)
  | _ => takeDigits Char.isDigit cs

/-- An exponent; without digits there is none. -/
def takeExponent (cs : List Char) : List Char × List Char :=
  match cs with
  | e :: sign :: rest =>
    if e = 'e' || e = 'E' then
      if sign = '+' || sign = '-' then
        match takeDecimal rest with
        | ([], _) => ([], cs)
        | (digits, rest) => (e :: sign :: digits, rest)
      else
        match takeDecimal (sign :: rest) with
        | ([], _) => ([], cs)
        | (digits, rest) => (e :: digits, rest)
    else ([], cs)
  | _ => ([], cs)

/-- The mark of an imaginary number. -/
def takeImaginary : List Char → List Char × List Char
  | 'j' :: rest => (['j'], rest)
  | 'J' :: rest => (['J'], rest)
  | cs => ([], cs)

/-- The point of a decimal number with the digits after it. -/
def takePoint : List Char → List Char × List Char
  | '.' :: rest => ('.' :: (takeDecimal rest).1, (takeDecimal rest).2)
  | cs => ([], cs)

/-- What follows the whole part of a decimal number. -/
def takeFraction (cs : List Char) : List Char × List Char :=
  let (point, cs) := takePoint cs
  let (exponent, cs) := takeExponent cs
  let (mark, cs) := takeImaginary cs
  (point ++ exponent ++ mark, cs)

/-- A number in another base: its mark and at least one digit. -/
def takeBased (mark : Char) (isDigit : Char → Bool) (cs : List Char) :
    Option (List Char × List Char) :=
  match takeDigits isDigit cs with
  | ([], _) => none
  | (digits, rest) => some ('0' :: mark :: digits, rest)

/-- The digits that follow a zero with this mark. -/
def baseDigits? : Char → Option (Char → Bool)
  | 'x' | 'X' => some isHexDigit
  | 'o' | 'O' => some fun c => '0' ≤ c && c ≤ '7'
  | 'b' | 'B' => some fun c => c = '0' || c = '1'
  | _ => none

/-- A decimal number. One that is whole and starts with a zero is all zeros. -/
def takeDecimalNumber (cs : List Char) : Option (List Char × List Char) :=
  let (whole, rest) := takeDecimal cs
  let (fraction, rest) := takeFraction rest
  if fraction.isEmpty && whole.head? = some '0' && whole.any (fun c => c ≠ '0' && c ≠ '_') then
    none
  else some (whole ++ fraction, rest)

/-- A number, whose first digit or point is known to be there. -/
def takeNumber (cs : List Char) : Option (List Char × List Char) :=
  match cs with
  | '0' :: mark :: rest =>
    match baseDigits? mark with
    | some isDigit => takeBased mark isDigit rest
    | none => takeDecimalNumber cs
  | _ => takeDecimalNumber cs

/-- Is the text of a number that of a whole one? -/
def isWholeNumber (text : String) : Bool :=
  match text.toList with
  | '0' :: c :: rest =>
    if c.isDigit || c = '_' then rest.all fun c => c.isDigit || c = '_' else c ≠ '.' && c ≠ 'e' &&
      c ≠ 'E' && c ≠ 'j' && c ≠ 'J'
  | cs => cs.all fun c => c.isDigit || c = '_'

/-! ### Strings -/

/-- How a string literal is delimited. -/
structure Quote where
  /-- Is the quote a double one? -/
  double : Bool
  triple : Bool
  /-- A backslash in it is only a backslash. -/
  raw : Bool
deriving DecidableEq, Repr

def Quote.char (q : Quote) : Char :=
  if q.double then '"' else '\''

/-- The quote at the start of the text. -/
def takeQuote (raw : Bool) : List Char → Option (Quote × List Char)
  | '\'' :: '\'' :: '\'' :: rest => some (⟨false, true, raw⟩, rest)
  | '"' :: '"' :: '"' :: rest => some (⟨true, true, raw⟩, rest)
  | '\'' :: rest => some (⟨false, false, raw⟩, rest)
  | '"' :: rest => some (⟨true, false, raw⟩, rest)
  | _ => none

def Quote.text (q : Quote) : List Char :=
  if q.triple then [q.char, q.char, q.char] else [q.char]

/-- What follows the closing quote, if the text starts with it. -/
def Quote.close? (q : Quote) (cs : List Char) : Option (List Char) :=
  match cs with
  | a :: rest =>
    if a ≠ q.char then none
    else if !q.triple then some rest
    else
      match rest with
      | b :: c :: rest => if b = q.char ∧ c = q.char then some rest else none
      | _ => none
  | [] => none

/-- The rest of a string after its opening quote, with the closing one. -/
def takeString (q : Quote) : List Char → Option (List Char × List Char)
  | [] => none
  | '\\' :: '\r' :: '\n' :: rest => keep '\\' (keep '\r' (keep '\n' (takeString q rest)))
  | '\\' :: c :: rest => keep '\\' (keep c (takeString q rest))
  | c :: rest =>
    match q.close? (c :: rest) with
    | some rest => some (q.text, rest)
    | none => if isLineEnd c && !q.triple then none else keep c (takeString q rest)

/-- The text of a template up to its closing quote or its next field. In a format specification
(`spec`) braces are never doubled and a closing one ends it. -/
def takeTemplateText (q : Quote) (spec named : Bool) : List Char → Option (List Char × List Char)
  | [] => none
  | '\\' :: 'N' :: '{' :: rest =>
    if !q.raw && !spec then
      keep '\\' (keep 'N' (keep '{' (takeTemplateText q spec true rest)))
    else keep '\\' (keep 'N' (takeTemplateText q spec named ('{' :: rest)))
  | '\\' :: '\r' :: '\n' :: rest =>
    keep '\\' (keep '\r' (keep '\n' (takeTemplateText q spec named rest)))
  | '\\' :: c :: rest =>
    if c = '{' || c = '}' then keep '\\' (takeTemplateText q spec named (c :: rest))
    else keep '\\' (keep c (takeTemplateText q spec named rest))
  | '{' :: '{' :: rest =>
    if spec then some ([], '{' :: '{' :: rest)
    else keep '{' (keep '{' (takeTemplateText q spec named rest))
  | '}' :: '}' :: rest =>
    if named then keep '}' (takeTemplateText q spec false ('}' :: rest))
    else if spec then some ([], '}' :: '}' :: rest)
    else keep '}' (keep '}' (takeTemplateText q spec named rest))
  | c :: rest =>
    if (q.close? (c :: rest)).isSome then some ([], c :: rest)
    else if c = '{' then some ([], c :: rest)
    else if c = '}' then
      if named then keep c (takeTemplateText q spec false rest)
      else if spec then some ([], c :: rest)
      else none
    else if isLineEnd c && !q.triple then none
    else keep c (takeTemplateText q spec named rest)

/-- The letters that may stand before the quote of a string, in small letters. -/
def stringMarks : List String := ["", "b", "r", "u", "br", "rb"]

/-- The letters that may stand before the quote of a template. -/
def templateMarks : List String := ["f", "fr", "rf", "t", "tr", "rt"]

/-! ### Symbols -/

/-- The symbols, longer ones before their beginnings. -/
def symbols : List String :=
  ["**=", "//=", ">>=", "<<=", "...", "**", "//", ">>", "<<", "<=", ">=", "==", "!=", "->", "+=",
   "-=", "*=", "/=", "%=", "&=", "|=", "^=", "@=", ":=", "<>", "(", ")", "[", "]", "\x7b", "\x7d",
   ",", ":", ";", ".", "=", "+", "-", "*", "/", "%", "&", "|", "^", "~", "<", ">", "@"]

/-- The rest of the text after `start`, if it starts so. -/
def after? : List Char → List Char → Option (List Char)
  | [], cs => some cs
  | a :: start, c :: cs => if a = c then after? start cs else none
  | _ :: _, [] => none

/-- The longest symbol at the start of the text. -/
def takeSymbol (cs : List Char) : Option (String × List Char) :=
  symbols.findSome? fun s => (after? s.toList cs).map fun rest => (s, rest)

/-! ### Lines -/

/-- What a lexeme stands in, the innermost first. -/
inductive Frame
  /-- A bracket and the one that closes it. -/
  | bracket (close : String)
  /-- The text of a template. -/
  | template (quote : Quote)
  /-- A field of the template below it. -/
  | field
  /-- The format specification of the field below it. -/
  | spec (quote : Quote)
deriving DecidableEq, Repr

/-- The next step of reading a line: some lexemes, or its end. -/
inductive Step
  | more (lexemes : List Lexeme) (stack : List Frame) (rest : List Char)
  | stop (tail : RawTail) (rest : List Char)

/-- The template that the innermost field belongs to. -/
def fieldQuote : List Frame → Option Quote
  | [] => none
  | .template q :: _ => some q
  | .spec q :: _ => some q
  | _ :: rest => fieldQuote rest

/-- A symbol changes what the lexemes after it stand in. A closing bracket must close the innermost
open one. In a field, but in no bracket inside it, a colon starts a format specification. A semicolon
stands in nothing. -/
def enter (symbol : String) (stack : List Frame) : Option (List Frame) :=
  if symbol = "(" then some (.bracket ")" :: stack)
  else if symbol = "[" then some (.bracket "]" :: stack)
  else if symbol = "\x7b" then some (.bracket "\x7d" :: stack)
  else if symbol = ")" || symbol = "]" || symbol = "\x7d" then
    match stack with
    | .bracket close :: outer => if close = symbol then some outer else none
    | .field :: outer => if symbol = "\x7d" then some outer else none
    | _ => none
  else if symbol = ":" then
    match stack with
    | .field :: _ => (fieldQuote stack).map fun q => .spec q :: stack
    | _ => some stack
  else if symbol = ";" then if stack.isEmpty then some stack else none
  else some stack

/-- The symbol at the start of the text. In a field an exclamation mark stands before a conversion,
and a colon is a symbol of its own whatever follows it. -/
def takeSymbolIn (stack : List Frame) (cs : List Char) : Option (String × List Char) :=
  match stack, cs with
  | .field :: _, ':' :: rest => some (":", rest)
  | .field :: _, '!' :: rest => if rest.head? = some '=' then takeSymbol cs else some ("!", rest)
  | _, _ => takeSymbol cs

/-- May the character be part of a word? Which words are identifiers is decided later. -/
def isWordPart (c : Char) : Bool := c.isAlphanum || c = '_' || 128 ≤ c.toNat

/-- A word, or a string whose quote follows the word directly. -/
def wordStep (stack : List Frame) (gap cs : List Char) : Option Step :=
  let word := cs.takeWhile isWordPart
  let rest := cs.dropWhile isWordPart
  let mark := String.ofList (word.map Char.toLower)
  let raw := word.any fun c => c = 'r' || c = 'R'
  match takeQuote raw rest with
  | some (q, inside) =>
    if stringMarks.contains mark then do
      let (body, rest) ← takeString q inside
      return .more [⟨.string, String.ofList (word ++ q.text ++ body), gap⟩] stack rest
    else if templateMarks.contains mark then
      some (.more [⟨.templateStart, String.ofList (word ++ q.text), gap⟩]
        (.template q :: stack) inside)
    else plain word rest
  | none => plain word rest
where
  plain (word rest : List Char) : Option Step :=
    if Text.isIdentifierList word then
      some (.more [⟨.word, String.ofList word, gap⟩] stack rest)
    else none

/-- One lexeme of an expression or a statement, after the blanks before it. -/
def lexemeStep (stack : List Frame) (gap cs : List Char) : Option Step :=
  match cs with
  | [] => none
  | c :: rest =>
    let numeric := c.isDigit || (c = '.' && (rest.head?.map Char.isDigit).getD false)
    if numeric then do
      let (text, rest) ← takeNumber cs
      return .more [⟨.number, String.ofList text, gap⟩] stack rest
    else if c.isAlpha || c = '_' || c = '\'' || c = '"' || 128 ≤ c.toNat then
      wordStep stack gap cs
    else do
      let (symbol, rest) ← takeSymbolIn stack cs
      let stack ← enter symbol stack
      return .more [⟨.symbol, symbol, gap⟩] stack rest

/-- Reads the blanks and the lexeme after them, or the end of the line. -/
def plainStep (stack : List Frame) (cs : List Char) : Option Step := do
  let (gap, rest) ← takeGap (!stack.isEmpty) false cs
  if stack.isEmpty then
    let (comment, after) := takeComment rest
    match after with
    | [] => return .stop ⟨gap, comment, none⟩ []
    | _ =>
      match takeLineEnd after with
      | some (lineEnd, after) => return .stop ⟨gap, comment, some lineEnd⟩ after
      | none => lexemeStep stack gap rest
  else lexemeStep stack gap rest

/-- Reads the text of a template up to its next field or its end. -/
def templateStep (q : Quote) (spec : Bool) (stack : List Frame) (cs : List Char) : Option Step := do
  let (text, rest) ← takeTemplateText q spec false cs
  let before : List Lexeme :=
    if text.isEmpty then [] else [⟨.templateText, String.ofList text, []⟩]
  match rest with
  | '{' :: rest =>
    return .more (before ++ [⟨.symbol, "\x7b", []⟩]) (.field :: stack) rest
  | '}' :: rest =>
    match stack with
    | .spec _ :: .field :: outer => return .more (before ++ [⟨.symbol, "\x7d", []⟩]) outer rest
    | _ => none
  | _ =>
    match q.close? rest, stack with
    | some rest, .template _ :: outer =>
      return .more (before ++ [⟨.templateEnd, String.ofList q.text, []⟩]) outer rest
    | _, _ => none

/-- The next step, by what the lexemes stand in. -/
def step (stack : List Frame) (cs : List Char) : Option Step :=
  match stack with
  | .template q :: _ => templateStep q false stack cs
  | .spec q :: _ => templateStep q true stack cs
  | _ => plainStep stack cs

/-- The lexemes of a logical line, its end, and the text after it. -/
def readLine : Nat → List Frame → List Char → Option (List Lexeme × RawTail × List Char)
  | 0, _, _ => none
  | fuel + 1, stack, cs => do
    match ← step stack cs with
    | .stop tail rest => return ([], tail, rest)
    | .more lexemes stack rest =>
      let (others, tail, rest) ← readLine fuel stack rest
      return (lexemes ++ others, tail, rest)

/-- The blank line at the start of the text. At the very end of the text there is none, but a last
line may lack its line end. -/
def takeBlank (cs : List Char) : Option (Option (RawBlank × List Char)) := do
  let (gap, rest) ← takeGap false false cs
  let (comment, after) := takeComment rest
  match takeLineEnd after with
  | some (lineEnd, after) => return some (⟨gap ++ comment, some lineEnd⟩, after)
  | none =>
    if after.isEmpty && !cs.isEmpty then return some (⟨gap ++ comment, none⟩, []) else return none

/-- The blank lines at the start of the text. -/
def takeBlanks : Nat → List Char → Option (List RawBlank × List Char)
  | 0, cs => some ([], cs)
  | fuel + 1, cs => do
    match ← takeBlank cs with
    | none => return ([], cs)
    | some (blank, rest) =>
      let (blanks, rest) ← takeBlanks fuel rest
      return (blank :: blanks, rest)

/-- The logical lines of the text, and the blank lines after the last of them. -/
def readLines : Nat → List Char → Option (List RawLine × List RawBlank)
  | 0, _ => none
  | fuel + 1, cs => do
    let (blanks, cs) ← takeBlanks cs.length cs
    if cs.isEmpty then return ([], blanks)
    let (indent, _) ← takeGap false false cs
    let (lexemes, tail, rest) ← readLine (cs.length + 1) [] cs
    let (lines, last) ← readLines fuel rest
    let lexemes := match lexemes with
      | first :: others => { first with gap := [] } :: others
      | [] => []
    return (⟨blanks, if indent.contains '\\' then none else some indent, lexemes, tail⟩ :: lines,
      last)

end Lexeme

end LocaleRegistrar.Python
