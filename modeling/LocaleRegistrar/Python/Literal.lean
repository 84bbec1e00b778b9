import LocaleRegistrar.Python.Lexeme

/-!
Literals: numbers with their signs, strings, the named constants, and tuples, lists, sets and
dictionaries of literals. A text is one if it is the only logical line of a module and has a value.
The value itself is not built; what matters of it is whether it may be a key, and for a number
whether it may be the real part of a complex one.

Every character name in a string is taken to be known. How deep an interpreter can nest is modelled
by its limit for open brackets alone.
-/

namespace LocaleRegistrar.Python.Literal

/-! ### Numbers and strings -/

/-- The value of a digit of a number, in any base. -/
def digitValue (c : Char) : Nat :=
  if c.isDigit then c.toNat - '0'.toNat else c.toLower.toNat - 'a'.toNat + 10

def valueIn (base : Nat) (digits : List Char) : Nat :=
  (digits.filter (· ≠ '_')).foldl (fun n c => base * n + digitValue c) 0

/-- The value of a whole number. -/
def wholeValue (cs : List Char) : Nat :=
  match cs with
  | '0' :: mark :: digits =>
    match mark.toLower with
    | 'x' => valueIn 16 digits
    | 'o' => valueIn 8 digits
    | 'b' => valueIn 2 digits
    | _ => valueIn 10 cs
  | _ => valueIn 10 cs

/-- Whole numbers from here on are no floating-point numbers. -/
def floatLimit : Nat := ((1 <<< 54) - 1) <<< 970

/-- More decimal digits than these are not read. -/
def digitLimit : Nat := 4300

/-- Does the text start with this many hexadecimal digits? -/
def startsHex (count : Nat) (cs : List Char) : Bool :=
  (cs.take count).length = count && (cs.take count).all Lexeme.isHexDigit

/-- Does the text start with the name of a character in braces? -/
def startsName (cs : List Char) : Bool :=
  match cs with
  | '\x7b' :: rest =>
    let name := rest.takeWhile (· ≠ '\x7d')
    !name.isEmpty && name.length < rest.length &&
      name.all fun c => c.isAlphanum || c = ' ' || c = '-'
  | _ => false

/-- Can the escapes of a string be read? One of bytes knows only those of two digits. -/
def escapesHold (bytes : Bool) : List Char → Bool
  | '\\' :: c :: rest =>
    let holds :=
      match c with
      | 'x' => startsHex 2 rest
      | 'u' => bytes || startsHex 4 rest
      | 'U' => bytes || (startsHex 8 rest && valueIn 16 (rest.take 8) ≤ 0x10FFFF)
      | 'N' => bytes || startsName rest
      | _ => true
    holds && escapesHold bytes rest
  | _ :: rest => escapesHold bytes rest
  | [] => true

/-! ### Pieces -/

/-- What a part of a literal amounts to, as far as what stands around it matters. -/
inductive Piece
  /-- A number. A large one is whole and no floating-point number. -/
  | number (imaginary large : Bool)
  /-- A number with a sign. -/
  | signed (imaginary large : Bool)
  | string (bytes : Bool)
  /-- Any other value. A key of a dictionary or an element of a set must be hashable. -/
  | value (hashable : Bool)
  /-- Parentheses with nothing in them. -/
  | unit
  /-- The name `set`, which only a call without arguments may hold. -/
  | setName
  | sign
  | comma
  | colon
deriving DecidableEq, Repr

namespace Piece

def ofNumber (text : String) : Option Piece :=
  let cs := text.toList
  if Lexeme.isWholeNumber text then
    if cs.head? ≠ some '0' && digitLimit < (cs.filter Char.isDigit).length then none
    else some (.number false (floatLimit ≤ wholeValue cs))
  else some (.number (cs.getLast? = some 'j' || cs.getLast? = some 'J') false)

def ofString (text : String) : Option Piece :=
  let isQuote (c : Char) : Bool := c = '\'' || c = '"'
  let marks := (text.toList.takeWhile (!isQuote ·)).map Char.toLower
  let body := text.toList.dropWhile (!isQuote ·)
  let bytes := marks.contains 'b'
  if (marks.contains 'r' || escapesHold bytes body) && (!bytes || body.all (·.toNat < 128)) then
    some (.string bytes)
  else none

/-- Is `c` the small letter, or one that a name may have in its place? Those are the wide letters,
the letters of the thirteen mathematical alphabets, and some others. -/
def isLetter (letter : Char) (others : List Nat) (c : Char) : Bool :=
  let n := c.toNat
  let k := letter.toNat - 'a'.toNat
  c = letter || n = 0xFF41 + k || (0x1D41A ≤ n && n < 0x1D6A4 && (n - 0x1D41A) % 52 = k) ||
    others.contains n

def isSetName (word : String) : Bool :=
  match word.toList with
  | [s, e, t] =>
    isLetter 's' [0x17F, 0x2E2, 0x209B] s && isLetter 'e' [0x1D49, 0x2091, 0x212F, 0x2147] e &&
      isLetter 't' [0x1D57, 0x209C] t
  | _ => false

def ofWord (word : String) : Option Piece :=
  if ["None", "True", "False"].contains word then some (.value true)
  else if isSetName word then some .setName
  else none

/-- Is it a value, and if so, is it hashable? -/
def hashable? : Piece → Option Bool
  | number _ _ | signed _ _ | string _ | unit => some true
  | value hashable => some hashable
  | setName | sign | comma | colon => none

/-- What pieces without commas and colons amount to. A complex number is a real one and an imaginary
one that has no sign of its own. -/
def join : List Piece → Option Piece
  | [.setName, .unit] => some (.value false)
  | [.unit] => some (.value true)
  | [.sign, .number imaginary large] => some (.signed imaginary large)
  | [.number false false, .sign, .number true _] => some (.value true)
  | [.signed false false, .sign, .number true _] => some (.value true)
  | [.sign, .number false false, .sign, .number true _] => some (.value true)
  | .string bytes :: rest => if rest.all (· = .string bytes) then some (.value true) else none
  | [piece] => if piece = .setName || piece.hashable?.isSome then some piece else none
  | _ => none

/-- The pieces between the marks. -/
def cut (mark : Piece) (pieces : List Piece) : List (List Piece) :=
  pieces.foldr (fun piece parts =>
    if piece = mark then [] :: parts
    else
      match parts with
      | [] => [[piece]]
      | part :: parts => (piece :: part) :: parts) [[]]

/-- The parts between the commas. A comma may follow the last of them. -/
def items (pieces : List Piece) : List (List Piece) :=
  let parts := cut .comma pieces
  if parts.getLast? = some [] then parts.dropLast else parts

def itemHashable? (item : List Piece) : Option Bool :=
  (join item).bind hashable?

/-- What parentheses around the pieces amount to. -/
def closeRound (pieces : List Piece) : Option Piece :=
  if pieces.isEmpty then some .unit
  else if pieces.contains .comma then
    ((items pieces).mapM itemHashable?).map fun hashables => .value (hashables.all id)
  else join pieces

def closeSquare (pieces : List Piece) : Option Piece :=
  ((items pieces).mapM itemHashable?).map fun _ => .value false

/-- An entry of a dictionary: a key, which must be hashable, and a value. -/
def isEntry (item : List Piece) : Bool :=
  match cut .colon item with
  | [key, entry] => itemHashable? key = some true && (itemHashable? entry).isSome
  | _ => false

def closeBrace (pieces : List Piece) : Option Piece :=
  let parts := items pieces
  if parts.all isEntry || parts.all (itemHashable? · = some true) then some (.value false) else none

end Piece

/-! ### Literals -/

/-- A bracket that is open, with the pieces since, the last first. -/
structure OpenBracket where
  bracket : String
  pieces : List Piece

/-- More brackets than these are never open at once. -/
def bracketLimit : Nat := 200

/-- Puts a piece behind those of the innermost bracket. Under all brackets lies the line itself. -/
def push (piece : Piece) : List OpenBracket → List OpenBracket
  | [] => []
  | top :: below => { top with pieces := piece :: top.pieces } :: below

def close (top : OpenBracket) : Option Piece :=
  let pieces := top.pieces.reverse
  match top.bracket with
  | "(" => Piece.closeRound pieces
  | "[" => Piece.closeSquare pieces
  | _ => Piece.closeBrace pieces

def symbolStep (symbol : String) (stack : List OpenBracket) : Option (List OpenBracket) :=
  match symbol with
  | "(" | "[" | "\x7b" => if stack.length ≤ bracketLimit then some (⟨symbol, []⟩ :: stack) else none
  | ")" | "]" | "\x7d" =>
    match stack with
    | top :: below => (close top).map (push · below)
    | [] => none
  | "," => some (push .comma stack)
  | ":" => some (push .colon stack)
  | "+" | "-" => some (push .sign stack)
  | "..." => some (push (.value true) stack)
  | _ => none

def lexemeStep (stack : List OpenBracket) (lexeme : Lexeme) : Option (List OpenBracket) :=
  match lexeme.kind with
  | .number => (Piece.ofNumber lexeme.text).map (push · stack)
  | .string => (Piece.ofString lexeme.text).map (push · stack)
  | .word => (Piece.ofWord lexeme.text).map (push · stack)
  | .symbol => symbolStep lexeme.text stack
  | .templateStart | .templateText | .templateEnd => none

/-- Do the lexemes of a line make a literal? The parentheses of a tuple may be missing there. -/
def isLiteralLine (lexemes : List Lexeme) : Bool :=
  match lexemes.foldlM lexemeStep [⟨"", []⟩] with
  | some [line] =>
    match Piece.closeRound line.pieces.reverse with
    | some piece => piece.hashable?.isSome
    | none => false
  | _ => false

/-- The column that blanks lead to. A form feed leads back to the first one, and a backslash keeps
the column that it stands in. -/
def column : Nat → List Char → Nat
  | col, [] => col
  | col, ' ' :: rest => column (col + 1) rest
  | col, '\t' :: rest => column (col + 8) rest
  | _, '\x0c' :: rest => column 0 rest
  | 0, '\\' :: rest => column 0 rest
  | col + 1, '\\' :: _ => col + 1
  | col, _ :: rest => column col rest

/-- Is the text a literal? It starts in the first column. -/
def isLiteral (cs : List Char) : Bool :=
  let first := do
    let (_, cs) ← Lexeme.takeBlanks cs.length cs
    let (gap, _) ← Lexeme.takeGap false false cs
    return column 0 gap
  match first, Lexeme.readLines (cs.length + 1) cs with
  | some 0, some ([line], _) => isLiteralLine line.lexemes
  | _, _ => false

end LocaleRegistrar.Python.Literal
