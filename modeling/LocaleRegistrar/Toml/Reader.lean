import LocaleRegistrar.Data.Value

/-!
Reading the values of a TOML document: strings, numbers, dates, arrays and inline tables, and the
dotted keys before them. A reader takes characters from the front of the text, or fails. An integer
is read however long it is, also where it has more digits (4300) than can be read elsewhere.
-/

namespace LocaleRegistrar.Toml

open LocaleRegistrar.Data

abbrev Reader := StateT (List Char) Option

abbrev Key := List String

def isSpace (c : Char) : Bool := c = ' ' || c = '\t'

def isSpaceOrLine (c : Char) : Bool := isSpace c || c = '\n'

/-- May a character not stand in a string or a comment of one line? -/
def isControl (c : Char) : Bool := (c.toNat < 32 && c ≠ '\t') || c.toNat = 127

def isDigit (c : Char) : Bool := '0' ≤ c && c ≤ '9'

def isBareKeyChar (c : Char) : Bool := c.isAlphanum || c = '-' || c = '_'

/-- Drops characters as long as they are of a kind. -/
def skip (p : Char → Bool) : Reader Unit := modify (·.dropWhile p)

/-- Takes characters as long as they are of a kind. -/
def takeWhile (p : Char → Bool) : Reader (List Char) := do
  let cs ← get
  set (cs.dropWhile p)
  return cs.takeWhile p

def peek : Reader (Option Char) := do return (← get).head?

/-- Takes exactly these characters. -/
def expect (text : String) : Reader Unit := do
  let cs ← get
  if text.toList.isPrefixOf cs then set (cs.drop text.length) else failure

/-- Are these the next characters? -/
def startsWith (text : String) : Reader Bool := do
  return text.toList.isPrefixOf (← get)

/-- Reads something if it is there. -/
def optional {α : Type} (r : Reader α) : Reader (Option α) :=
  (some <$> r) <|> pure none

/-! ### Comments -/

/-- Drops a comment, up to the end of its line. -/
def skipComment : Reader Unit := do
  if (← peek) = some '#' then
    let comment ← takeWhile (· ≠ '\n')
    if comment.any isControl then failure

/-- Drops blanks, line ends and comments. `n` bounds the number of comments. -/
def skipLines : Nat → Reader Unit
  | 0 => pure ()
  | n + 1 => do
    skip isSpaceOrLine
    if (← peek) = some '#' then
      skipComment
      skipLines n

def skipAllLines : Reader Unit := do skipLines ((← get).length + 1)

/-! ### Strings -/

def hexValue (c : Char) : Option Nat :=
  if isDigit c then some (c.toNat - '0'.toNat)
  else if 'a' ≤ c && c ≤ 'f' then some (c.toNat - 'a'.toNat + 10)
  else if 'A' ≤ c && c ≤ 'F' then some (c.toNat - 'A'.toNat + 10)
  else none

/-- The number that digits of a base are. -/
def numeral (base : Nat) (digits : List Char) : Nat :=
  digits.foldl (fun n c => n * base + (hexValue c).getD 0) 0

/-- The character whose code point is written with `width` hexadecimal digits. -/
def codePoint (width : Nat) (cs : List Char) : Option (Char × List Char) :=
  let digits := cs.take width
  let n := numeral 16 digits
  if digits.length = width ∧ digits.all (fun c => (hexValue c).isSome) ∧ n.isValidChar then
    some (Char.ofNat n, cs.drop width)
  else none

/-- The character that a backslash and `c` stand for. -/
def escaped (c : Char) : Option Char :=
  match c with
  | 'b' => some '\x08'
  | 't' => some '\t'
  | 'n' => some '\n'
  | 'f' => some '\x0c'
  | 'r' => some '\r'
  | '"' => some '"'
  | '\\' => some '\\'
  | _ => none

/-- What follows the backslash at the end of a line: blanks, the line end, and then all blanks and
line ends. -/
def lineContinuation (cs : List Char) : Option (List Char) :=
  match cs.dropWhile isSpace with
  | [] => some []
  | '\n' :: rest => some (rest.dropWhile isSpaceOrLine)
  | _ => none

/-- What an escape stands for, and what follows it. -/
def escape (lines : Bool) : List Char → Option (List Char × List Char)
  | 'u' :: rest => (codePoint 4 rest).map fun (c, rest) => ([c], rest)
  | 'U' :: rest => (codePoint 8 rest).map fun (c, rest) => ([c], rest)
  | c :: rest =>
    if lines && isSpaceOrLine c then (lineContinuation (c :: rest)).map (([], ·))
    else (escaped c).map fun e => ([e], rest)
  | [] => none

/-- The rest of a string between double quotes, on one line or between three quotes on several.
`n` bounds its length. -/
def basicText (lines : Bool) : Nat → List Char → Option (List Char × List Char)
  | 0, _ => none
  | _ + 1, [] => none
  | n + 1, c :: rest =>
    if c = '"' then
      if !lines then some ([], rest)
      else if ['"', '"'].isPrefixOf rest then some ([], rest.drop 2)
      else (basicText lines n rest).map fun (text, rest) => (c :: text, rest)
    else if c = '\\' then do
      let (meant, rest) ← escape lines rest
      let (text, rest) ← basicText lines n rest
      return (meant ++ text, rest)
    else if isControl c && !(lines && c = '\n') then none
    else (basicText lines n rest).map fun (text, rest) => (c :: text, rest)

/-- The rest of a string between three single quotes. -/
def literalLines : List Char → Option (List Char × List Char)
  | '\'' :: '\'' :: '\'' :: rest => some ([], rest)
  | c :: rest =>
    if isControl c && c ≠ '\n' then none
    else (literalLines rest).map fun (text, rest) => (c :: text, rest)
  | [] => none

def basicString : Reader String := do
  expect "\""
  let (text, rest) ← basicText false ((← get).length + 1) (← get)
  set rest
  return String.ofList text

def literalString : Reader String := do
  expect "'"
  let text ← takeWhile (· ≠ '\'')
  expect "'"
  if text.any isControl then failure
  return String.ofList text

/-- A string between three quotes. A line end right after the first ones is dropped, and up to two
more quotes may stand before the last ones. -/
def multilineString (quote : Char) : Reader String := do
  modify (·.drop 3)
  if (← peek) = some '\n' then modify (·.drop 1)
  let cs ← get
  let (text, rest) ← if quote = '"' then basicText true (cs.length + 1) cs else literalLines cs
  let extra := (rest.take 2).takeWhile (· = quote)
  set (rest.drop extra.length)
  return String.ofList (text ++ extra)

/-- Any string. -/
def string (quote : Char) : Reader String := do
  if ← startsWith (String.ofList [quote, quote, quote]) then multilineString quote
  else if quote = '"' then basicString else literalString

/-! ### Keys -/

def keyPart : Reader String := do
  match ← peek with
  | some '\'' => literalString
  | some '"' => basicString
  | _ =>
    let text ← takeWhile isBareKeyChar
    if text.isEmpty then failure else return String.ofList text

/-- The parts of a key after the first one. `n` bounds their number. -/
def moreKeyParts : Nat → Reader Key
  | 0 => pure []
  | n + 1 => do
    skip isSpace
    if (← peek) = some '.' then
      expect "."
      skip isSpace
      let part ← keyPart
      return part :: (← moreKeyParts n)
    else return []

def key : Reader Key := do
  let part ← keyPart
  return part :: (← moreKeyParts ((← get).length + 1))

/-! ### Numbers -/

/-- The digits after the first one, which underscores may set apart. -/
def moreDigits (p : Char → Bool) : List Char → List Char × List Char
  | '_' :: c :: rest =>
    if p c then
      let (digits, rest) := moreDigits p rest
      (c :: digits, rest)
    else ([], '_' :: c :: rest)
  | c :: rest =>
    if p c then
      let (digits, rest) := moreDigits p rest
      (c :: digits, rest)
    else ([], c :: rest)
  | [] => ([], [])

/-- One digit or more. -/
def digits (p : Char → Bool) : Reader (List Char) := do
  match ← get with
  | c :: rest =>
    if p c then
      let (more, rest) := moreDigits p rest
      set rest
      return c :: more
    else failure
  | [] => failure

/-- A sign, if there is one: is it negative? -/
def sign : Reader Bool := do
  match ← peek with
  | some '-' => expect "-"; return true
  | some '+' => expect "+"; return false
  | _ => return false

/-- A natural number in another base, after its mark. -/
def basedNumber (mark : String) (base : Nat) (p : Char → Bool) : Reader Value := do
  expect mark
  return .integer (numeral base (← digits p))

/-- The digits before the point: a zero, or digits that do not start with one. -/
def wholeDigits : Reader (List Char) := do
  if (← peek) = some '0' then
    expect "0"
    return ['0']
  else digits isDigit

/-- A number with a sign, a fraction and an exponent, as far as it has them. -/
def plainNumber : Reader Value := do
  let negative ← sign
  let whole ← wholeDigits
  let fraction ← optional (do expect "."; digits isDigit)
  let exponent ← optional (do
    if (← peek) = some 'e' then expect "e" else expect "E"
    let negative ← sign
    let n := numeral 10 (← digits isDigit)
    return if negative then -(n : Int) else n)
  match fraction, exponent with
  | none, none =>
    let n := numeral 10 whole
    return .integer (if negative then -(n : Int) else n)
  | _, _ =>
    let after := fraction.getD []
    return .decimal (.finite negative (numeral 10 (whole ++ after))
      (exponent.getD 0 - after.length))

def number : Reader Value :=
  basedNumber "0x" 16 (fun c => (hexValue c).isSome)
    <|> basedNumber "0b" 2 (fun c => c = '0' || c = '1')
    <|> basedNumber "0o" 8 (fun c => '0' ≤ c && c ≤ '7')
    <|> plainNumber

def specialNumber : Reader Value := do
  let negative ← sign
  if ← startsWith "inf" then
    expect "inf"
    return .decimal (.infinite negative)
  else
    expect "nan"
    return .decimal .undefined

/-! ### Dates and times -/

/-- A number of exactly `width` digits between two bounds. -/
def fixedNumber (width low high : Nat) : Reader Nat := do
  let cs ← get
  let digits := cs.take width
  let n := numeral 10 digits
  if digits.length = width ∧ digits.all isDigit ∧ low ≤ n ∧ n ≤ high then
    set (cs.drop width)
    return n
  else failure

/-- The microseconds of a fraction of a second. Further digits are dropped. -/
def microseconds : Reader Nat := do
  expect "."
  let digits ← takeWhile isDigit
  if digits.isEmpty then failure
  let kept := digits.take 6
  return numeral 10 (kept ++ List.replicate (6 - kept.length) '0')

def time : Reader Time := do
  let hour ← fixedNumber 2 0 23
  expect ":"
  let minute ← fixedNumber 2 0 59
  expect ":"
  let second ← fixedNumber 2 0 59
  return ⟨hour, minute, second, (← optional microseconds).getD 0⟩

/-- The minutes that a clock is ahead. -/
def zone : Reader Int := do
  match ← peek with
  | some 'Z' => expect "Z"; return 0
  | some 'z' => expect "z"; return 0
  | some '-' | some '+' =>
    let negative ← sign
    let hour ← fixedNumber 2 0 23
    expect ":"
    let minute ← fixedNumber 2 0 59
    let ahead : Int := hour * 60 + minute
    return if negative then -ahead else ahead
  | _ => failure

def isLeapYear (year : Nat) : Bool :=
  year % 4 = 0 && (year % 100 ≠ 0 || year % 400 = 0)

def daysOfMonth (year month : Nat) : Nat :=
  if month = 2 then if isLeapYear year then 29 else 28
  else if month = 4 ∨ month = 6 ∨ month = 9 ∨ month = 11 then 30
  else 31

/-- The form of a date. Whether there is such a day is not checked. -/
def dateForm : Reader Date := do
  let year ← fixedNumber 4 0 9999
  expect "-"
  let month ← fixedNumber 2 1 12
  expect "-"
  let day ← fixedNumber 2 1 31
  return ⟨year, month, day⟩

def isDay (d : Date) : Bool :=
  1 ≤ d.year && d.day ≤ daysOfMonth d.year d.month

/-- A time after a date, with the mark that divides them. -/
def timeAfterDate : Reader Time := do
  match ← get with
  | c :: rest =>
    if c = 'T' || c = 't' || c = ' ' then
      set rest
      time
    else failure
  | [] => failure

/-- The value of a date that was read, perhaps with a time after it. -/
def dateValue (d : Date) : Reader Value := do
  match ← optional timeAfterDate with
  | none => if isDay d then return .date d else failure
  | some t =>
    let ahead ← optional zone
    if isDay d then return .dateTime d t ahead else failure

/-! ### Tables -/

/-- The table with another value at a key. -/
def replaceField (k : String) (v : Value) (t : Table) : Table :=
  t.map fun field => if field.1 = k then (k, v) else field

/-- Changes the table that a key leads to. Tables on the way that are missing are made. Where a list
stands on the way, its last table is meant if `lists`. -/
def changeAt (lists : Bool) (change : Table → Option Table) : Key → Table → Option Table
  | [], t => change t
  | k :: rest, t =>
    match t.lookup k with
    | none => do return t ++ [(k, .table (← changeAt lists change rest []))]
    | some (.table inner) => do
      return replaceField k (.table (← changeAt lists change rest inner)) t
    | some (.list values) =>
      match lists, values.getLast? with
      | true, some (.table inner) => do
        let last := Value.table (← changeAt lists change rest inner)
        return replaceField k (.list (values.dropLast ++ [last])) t
      | _, _ => none
    | some _ => none

/-- Adds a field to a table that does not have it. -/
def addField (k : String) (v : Value) (t : Table) : Option Table :=
  if (t.lookup k).isSome then none else some (t ++ [(k, v)])

/-- Puts a value at a key that has none. -/
def assign (lists : Bool) (k : Key) (v : Value) (t : Table) : Option Table :=
  match k.getLast? with
  | some last => changeAt lists (addField last v) k.dropLast t
  | none => none

def isContainer : Value → Bool
  | .list _ | .table _ => true
  | _ => false

/-! ### Values -/

mutual

/-- A value. `n` bounds how deep it is nested and how long its lists are. -/
def value : Nat → Reader Value
  | 0 => failure
  | n + 1 => do
    match ← peek with
    | some '"' => return .string (← string '"')
    | some '\'' => return .string (← string '\'')
    | some '[' => do
      expect "["
      skipAllLines
      return .list (← listValues n)
    | some '\x7b' => do
      expect "\x7b"
      skip isSpace
      if (← peek) = some '\x7d' then
        expect "\x7d"
        return .table []
      else return .table (← tableFields n [] [])
    | _ =>
      if ← startsWith "true" then
        expect "true"
        return .boolean true
      else if ← startsWith "false" then
        expect "false"
        return .boolean false
      else
        match ← optional dateForm with
        | some d => dateValue d
        | none => (Value.time <$> time) <|> number <|> specialNumber

/-- The values of a list up to its end. -/
def listValues : Nat → Reader (List Value)
  | 0 => failure
  | n + 1 => do
    if (← peek) = some ']' then
      expect "]"
      return []
    else
      let v ← value n
      skipAllLines
      if (← peek) = some ',' then
        expect ","
        skipAllLines
        return v :: (← listValues n)
      else
        expect "]"
        return [v]

/-- The fields of an inline table up to its end, added to those before. A field whose value is a list
or a table cannot be added to. -/
def tableFields : Nat → List Key → Table → Reader Table
  | 0, _, _ => failure
  | n + 1, closed, fields => do
    let k ← key
    expect "="
    skip isSpace
    let v ← value n
    if closed.any (·.isPrefixOf k) then failure
    let fields ← assign false k v fields
    skip isSpace
    if (← peek) = some ',' then
      expect ","
      skip isSpace
      tableFields n (if isContainer v then k :: closed else closed) fields
    else
      expect "\x7d"
      return fields

end

/-- A value, whatever its depth. -/
def anyValue : Reader Value := do value (2 * (← get).length + 4)

end LocaleRegistrar.Toml
