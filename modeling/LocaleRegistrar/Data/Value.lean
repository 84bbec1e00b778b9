import LocaleRegistrar.Data.Binary64
import LocaleRegistrar.Files.Path
import LocaleRegistrar.Text.Quoted

/-!
Values of settings before they have been checked, and how a message shows them. Settings are not
given as bytes, their integers have no more digits than a message can show (4300), and their paths
hold no null character.
-/

namespace LocaleRegistrar.Data

structure Date where
  year : Nat
  month : Nat
  day : Nat
deriving DecidableEq, Repr

structure Time where
  hour : Nat
  minute : Nat
  second : Nat
  microsecond : Nat
deriving DecidableEq, Repr

inductive Value
  | null
  | boolean (b : Bool)
  | integer (n : Int)
  | decimal (d : Decimal)
  | string (s : String)
  | path (p : Files.Path)
  | date (d : Date)
  | time (t : Time)
  /-- A date with a time and perhaps with the minutes that the clock is ahead. -/
  | dateTime (d : Date) (t : Time) (ahead : Option Int)
  | list (values : List Value)
  | table (fields : List (String × Value))

instance : Inhabited Value := ⟨.null⟩

abbrev Table := List (String × Value)

namespace Time

/-- The parts of a time, without seconds and microseconds if those are zero. -/
def parts (t : Time) : List Nat :=
  if t.microsecond ≠ 0 then [t.hour, t.minute, t.second, t.microsecond]
  else if t.second ≠ 0 then [t.hour, t.minute, t.second]
  else [t.hour, t.minute]

end Time

namespace Value

/-- The text of the minutes that a clock is ahead. -/
def zoneText (ahead : Int) : String :=
  if ahead = 0 then "datetime.timezone.utc"
  else
    let seconds := toString ((ahead * 60) % 86400)
    let length := if ahead < 0 then "days=-1, seconds=" ++ seconds else "seconds=" ++ seconds
    "datetime.timezone(datetime.timedelta(" ++ length ++ "))"

def commaSeparated (texts : List String) : String := ", ".intercalate texts

def dateParts (d : Date) : List Nat := [d.year, d.month, d.day]

mutual

/-- How a message shows a value. -/
def text : Value → String
  | null => "None"
  | boolean b => if b then "True" else "False"
  | integer n => toString n
  | decimal d => d.text
  | string s => Text.quoted s
  | path p => "PosixPath(" ++ Text.quoted p.text ++ ")"
  | date d => "datetime.date(" ++ commaSeparated ((dateParts d).map toString) ++ ")"
  | time t => "datetime.time(" ++ commaSeparated (t.parts.map toString) ++ ")"
  | dateTime d t ahead =>
    let parts := (dateParts d ++ t.parts).map toString
    let zone := match ahead with
      | some ahead => ["tzinfo=" ++ zoneText ahead]
      | none => []
    "datetime.datetime(" ++ commaSeparated (parts ++ zone) ++ ")"
  | list values => "[" ++ commaSeparated (texts values) ++ "]"
  | table fields => "\x7b" ++ commaSeparated (fieldTexts fields) ++ "\x7d"

def texts : List Value → List String
  | [] => []
  | v :: rest => v.text :: texts rest

def fieldTexts : List (String × Value) → List String
  | [] => []
  | (key, v) :: rest => (Text.quoted key ++ ": " ++ v.text) :: fieldTexts rest

end

/-- What a message calls the type of a value. -/
def typeName : Value → String
  | null => "NoneType"
  | boolean _ => "bool"
  | integer _ => "int"
  | decimal _ => "float"
  | string _ => "str"
  | path _ => "PosixPath"
  | date _ => "date"
  | time _ => "time"
  | dateTime .. => "datetime"
  | list _ => "list"
  | table _ => "dict"

end Value

end LocaleRegistrar.Data
