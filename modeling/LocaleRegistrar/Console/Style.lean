import LocaleRegistrar.Text.Blank
import LocaleRegistrar.Text.Digit
import LocaleRegistrar.Text.Fields
import LocaleRegistrar.Text.LowerCase

/-!
Styles of text. A style is given by words: attributes, which `not` switches off, a colour, the colour
of the background after `on`, and a target after `link`. Its usual form lists the attributes in a
fixed order, then the colours and the target.
-/

namespace LocaleRegistrar.Console

/-- Why words are no style. -/
inductive StyleFault
  /-- A word means nothing where it stands. -/
  | words
  /-- A component of a colour cannot be read as a number. -/
  | component
deriving DecidableEq, Repr

/-! ### Colours -/

/-- The colours that have a bright form too. -/
def basicColours : List String :=
  ["black", "red", "green", "yellow", "blue", "magenta", "cyan", "white"]

/-- How bright the named greys are. -/
def greys : List Nat :=
  [0, 3, 7, 11, 15, 19, 23, 27, 30, 35, 37, 39, 42, 46, 50, 53, 54, 58, 62, 63, 66, 69, 70, 74,
   78, 82, 84, 85, 89, 93, 100]

/-- The other colours that have a name. -/
def namedColours : List String :=
  ["aquamarine1", "aquamarine3", "blue1", "blue3", "blue_violet", "cadet_blue", "chartreuse1",
   "chartreuse2", "chartreuse3", "chartreuse4", "cornflower_blue", "cornsilk1", "cyan1", "cyan2",
   "cyan3", "dark_blue", "dark_cyan", "dark_goldenrod", "dark_green", "dark_khaki",
   "dark_magenta", "dark_olive_green1", "dark_olive_green2", "dark_olive_green3", "dark_orange",
   "dark_orange3", "dark_red", "dark_sea_green", "dark_sea_green1", "dark_sea_green2",
   "dark_sea_green3", "dark_sea_green4", "dark_slate_gray1", "dark_slate_gray2",
   "dark_slate_gray3", "dark_turquoise", "dark_violet", "deep_pink1", "deep_pink2", "deep_pink3",
   "deep_pink4", "deep_sky_blue1", "deep_sky_blue2", "deep_sky_blue3", "deep_sky_blue4",
   "dodger_blue1", "dodger_blue2", "dodger_blue3", "gold1", "gold3", "green1", "green3", "green4",
   "green_yellow", "honeydew2", "hot_pink", "hot_pink2", "hot_pink3", "indian_red", "indian_red1",
   "khaki1", "khaki3", "light_coral", "light_cyan1", "light_cyan3", "light_goldenrod1",
   "light_goldenrod2", "light_goldenrod3", "light_green", "light_pink1", "light_pink3",
   "light_pink4", "light_salmon1", "light_salmon3", "light_sea_green", "light_sky_blue1",
   "light_sky_blue3", "light_slate_blue", "light_slate_gray", "light_slate_grey",
   "light_steel_blue", "light_steel_blue1", "light_steel_blue3", "light_yellow3", "magenta1",
   "magenta2", "magenta3", "medium_orchid", "medium_orchid1", "medium_orchid3", "medium_purple",
   "medium_purple1", "medium_purple2", "medium_purple3", "medium_purple4", "medium_spring_green",
   "medium_turquoise", "medium_violet_red", "misty_rose1", "misty_rose3", "navajo_white1",
   "navajo_white3", "navy_blue", "orange1", "orange3", "orange4", "orange_red1", "orchid",
   "orchid1", "orchid2", "pale_green1", "pale_green3", "pale_turquoise1", "pale_turquoise4",
   "pale_violet_red1", "pink1", "pink3", "plum1", "plum2", "plum3", "plum4", "purple", "purple3",
   "purple4", "red1", "red3", "rosy_brown", "royal_blue1", "salmon1", "sandy_brown", "sea_green1",
   "sea_green2", "sea_green3", "sky_blue1", "sky_blue2", "sky_blue3", "slate_blue1",
   "slate_blue3", "spring_green1", "spring_green2", "spring_green3", "spring_green4",
   "steel_blue", "steel_blue1", "steel_blue3", "tan", "thistle1", "thistle3", "turquoise2",
   "turquoise4", "violet", "wheat1", "wheat4", "yellow1", "yellow2", "yellow3", "yellow4"]

def isNamedColour (name : String) : Bool :=
  name = "default" || basicColours.contains name ||
    basicColours.any (fun colour => "bright_" ++ colour = name) ||
    greys.any (fun n => "grey" ++ toString n = name || "gray" ++ toString n = name) ||
    namedColours.contains name

/-- What stands in the parentheses after `function`. -/
def argument? (function : String) (name : List Char) : Option (List Char) :=
  let start := function.toList ++ ['(']
  if start.isPrefixOf name && name.getLast? = some ')' then
    some (name.drop start.length).dropLast
  else none

/-- The components of a colour: three numbers with commas between them. A number that has no digits,
or more than can be read, is no number. -/
def readComponents (cs : List Char) : Except StyleFault Unit :=
  let components := Text.fieldsList ',' cs
  if cs.isEmpty || !cs.all (fun c => Text.isDigit c || c = ',') || components.length ≠ 3 then
    .error .words
  else if components.any fun digits => digits.isEmpty || 4300 < digits.length then
    .error .component
  else if components.any fun digits => 255 < Text.digitsValue digits then .error .words
  else .ok ()

/-- Reads a colour: its name, six hexadecimal digits, a number, or its components. Gives it in small
letters. -/
def readColour (word : String) : Except StyleFault String :=
  let name := Text.lowerCase word
  let known : Except StyleFault Unit :=
    if isNamedColour name then .ok ()
    else
      match argument? "color" name.toList, argument? "rgb" name.toList with
      | some digits, _ =>
        if !digits.isEmpty && digits.length ≤ 3 && digits.all Char.isDigit &&
          Text.digitsValue digits ≤ 255 then .ok () else .error .words
      | none, some components => readComponents components
      | none, none =>
        match name.toList with
        | '#' :: digits =>
          if digits.length = 6 && digits.all (fun c => c.isDigit || ('a' ≤ c && c ≤ 'f')) then
            .ok ()
          else .error .words
        | _ => .error .words
  known.map fun _ => name

/-! ### Attributes -/

/-- The attributes of styles in the order in which a style lists them, each with its short names. -/
def attributes : List (String × List String) :=
  [("bold", ["b"]), ("dim", ["d"]), ("italic", ["i"]), ("underline", ["u"]), ("blink", []),
   ("blink2", []), ("reverse", ["r"]), ("conceal", ["c"]), ("strike", ["s"]),
   ("underline2", ["uu"]), ("frame", []), ("encircle", []), ("overline", ["o"])]

/-- The attribute that a word names. -/
def attribute? (word : String) : Option String :=
  (attributes.find? fun (name, short) => name = word || short.contains word).map (·.1)

/-! ### Styles -/

/-- A style that is being read. -/
structure Style where
  /-- The attributes that are switched on or off, the latest first. -/
  switched : List (String × Bool) := []
  colour : Option String := none
  background : Option String := none
  link : Option String := none

/-- The words of a text, without the blanks between them. -/
def wordsOf (text : List Char) : List String :=
  let runs := text.splitBy fun a b => Text.isBlank a == Text.isBlank b
  (runs.filter fun run => !run.all Text.isBlank).map String.ofList

namespace Style

def switch (s : Style) (name : String) (on : Bool) : Style :=
  { s with switched := (name, on) :: s.switched }

/-- The style with a word that stands for itself: an attribute or a colour. -/
def addWord (s : Style) (word : String) : Except StyleFault Style :=
  match attribute? (Text.lowerCase word) with
  | some name => .ok (s.switch name true)
  | none => (readColour word).map fun colour => { s with colour := some colour }

/-- The style with a word and the one after it, if the word takes the next one with it. The name of
an attribute that is switched off has to be in small letters. -/
def addPair? (s : Style) (word next : String) : Option (Except StyleFault Style) :=
  match Text.lowerCase word with
  | "on" => some ((readColour next).map fun colour => { s with background := some colour })
  | "not" =>
    match attribute? next with
    | some name => some (.ok (s.switch name false))
    | none => some (.error .words)
  | "link" => some (.ok { s with link := some next })
  | _ => none

/-- Reads the words of a style. -/
def ofWords (s : Style) : List String → Except StyleFault Style
  | [] => .ok s
  | [word] => s.addWord word
  | word :: next :: rest =>
    match s.addPair? word next with
    | some result => result.bind fun s => ofWords s rest
    | none => (s.addWord word).bind fun s => ofWords s (next :: rest)

/-- Reads a style. -/
def read (text : List Char) : Except StyleFault Style :=
  if String.ofList (Text.trimList text) = "none" then .ok {} else ofWords {} (wordsOf text)

/-- The words of a style in their usual order. -/
def words (s : Style) : List String :=
  let switches := attributes.filterMap fun (name, _) =>
    (s.switched.lookup name).map fun on => if on then name else "not " ++ name
  switches ++ s.colour.toList ++ (s.background.map ("on " ++ ·)).toList ++
    (s.link.map ("link " ++ ·)).toList

/-- The usual form of a style. -/
def text (s : Style) : String :=
  match s.words with
  | [] => "none"
  | words => " ".intercalate words

end Style

/-- The name that a style is known by: its usual form, or the text in small letters if it is no
style. There is none if a component of a colour is no number. -/
def styleName? (text : List Char) : Option String :=
  match Style.read text with
  | .ok style => some style.text
  | .error .words => some (Text.lowerCase (String.ofList (Text.trimList text)))
  | .error .component => none

end LocaleRegistrar.Console
