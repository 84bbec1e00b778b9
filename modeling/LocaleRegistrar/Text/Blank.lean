import LocaleRegistrar.Text.Interval

/-!
Blank characters and trimming. The blanks are the Unicode 14 white space characters together with
the four information separators from 0x1C to 0x1F.
-/

namespace LocaleRegistrar.Text

/-- The blank characters. -/
def blankIntervals : List Interval :=
  [(0x9, 0xD), (0x1C, 0x20), (0x85, 0x85), (0xA0, 0xA0), (0x1680, 0x1680), (0x2000, 0x200A),
   (0x2028, 0x2029), (0x202F, 0x202F), (0x205F, 0x205F), (0x3000, 0x3000)]

/-- Is `c` a blank? -/
def isBlank (c : Char) : Bool :=
  covers blankIntervals c.toNat

/-- The characters without the blanks at their end. -/
def trimEndList : List Char → List Char
  | [] => []
  | c :: rest =>
    match trimEndList rest with
    | [] => if isBlank c then [] else [c]
    | kept => c :: kept

/-- The characters without the blanks at either end. -/
def trimList (s : List Char) : List Char :=
  trimEndList (s.dropWhile isBlank)

/-- The text without the blanks at either end. -/
def trim (s : String) : String :=
  String.ofList (trimList s.toList)

end LocaleRegistrar.Text
