/-
Styles of text, as tags name them. A style is written as words: attributes by long or short names, one of them after
"not" to take it away, a colour for the text, one after "on" for the ground, and a link. Two tags name the same style if
their normal forms are the same: attributes in a fixed order under their long names, then colours and link.
-/
import Pagewright.Text.Blank
import Pagewright.Text.Digit
import Pagewright.Text.Lower

namespace Pagewright.Console

/-! ## Attributes -/

inductive Attribute where
  | bold | dim | italic | underline | blink | fastBlink | reverse | conceal | strike | doubleUnderline | frame
  | encircle | overline
  deriving DecidableEq, Repr

namespace Attribute

/-- all attributes, in the order in which they are written -/
def all : List Attribute :=
  [.bold, .dim, .italic, .underline, .blink, .fastBlink, .reverse, .conceal, .strike, .doubleUnderline, .frame,
    .encircle, .overline]

/-- the long name of an attribute -/
def name : Attribute → String
  | .bold => "bold"
  | .dim => "dim"
  | .italic => "italic"
  | .underline => "underline"
  | .blink => "blink"
  | .fastBlink => "blink2"
  | .reverse => "reverse"
  | .conceal => "conceal"
  | .strike => "strike"
  | .doubleUnderline => "underline2"
  | .frame => "frame"
  | .encircle => "encircle"
  | .overline => "overline"

/-- the short name of an attribute that has one -/
def shortName? : Attribute → Option String
  | .bold => some "b"
  | .dim => some "d"
  | .italic => some "i"
  | .underline => some "u"
  | .reverse => some "r"
  | .conceal => some "c"
  | .strike => some "s"
  | .doubleUnderline => some "uu"
  | .overline => some "o"
  | _ => none

/-- the attribute of a name, long or short -/
def named? (s : String) : Option Attribute := all.find? fun a => a.name = s || a.shortName? = some s

end Attribute

/-! ## Colours -/

def colourNames : List String :=
  ["black", "red", "green", "yellow", "blue", "magenta", "cyan", "white", "bright_black", "bright_red",
   "bright_green", "bright_yellow", "bright_blue", "bright_magenta", "bright_cyan", "bright_white", "grey0", "gray0",
   "navy_blue", "dark_blue", "blue3", "blue1", "dark_green", "deep_sky_blue4", "dodger_blue3", "dodger_blue2",
   "green4", "spring_green4", "turquoise4", "deep_sky_blue3", "dodger_blue1", "green3", "spring_green3", "dark_cyan",
   "light_sea_green", "deep_sky_blue2", "deep_sky_blue1", "spring_green2", "cyan3", "dark_turquoise", "turquoise2",
   "green1", "spring_green1", "medium_spring_green", "cyan2", "cyan1", "dark_red", "deep_pink4", "purple4", "purple3",
   "blue_violet", "orange4", "grey37", "gray37", "medium_purple4", "slate_blue3", "royal_blue1", "chartreuse4",
   "dark_sea_green4", "pale_turquoise4", "steel_blue", "steel_blue3", "cornflower_blue", "chartreuse3", "cadet_blue",
   "sky_blue3", "steel_blue1", "pale_green3", "sea_green3", "aquamarine3", "medium_turquoise", "chartreuse2",
   "sea_green2", "sea_green1", "aquamarine1", "dark_slate_gray2", "dark_magenta", "dark_violet", "purple",
   "light_pink4", "plum4", "medium_purple3", "slate_blue1", "yellow4", "wheat4", "grey53", "gray53",
   "light_slate_grey", "light_slate_gray", "medium_purple", "light_slate_blue", "dark_olive_green3", "dark_sea_green",
   "light_sky_blue3", "sky_blue2", "dark_sea_green3", "dark_slate_gray3", "sky_blue1", "chartreuse1", "light_green",
   "pale_green1", "dark_slate_gray1", "red3", "medium_violet_red", "magenta3", "dark_orange3", "indian_red",
   "hot_pink3", "medium_orchid3", "medium_orchid", "medium_purple2", "dark_goldenrod", "light_salmon3", "rosy_brown",
   "grey63", "gray63", "medium_purple1", "gold3", "dark_khaki", "navajo_white3", "grey69", "gray69",
   "light_steel_blue3", "light_steel_blue", "yellow3", "dark_sea_green2", "light_cyan3", "light_sky_blue1",
   "green_yellow", "dark_olive_green2", "dark_sea_green1", "pale_turquoise1", "deep_pink3", "magenta2", "hot_pink2",
   "orchid", "medium_orchid1", "orange3", "light_pink3", "pink3", "plum3", "violet", "light_goldenrod3", "tan",
   "misty_rose3", "thistle3", "plum2", "khaki3", "light_goldenrod2", "light_yellow3", "grey84", "gray84",
   "light_steel_blue1", "yellow2", "dark_olive_green1", "honeydew2", "light_cyan1", "red1", "deep_pink2",
   "deep_pink1", "magenta1", "orange_red1", "indian_red1", "hot_pink", "dark_orange", "salmon1", "light_coral",
   "pale_violet_red1", "orchid2", "orchid1", "orange1", "sandy_brown", "light_salmon1", "light_pink1", "pink1",
   "plum1", "gold1", "navajo_white1", "misty_rose1", "thistle1", "yellow1", "light_goldenrod1", "khaki1", "wheat1",
   "cornsilk1", "grey100", "gray100", "grey3", "gray3", "grey7", "gray7", "grey11", "gray11", "grey15", "gray15",
   "grey19", "gray19", "grey23", "gray23", "grey27", "gray27", "grey30", "gray30", "grey35", "gray35", "grey39",
   "gray39", "grey42", "gray42", "grey46", "gray46", "grey50", "gray50", "grey54", "gray54", "grey58", "gray58",
   "grey62", "gray62", "grey66", "gray66", "grey70", "gray70", "grey74", "gray74", "grey78", "gray78", "grey82",
   "gray82", "grey85", "gray85", "grey89", "gray89", "grey93", "gray93"]

/-- what is wrong with a style: it names nothing known, or a colour lacks a number -/
inductive StyleFault where
  | unknown
  | numeral
  deriving DecidableEq, Repr

/-- the number that digits of any script write -/
def digitsValue? (s : List Char) : Option Nat :=
  s.foldl (fun n c => n.bind fun n => (Text.decimal? c).map (n * 10 + ·)) (some 0)

/-- what stands in brackets after a word, to the end -/
def bracketed? (word : String) (s : List Char) : Option (List Char) :=
  let rest := s.drop word.length
  if word.toList.isPrefixOf s && rest.head? = some '(' && rest.getLast? = some ')' && 2 ≤ rest.length
  then some (rest.drop 1).dropLast
  else none

/-- a digit of a hexadecimal numeral in lower case -/
def isHexDigit (c : Char) : Bool := c.isDigit || ('a' ≤ c && c ≤ 'f')

/-- six hexadecimal digits after a number sign -/
def isHexColour (s : List Char) : Bool :=
  match s with
  | '#' :: r => r.length = 6 && r.all isHexDigit
  | _ => false

/-- a colour by its number, at most three digits in brackets -/
def isNumberedColour (s : List Char) : Bool :=
  match bracketed? "color" s with
  | some r => 1 ≤ r.length && r.length ≤ 3 && r.all Char.isDigit && (digitsValue? r).any (· ≤ 255)
  | none => false

/-- a colour by the parts of red, green and blue in it; a part must be a number -/
def mixedColour (s : List Char) : Except StyleFault Unit :=
  match bracketed? "rgb" s with
  | some r =>
    if r.isEmpty || !(r.all fun c => c = ',' || (Text.decimal? c).isSome) then .error .unknown
    else
      let parts := r.splitOn ','
      if parts.length ≠ 3 then .error .unknown
      else if parts.any List.isEmpty then .error .numeral
      else if parts.all fun p => (digitsValue? p).any (· ≤ 255) then .ok ()
      else .error .unknown
  | none => .error .unknown

/-- a colour in lower case, if the word is one -/
def colourOf (word : List Char) : Except StyleFault String :=
  let s := Text.lower word
  let name := String.ofList s
  if name = "default" || colourNames.contains name || isHexColour s || isNumberedColour s then .ok name
  else (mixedColour s).map fun _ => name

/-! ## Styles -/

/-- a style: attributes given or taken away, last first, colours and link -/
structure Style where
  attributes : List (Attribute × Bool)
  colour : Option String
  ground : Option String
  link : Option String
  deriving DecidableEq, Repr

namespace Style

/-- the style that changes nothing -/
def none : Style := ⟨[], .none, .none, .none⟩

/-- an attribute given or taken away -/
def put (s : Style) (a : Attribute) (given : Bool) : Style := { s with attributes := (a, given) :: s.attributes }

def addWords (s : Style) : List (List Char) → Except StyleFault Style
  | [] => .ok s
  | word :: rest =>
    match String.ofList (Text.lower word), rest with
    | "on", w :: r =>
      match colourOf w with
      | .ok c => addWords { s with ground := some c } r
      | .error e => .error e
    | "not", w :: r =>
      match Attribute.named? (String.ofList w) with
      | some a => addWords (s.put a false) r
      | .none => .error .unknown
    | "link", w :: r => addWords { s with link := some (String.ofList w) } r
    | "on", [] | "not", [] | "link", [] => .error .unknown
    | w, r =>
      match Attribute.named? w with
      | some a => addWords (s.put a true) r
      | .none =>
        match colourOf word with
        | .ok c => addWords { s with colour := some c } r
        | .error e => .error e

/-- the words of the normal form -/
def words (s : Style) : List String :=
  (Attribute.all.filterMap fun a => (s.attributes.lookup a).map fun given => if given then a.name else "not " ++ a.name) ++
    s.colour.toList ++ (s.ground.map ("on " ++ ·)).toList ++ (s.link.map ("link " ++ ·)).toList

/-- the normal form -/
def text (s : Style) : String :=
  match s.words with
  | [] => "none"
  | ws => " ".intercalate ws

end Style

def styleWords (s : List Char) : List (List Char) :=
  (s.splitBy fun a b => Text.isBlank a == Text.isBlank b).filter fun w => !w.all Text.isBlank

/-- the normal form of the name of a style; a name that is no style is only put in lower case -/
def styleName (s : List Char) : Except StyleFault String :=
  if Text.strip s = "none".toList then .ok Style.none.text
  else
    match Style.none.addWords (styleWords s) with
    | .ok style => .ok style.text
    | .error .unknown => .ok (String.ofList (Text.lower (Text.strip s)))
    | .error .numeral => .error .numeral

end Pagewright.Console
