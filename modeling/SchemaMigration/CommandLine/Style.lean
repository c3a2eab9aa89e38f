import SchemaMigration.Text.Blank
import SchemaMigration.Text.Case

/-!
Styles of texts on a console, and their names. A name lists attributes, a colour, a colour behind
the text and a link, in any order; names of the same style have one normalized form.
-/

namespace SchemaMigration.CommandLine

inductive StyleAttribute
  | bold
  | dim
  | italic
  | underline
  | blink
  | blink2
  | reverse
  | conceal
  | strike
  | underline2
  | frame
  | encircle
  | overline
  deriving DecidableEq, Repr

namespace StyleAttribute

def all : List StyleAttribute :=
  [bold, dim, italic, underline, blink, blink2, reverse, conceal, strike, underline2, frame,
   encircle, overline]

def name : StyleAttribute → String
  | bold => "bold"
  | dim => "dim"
  | italic => "italic"
  | underline => "underline"
  | blink => "blink"
  | blink2 => "blink2"
  | reverse => "reverse"
  | conceal => "conceal"
  | strike => "strike"
  | underline2 => "underline2"
  | frame => "frame"
  | encircle => "encircle"
  | overline => "overline"

def shortNames : List (String × StyleAttribute) :=
  [("b", bold), ("d", dim), ("i", italic), ("u", underline), ("r", reverse), ("c", conceal),
   ("s", strike), ("uu", underline2), ("o", overline)]

def ofName? (s : String) : Option StyleAttribute :=
  all.find? (fun a => a.name == s) <|> shortNames.lookup s

end StyleAttribute

namespace Colour

def names : List String :=
  ["aquamarine1 aquamarine3 black blue blue1 blue3 blue_violet bright_black bright_blue",
   "bright_cyan bright_green bright_magenta bright_red bright_white bright_yellow cadet_blue",
   "chartreuse1 chartreuse2 chartreuse3 chartreuse4 cornflower_blue cornsilk1 cyan cyan1 cyan2",
   "cyan3 dark_blue dark_cyan dark_goldenrod dark_green dark_khaki dark_magenta",
   "dark_olive_green1 dark_olive_green2 dark_olive_green3 dark_orange dark_orange3 dark_red",
   "dark_sea_green dark_sea_green1 dark_sea_green2 dark_sea_green3 dark_sea_green4",
   "dark_slate_gray1 dark_slate_gray2 dark_slate_gray3 dark_turquoise dark_violet deep_pink1",
   "deep_pink2 deep_pink3 deep_pink4 deep_sky_blue1 deep_sky_blue2 deep_sky_blue3 deep_sky_blue4",
   "dodger_blue1 dodger_blue2 dodger_blue3 gold1 gold3 gray0 gray100 gray11 gray15 gray19 gray23",
   "gray27 gray3 gray30 gray35 gray37 gray39 gray42 gray46 gray50 gray53 gray54 gray58 gray62",
   "gray63 gray66 gray69 gray7 gray70 gray74 gray78 gray82 gray84 gray85 gray89 gray93 green",
   "green1 green3 green4 green_yellow grey0 grey100 grey11 grey15 grey19 grey23 grey27 grey3",
   "grey30 grey35 grey37 grey39 grey42 grey46 grey50 grey53 grey54 grey58 grey62 grey63 grey66",
   "grey69 grey7 grey70 grey74 grey78 grey82 grey84 grey85 grey89 grey93 honeydew2 hot_pink",
   "hot_pink2 hot_pink3 indian_red indian_red1 khaki1 khaki3 light_coral light_cyan1 light_cyan3",
   "light_goldenrod1 light_goldenrod2 light_goldenrod3 light_green light_pink1 light_pink3",
   "light_pink4 light_salmon1 light_salmon3 light_sea_green light_sky_blue1 light_sky_blue3",
   "light_slate_blue light_slate_gray light_slate_grey light_steel_blue light_steel_blue1",
   "light_steel_blue3 light_yellow3 magenta magenta1 magenta2 magenta3 medium_orchid",
   "medium_orchid1 medium_orchid3 medium_purple medium_purple1 medium_purple2 medium_purple3",
   "medium_purple4 medium_spring_green medium_turquoise medium_violet_red misty_rose1",
   "misty_rose3 navajo_white1 navajo_white3 navy_blue orange1 orange3 orange4 orange_red1 orchid",
   "orchid1 orchid2 pale_green1 pale_green3 pale_turquoise1 pale_turquoise4 pale_violet_red1",
   "pink1 pink3 plum1 plum2 plum3 plum4 purple purple3 purple4 red red1 red3 rosy_brown",
   "royal_blue1 salmon1 sandy_brown sea_green1 sea_green2 sea_green3 sky_blue1 sky_blue2",
   "sky_blue3 slate_blue1 slate_blue3 spring_green1 spring_green2 spring_green3 spring_green4",
   "steel_blue steel_blue1 steel_blue3 tan thistle1 thistle3 turquoise2 turquoise4 violet wheat1",
   "wheat4 white yellow yellow1 yellow2 yellow3 yellow4"]

def isHex : List Char → Bool
  | '#' :: digits =>
    digits.length == 6 && digits.all fun c => c.isDigit || ('a' ≤ c && c ≤ 'f')
  | _ => false

/-- The numbers between a word and a closing bracket. -/
def arguments? (word : String) (s : String) : Option (List String) :=
  if s.startsWith word && s.endsWith ")" then
    let inner := (s.toList.drop word.length).dropLast
    some ((String.ofList inner).splitOn ",")
  else none

def isByte (s : String) : Bool :=
  s != "" && s.toList.all Char.isDigit && s.toNat?.any (· ≤ 255)

def isValid (s : String) : Bool :=
  s == "default" || names.any (fun line => (line.splitOn " ").contains s) || isHex s.toList ||
    (arguments? "color(" s).any (fun ns =>
      ns.length == 1 && ns.all fun n => n.length ≤ 3 && isByte n) ||
    (arguments? "rgb(" s).any (fun ns => ns.length == 3 && ns.all isByte)

end Colour

structure Style where
  attributes : List (StyleAttribute × Bool)
  colour : Option String
  background : Option String
  link : Option String
  deriving DecidableEq, Repr

namespace Style

def plain : Style := ⟨[], none, none, none⟩

def attribute? (s : Style) (a : StyleAttribute) : Option Bool := s.attributes.lookup a

def withAttribute (s : Style) (a : StyleAttribute) (value : Bool) : Style :=
  { s with attributes := (a, value) :: s.attributes }

/-- Reads the words of a name, none if they name no style. -/
def ofWords? (s : Style) : List String → Option Style
  | [] => some s
  | word :: rest =>
    let small := Text.lower word
    if small = "on" then
      match rest with
      | colour :: rest =>
        let colour := Text.lower colour
        if Colour.isValid colour then ofWords? { s with background := some colour } rest else none
      | [] => none
    else if small = "not" then
      match rest with
      | name :: rest =>
        match StyleAttribute.ofName? name with
        | some a => ofWords? (s.withAttribute a false) rest
        | none => none
      | [] => none
    else if small = "link" then
      match rest with
      | target :: rest => ofWords? { s with link := some target } rest
      | [] => none
    else match StyleAttribute.ofName? small with
      | some a => ofWords? (s.withAttribute a true) rest
      | none =>
        if Colour.isValid small then ofWords? { s with colour := some small } rest else none

def name (s : Style) : String :=
  let attributes := StyleAttribute.all.filterMap fun a =>
    (s.attribute? a).map fun value => if value then a.name else "not " ++ a.name
  let words := attributes ++ s.colour.toList ++ (s.background.map ("on " ++ ·)).toList ++
    (s.link.map ("link " ++ ·)).toList
  if words = [] then "none" else " ".intercalate words

/-- The normalized form of a name. What names no style is only written in lower case. -/
def normalized (s : String) : String :=
  let bare := Text.strip s
  if bare = "none" then bare
  else match plain.ofWords? ((Text.words s.toList).map String.ofList) with
    | some style => style.name
    | none => Text.lower bare

end Style

end SchemaMigration.CommandLine
