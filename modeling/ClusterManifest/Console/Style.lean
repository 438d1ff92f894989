import ClusterManifest.Text.Blank
import ClusterManifest.Text.Case
import ClusterManifest.Text.Digit
import ClusterManifest.Text.Numeral

/-! The normal form of style names. A style is written as words in any order: attributes, each
set or unset, a colour, a colour of the ground, a link. Two names of one style have the same
normal form, so that either closes what the other opens. A text that is no style is its own
name, whatever its case. A colour of three numbers one of which is none can neither be read nor
told from what is no style: it is a fault. -/

namespace ClusterManifest.Console

structure Style where
  /-- Attributes by their full names, the later setting of one counting. -/
  attributes : List (String × Bool)
  colour : Option (List Char)
  ground : Option (List Char)
  link : Option (List Char)
  deriving DecidableEq, Repr

namespace Style

def empty : Style := ⟨[], none, none, none⟩

/-- The attributes, in the order of the normal form, each with its short name if it has
one. -/
def attributeNames : List (String × Option String) :=
  [("bold", some "b"), ("dim", some "d"), ("italic", some "i"), ("underline", some "u"),
    ("blink", none), ("blink2", none), ("reverse", some "r"), ("conceal", some "c"),
    ("strike", some "s"), ("underline2", some "uu"), ("frame", none), ("encircle", none),
    ("overline", some "o")]

def attribute? (word : List Char) : Option String :=
  let word := String.ofList word
  (attributeNames.find? (fun entry => entry.1 == word || entry.2 == some word)).map Prod.fst

def colourNames : List String :=
  ["black", "red", "green", "yellow", "blue", "magenta", "cyan", "white", "bright_black",
    "bright_red", "bright_green", "bright_yellow", "bright_blue", "bright_magenta",
    "bright_cyan", "bright_white", "grey0", "gray0", "navy_blue", "dark_blue", "blue3",
    "blue1", "dark_green", "deep_sky_blue4", "dodger_blue3", "dodger_blue2", "green4",
    "spring_green4", "turquoise4", "deep_sky_blue3", "dodger_blue1", "green3", "spring_green3",
    "dark_cyan", "light_sea_green", "deep_sky_blue2", "deep_sky_blue1", "spring_green2",
    "cyan3", "dark_turquoise", "turquoise2", "green1", "spring_green1", "medium_spring_green",
    "cyan2", "cyan1", "dark_red", "deep_pink4", "purple4", "purple3", "blue_violet", "orange4",
    "grey37", "gray37", "medium_purple4", "slate_blue3", "royal_blue1", "chartreuse4",
    "dark_sea_green4", "pale_turquoise4", "steel_blue", "steel_blue3", "cornflower_blue",
    "chartreuse3", "cadet_blue", "sky_blue3", "steel_blue1", "pale_green3", "sea_green3",
    "aquamarine3", "medium_turquoise", "chartreuse2", "sea_green2", "sea_green1",
    "aquamarine1", "dark_slate_gray2", "dark_magenta", "dark_violet", "purple", "light_pink4",
    "plum4", "medium_purple3", "slate_blue1", "yellow4", "wheat4", "grey53", "gray53",
    "light_slate_grey", "light_slate_gray", "medium_purple", "light_slate_blue",
    "dark_olive_green3", "dark_sea_green", "light_sky_blue3", "sky_blue2", "dark_sea_green3",
    "dark_slate_gray3", "sky_blue1", "chartreuse1", "light_green", "pale_green1",
    "dark_slate_gray1", "red3", "medium_violet_red", "magenta3", "dark_orange3", "indian_red",
    "hot_pink3", "medium_orchid3", "medium_orchid", "medium_purple2", "dark_goldenrod",
    "light_salmon3", "rosy_brown", "grey63", "gray63", "medium_purple1", "gold3", "dark_khaki",
    "navajo_white3", "grey69", "gray69", "light_steel_blue3", "light_steel_blue", "yellow3",
    "dark_sea_green2", "light_cyan3", "light_sky_blue1", "green_yellow", "dark_olive_green2",
    "dark_sea_green1", "pale_turquoise1", "deep_pink3", "magenta2", "hot_pink2", "orchid",
    "medium_orchid1", "orange3", "light_pink3", "pink3", "plum3", "violet", "light_goldenrod3",
    "tan", "misty_rose3", "thistle3", "plum2", "khaki3", "light_goldenrod2", "light_yellow3",
    "grey84", "gray84", "light_steel_blue1", "yellow2", "dark_olive_green1", "honeydew2",
    "light_cyan1", "red1", "deep_pink2", "deep_pink1", "magenta1", "orange_red1",
    "indian_red1", "hot_pink", "dark_orange", "salmon1", "light_coral", "pale_violet_red1",
    "orchid2", "orchid1", "orange1", "sandy_brown", "light_salmon1", "light_pink1", "pink1",
    "plum1", "gold1", "navajo_white1", "misty_rose1", "thistle1", "yellow1",
    "light_goldenrod1", "khaki1", "wheat1", "cornsilk1", "grey100", "gray100", "grey3",
    "gray3", "grey7", "gray7", "grey11", "gray11", "grey15", "gray15", "grey19", "gray19",
    "grey23", "gray23", "grey27", "gray27", "grey30", "gray30", "grey35", "gray35", "grey39",
    "gray39", "grey42", "gray42", "grey46", "gray46", "grey50", "gray50", "grey54", "gray54",
    "grey58", "gray58", "grey62", "gray62", "grey66", "gray66", "grey70", "gray70", "grey74",
    "gray74", "grey78", "gray78", "grey82", "gray82", "grey85", "gray85", "grey89", "gray89",
    "grey93", "gray93"]

def isByte (digits : List Nat) : Bool := !digits.isEmpty && Text.ofDigits 10 digits ≤ 255

/-- What stands between a word with an opening bracket and a closing bracket at the end. -/
def argument? (word : String) (s : List Char) : Option (List Char) :=
  let opening := word.toList ++ ['(']
  if opening.isPrefixOf s && s.getLast? == some ')' then
    some ((s.drop opening.length).dropLast)
  else none

/-- A colour in lower case, other than by three components: a name, three bytes in hexadecimal,
or a number in the palette. -/
def isPlainColour (s : List Char) : Bool :=
  s == "default".toList || colourNames.contains (String.ofList s) ||
    (match s with
      | '#' :: digits => digits.length == 6 && digits.all (fun c => (Text.hexDigit? c).isSome)
      | _ => false) ||
    (match argument? "color" s with
      | some number =>
        number.length ≤ 3 && number.all Text.isAsciiDigit &&
          isByte (number.map Text.asciiDigitValue)
      | none => false)

/-- The components of a colour that is written with them. Between the commas there may be no
digits at all. -/
def components? (s : List Char) : Option (List (List Char)) :=
  match argument? "rgb" s with
  | some triple =>
    let components := Text.splitAtChar ',' triple
    if triple.all (fun c => c == ',' || (Text.digitValue? c).isSome) && components.length == 3
    then some components
    else none
  | none => none

def isColour (s : List Char) : Except Text.Numeral.Fault Bool :=
  match components? s with
  | some components => do
    let numbers ← components.mapM (Text.Numeral.read 10)
    return numbers.all (fun n => n ≤ 255)
  | none => .ok (isPlainColour s)

/-- The style that words stand for, if they stand for one. -/
def read : Style → List (List Char) → Except Text.Numeral.Fault (Option Style)
  | style, [] => .ok (some style)
  | style, word :: rest =>
    let lowered := Text.lower word
    if lowered == "on".toList then
      match rest with
      | [] => .ok none
      | ground :: rest => do
        let ground := Text.lower ground
        if ← isColour ground then read { style with ground := some ground } rest else .ok none
    else if lowered == "not".toList then
      match rest with
      | [] => .ok none
      | name :: rest =>
        match attribute? name with
        | some name => read { style with attributes := (name, false) :: style.attributes } rest
        | none => .ok none
    else if lowered == "link".toList then
      match rest with
      | [] => .ok none
      | link :: rest => read { style with link := some link } rest
    else
      match attribute? lowered with
      | some name => read { style with attributes := (name, true) :: style.attributes } rest
      | none => do
        if ← isColour lowered then read { style with colour := some lowered } rest
        else .ok none

def ofText (s : List Char) : Except Text.Numeral.Fault (Option Style) := read empty (Text.words s)

def text (style : Style) : List Char :=
  let settings := attributeNames.filterMap (fun (name, _) =>
    (style.attributes.find? (fun setting => setting.1 == name)).map (fun setting =>
      (if setting.2 then name else "not " ++ name).toList))
  let colour := style.colour.toList
  let ground := style.ground.toList.map ("on ".toList ++ ·)
  let link := style.link.toList.map ("link ".toList ++ ·)
  let words := settings ++ colour ++ ground ++ link
  if words.isEmpty then "none".toList else Text.joinWith [' '] words

def normalName (name : List Char) : Except Text.Numeral.Fault (List Char) := do
  if Text.trim name == "none".toList then return "none".toList
  else
    match ← ofText name with
    | some style => return style.text
    | none => return Text.lower (Text.trim name)

example : (normalName "Green b".toList).toOption = some "bold green".toList := by decide +kernel

end Style

end ClusterManifest.Console
