import TypedClient.Text.Split

/-!
# Colours

Each piece of output has a role, and a theme gives every role a colour. Whether
colours are used at all, and for which background, is set on the command line or
found out from the terminal. `paint` is the one place where a colour becomes text.
-/

namespace TypedClient.Console

/-- A colour of a terminal. -/
inductive Color where
  /-- The colour that the terminal has by itself. -/
  | reset
  | black | darkGrey | red | darkRed | green | darkGreen | yellow | darkYellow
  | blue | darkBlue | magenta | darkMagenta | cyan | darkCyan | white | grey
  /-- A colour by its parts of red, green and blue. -/
  | rgb (red green blue : UInt8)
  deriving DecidableEq, Repr

namespace Color

/-- The colours that have a name, with the words of it. -/
def named : List (List String × Color) := [
  (["reset"], .reset), (["black"], .black), (["dark", "grey"], .darkGrey), (["red"], .red),
  (["dark", "red"], .darkRed), (["green"], .green), (["dark", "green"], .darkGreen),
  (["yellow"], .yellow), (["dark", "yellow"], .darkYellow), (["blue"], .blue),
  (["dark", "blue"], .darkBlue), (["magenta"], .magenta), (["dark", "magenta"], .darkMagenta),
  (["cyan"], .cyan), (["dark", "cyan"], .darkCyan), (["white"], .white), (["grey"], .grey)]

/-- The small letter of a letter of a name. The sign of the unit kelvin is a capital k, and the only
one beyond ASCII whose small letter is in ASCII. -/
def smallLetter (c : Char) : Char :=
  if c.toNat = 0x212A then 'k' else c.toLower

/-- The colour of a name, whose words are joined by `_` in any case; white if there is none. -/
def ofName (name : String) : Color :=
  let words := (Text.pieces '_' (name.toList.map smallLetter)).map String.ofList
  ((named.find? fun entry => entry.1 = words).map Prod.snd).getD .white

/-- The label of a colour: its words with capitals, or its parts. -/
def label : Color → String
  | .rgb r g b =>
    "Rgb \x7b r: " ++ toString r.toNat ++ ", g: " ++ toString g.toNat ++ ", b: " ++
      toString b.toNat ++ " \x7d"
  | c => String.join <|
    (((named.find? fun entry => entry.2 = c).map Prod.fst).getD []).map String.capitalize

/-- The parameters by which a terminal is asked for a colour of the text. -/
def code : Color → String
  | .reset => "39"
  | .black => "38;5;0"
  | .darkGrey => "38;5;8"
  | .red => "38;5;9"
  | .darkRed => "38;5;1"
  | .green => "38;5;10"
  | .darkGreen => "38;5;2"
  | .yellow => "38;5;11"
  | .darkYellow => "38;5;3"
  | .blue => "38;5;12"
  | .darkBlue => "38;5;4"
  | .magenta => "38;5;13"
  | .darkMagenta => "38;5;5"
  | .cyan => "38;5;14"
  | .darkCyan => "38;5;6"
  | .white => "38;5;15"
  | .grey => "38;5;7"
  | .rgb r g b =>
    "38;2;" ++ toString r.toNat ++ ";" ++ toString g.toNat ++ ";" ++ toString b.toNat

end Color

/-- The background that colours are made for. -/
inductive Theme where
  | dark | light
  deriving DecidableEq, Repr

/-- What a piece of output is. -/
inductive Role where
  | timestamp | primary | accent | info | success | label | value
  deriving DecidableEq, Repr

/-- All roles in order. -/
def Role.all : List Role := [.timestamp, .primary, .accent, .info, .success, .label, .value]

/-- The colour of a role. -/
def Theme.color : Theme → Role → Color
  | .dark, .timestamp => .rgb 96 165 178
  | .dark, .info => .rgb 96 165 178
  | .dark, .success => .rgb 96 165 178
  | .dark, .primary => .rgb 205 214 222
  | .dark, .accent => .rgb 229 108 84
  | .dark, .label => .rgb 122 162 247
  | .dark, .value => .rgb 158 206 106
  | .light, .timestamp => .rgb 88 96 105
  | .light, .primary => .rgb 36 41 47
  | .light, .accent => .rgb 191 56 42
  | .light, .info => .rgb 9 105 218
  | .light, .success => .rgb 26 127 55
  | .light, .label => .rgb 64 81 181
  | .light, .value => .rgb 130 80 223

/-- When colours are used. -/
inductive ColorMode where
  /-- In any case. -/
  | always
  /-- If a terminal shows them and nothing asks for their absence. -/
  | auto
  /-- In no case. -/
  | never
  deriving DecidableEq, Repr

/-- Which theme is used. -/
inductive ThemeMode where
  | dark | light
  /-- The one that fits the background of the terminal. -/
  | auto
  deriving DecidableEq, Repr

/-- What is known of the terminal. -/
structure Terminal where
  /-- Whether colours would be seen there and are not unwanted. -/
  showsColors : Bool
  /-- The colours of text and background, as numbers between semicolons. -/
  background : Option String
  /-- The number of columns. -/
  columns : Nat

/-- Whether colours are used. -/
def ColorMode.isEnabled : ColorMode → Terminal → Bool
  | .always, _ => true
  | .never, _ => false
  | .auto, terminal => terminal.showsColors

/-- The number below 256 that a text of digits is. A plus sign may stand before them. -/
def byteOf? (text : List Char) : Option Nat :=
  let digits :=
    match text with
    | '+' :: rest => rest
    | _ => text
  if digits.isEmpty || !digits.all Char.isDigit then none
  else
    let n := digits.foldl (fun n c => n * 10 + (c.toNat - '0'.toNat)) 0
    if n < 256 then some n else none

/-- The theme for a pair of colours given as numbers: the last of them is that of the background,
and from eight on it is light. -/
def Theme.ofBackground? (colors : String) : Option Theme :=
  ((Text.pieces ';' colors.toList).getLast?.bind byteOf?).map fun n =>
    if 8 ≤ n then .light else .dark

/-- The theme to use. Where nothing is known of the background, it is taken to be dark. -/
def ThemeMode.theme : ThemeMode → Terminal → Theme
  | .dark, _ => .dark
  | .light, _ => .light
  | .auto, terminal => (terminal.background.bind Theme.ofBackground?).getD .dark

/-- The colours of the output. -/
structure Palette where
  /-- Whether there are any. -/
  enabled : Bool
  /-- The theme they are taken from. -/
  theme : Theme
  deriving DecidableEq, Repr

namespace Palette

/-- The colour of a role. -/
def color (p : Palette) (role : Role) : Color :=
  if p.enabled then p.theme.color role else .reset

/-- A text in the colour of a role, after which the terminal's own is back. -/
def paint (p : Palette) (role : Role) (text : String) : String :=
  "\x1b[" ++ (p.color role).code ++ "m" ++ text ++ "\x1b[" ++ Color.reset.code ++ "m"

end Palette

end TypedClient.Console
