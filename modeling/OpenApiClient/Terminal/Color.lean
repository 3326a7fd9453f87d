import OpenApiClient.Text.LowerCase

/-!
# Colors

The colors in which messages are printed, for dark and for light terminals, and how the
environment tells which of them a terminal is.
-/
namespace OpenApiClient.Terminal

/-- A color of text. -/
inductive Color where
  | rgb (red green blue : Nat)
  /-- Whatever the terminal uses. -/
  | reset
deriving DecidableEq, Repr

/-- The colors of messages by their roles. -/
structure Palette where
  timestamp : Color
  primary : Color
  accent : Color
  warning : Color
  success : Color
  label : Color
  value : Color
deriving DecidableEq, Repr

namespace Palette

def dark : Palette :=
  { timestamp := .rgb 128 150 170
    primary := .rgb 214 222 235
    accent := .rgb 247 140 108
    warning := .rgb 255 203 107
    success := .rgb 195 232 141
    label := .rgb 130 170 255
    value := .rgb 240 220 78 }

def light : Palette :=
  { timestamp := .rgb 96 108 120
    primary := .rgb 40 44 52
    accent := .rgb 196 78 48
    warning := .rgb 170 110 0
    success := .rgb 46 125 50
    label := .rgb 38 90 180
    value := .rgb 120 80 10 }

/-- No colors. -/
def plain : Palette := ⟨.reset, .reset, .reset, .reset, .reset, .reset, .reset⟩

/-- The colors in the order of their roles. -/
def colors (palette : Palette) : List Color :=
  [palette.timestamp, palette.primary, palette.accent, palette.warning, palette.success,
    palette.label, palette.value]

end Palette

/-- The background of a terminal. -/
inductive Theme where
  | dark
  | light
deriving DecidableEq, Repr

def Theme.palette : Theme → Palette
  | dark => .dark
  | light => .light

/-- Which background is taken for granted. -/
inductive ThemeMode where
  | auto
  | dark
  | light
deriving DecidableEq, Repr

/-- When colors are used. -/
inductive ColorMode where
  | auto
  | always
  | never
deriving DecidableEq, Repr

/-- What is known of a terminal. -/
structure Environment where
  /-- The indices of the colors of text and background, with semicolons between them. -/
  colorIndices : Option String := none
  /-- The program that shows the terminal. -/
  program : Option String := none
  /-- The name of its profile. -/
  profile : Option String := none
  /-- Whether output is shown at all. -/
  isShown : Bool := false

/-- The index below which background colors are dark. -/
def lightIndex : Nat := 8

/-- A number below 256 in decimal digits, perhaps behind a plus sign. -/
def colorIndex? (text : List Char) : Option Nat :=
  let digits := if text.head? = some '+' then text.drop 1 else text
  if digits.isEmpty || !digits.all Char.isDigit then none
  else
    let value := digits.foldl (fun value digit => value * 10 + (digit.toNat - 0x30)) 0
    if value < 256 then some value else none

/-- What stands behind the last semicolon. -/
def lastField (text : List Char) : List Char :=
  (text.reverse.takeWhile (· ≠ ';')).reverse

/-- Whether a text contains another. -/
def containsText (part : List Char) : List Char → Bool
  | [] => part.isEmpty
  | c :: rest => part.isPrefixOf (c :: rest) || containsText part rest

/-- Whether the profile of a program that names its profiles so speaks of light. -/
def hasLightProfile (environment : Environment) : Bool :=
  (environment.program = some "Apple_Terminal" || environment.program = some "iTerm.app") &&
    environment.profile.any fun profile =>
      containsText ['l', 'i', 'g', 'h', 't'] (Text.lowerCase profile.toList)

namespace Theme

/-- The background that the environment tells, dark if it tells nothing. -/
def ofEnvironment (environment : Environment) : Theme :=
  match environment.colorIndices.bind fun text => colorIndex? (lastField text.toList) with
  | some index => if lightIndex ≤ index then .light else .dark
  | none => if hasLightProfile environment then .light else .dark

def ofMode (environment : Environment) : ThemeMode → Theme
  | .auto => ofEnvironment environment
  | .dark => .dark
  | .light => .light

end Theme

/-- Whether colors are used. -/
def ColorMode.enabled (environment : Environment) : ColorMode → Bool
  | auto => environment.isShown
  | always => true
  | never => false

/-- The colors for a terminal. -/
def Palette.ofModes (color : ColorMode) (theme : ThemeMode) (environment : Environment) :
    Palette :=
  if color.enabled environment then (Theme.ofMode environment theme).palette else .plain

/-! ## Colored text -/

/-- The sequence that sets the color of text. -/
def Color.sequence : Color → String
  | rgb red green blue =>
    "\x1b[38;2;" ++ toString red ++ ";" ++ toString green ++ ";" ++ toString blue ++ "m"
  | reset => "\x1b[39m"

/-- A text in a color. -/
def styled (color : Color) (text : String) : String :=
  color.sequence ++ text ++ Color.reset.sequence

end OpenApiClient.Terminal
