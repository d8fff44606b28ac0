/-!
# Terminal styles

Text for a terminal can carry a style: bold or dimmed, a background and a foreground colour.  A
style is written as one escape sequence in front of the text and a reset behind it.
-/

namespace ArchAudit.Text

/-- The colours in use. -/
inductive Colour where
  | black
  | red
  | green
  | yellow
  | blue
  | cyan
  | white
  | brightBlue
  | brightWhite
deriving DecidableEq, Repr

namespace Colour

/-- The code that selects the colour for the characters. -/
def foregroundCode : Colour → Nat
  | black => 30
  | red => 31
  | green => 32
  | yellow => 33
  | blue => 34
  | cyan => 36
  | white => 37
  | brightBlue => 94
  | brightWhite => 97

/-- The code that selects the colour for the area behind the characters. -/
def backgroundCode (colour : Colour) : Nat :=
  colour.foregroundCode + 10

end Colour

/-- How a text is set off on a terminal. -/
structure Style where
  bold : Bool := false
  dimmed : Bool := false
  background : Option Colour := none
  foreground : Option Colour := none
deriving DecidableEq, Repr

namespace Style

/-- A foreground colour and nothing else. -/
def colour (foreground : Colour) : Style :=
  ⟨false, false, none, some foreground⟩

/-- A foreground colour in bold. -/
def boldColour (foreground : Colour) : Style :=
  ⟨true, false, none, some foreground⟩

/-- Bold in the terminal's own colours. -/
def plainBold : Style :=
  ⟨true, false, none, none⟩

/-- Dimmed in the terminal's own colours. -/
def plainDimmed : Style :=
  ⟨false, true, none, none⟩

/-- The numeric codes of a style: bold or dimmed, then background, then foreground. -/
def codes (style : Style) : List Nat :=
  (if style.bold then [1] else [])
    ++ (if style.dimmed then [2] else [])
    ++ (style.background.map Colour.backgroundCode).toList
    ++ (style.foreground.map Colour.foregroundCode).toList

/-- The escape sequence that switches every style off. -/
def reset : String :=
  "\x1b[0m"

/-- The escape sequence that switches a style on. -/
def opening (style : Style) : String :=
  "\x1b[" ++ String.intercalate ";" (style.codes.map toString) ++ "m"

/-- A text in a style, when styles are shown.  A reset inside the text would end the style early,
so the style is switched on again behind it. -/
def paint (shown : Bool) (style : Style) (text : String) : String :=
  if !shown || style.codes.isEmpty then text
  else
    style.opening ++ String.intercalate (reset ++ style.opening) (text.splitOn reset) ++ reset

end Style

end ArchAudit.Text
