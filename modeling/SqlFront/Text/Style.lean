/-!
# SqlFront.Text.Style

Terminal styles. A painted text stands between the sequence that opens its style and the reset
sequence. A reset inside the text would end the style early, so the style is opened again after it.
-/

namespace SqlFront
namespace Text

inductive Color where
  | red | green | yellow | magenta | cyan | white
deriving DecidableEq, Repr

def Color.code : Color → String
  | .red => "31"
  | .green => "32"
  | .yellow => "33"
  | .magenta => "35"
  | .cyan => "36"
  | .white => "37"

inductive Weight where
  | bold | dim
deriving DecidableEq, Repr

def Weight.code : Weight → String
  | .bold => "1"
  | .dim => "2"

/-- A weight, a colour, or both. -/
structure Style where
  weight : Option Weight := none
  color : Option Color := none
deriving DecidableEq, Repr

namespace Style

def colored (color : Color) : Style := { color := some color }

def bold (color : Color) : Style := { weight := some .bold, color := some color }

def dim : Style := { weight := some .dim }

/-- The code of the weight stands before that of the colour. -/
def codes (style : Style) : List String :=
  (style.weight.map Weight.code).toList ++ (style.color.map Color.code).toList

/-- The sequence that opens the style. -/
def opening (style : Style) : String :=
  "\x1b[" ++ String.intercalate ";" style.codes ++ "m"

/-- The sequence that ends every style. -/
def reset : String := "\x1b[0m"

/-- Puts `start` after every reset sequence of the text. -/
def reopen (start : List Char) : List Char → List Char
  | '\x1b' :: '[' :: '0' :: 'm' :: cs => '\x1b' :: '[' :: '0' :: 'm' :: (start ++ reopen start cs)
  | c :: cs => c :: reopen start cs
  | [] => []

/-- The text in the style when colour is on, and as it is when colour is off. -/
def paint (style : Style) (on : Bool) (text : String) : String :=
  if on then
    style.opening ++ String.ofList (reopen style.opening.toList text.toList) ++ reset
  else text

end Style
end Text
end SqlFront
