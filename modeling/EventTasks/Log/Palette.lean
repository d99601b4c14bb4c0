/-!
The named colours of log lines. Painting a text puts the colour's terminal code before it and the
code that ends all painting behind it.
-/
namespace EventTasks.Log

inductive Color where
  | reset | black | red | green | yellow | blue | purple | cyan | white
  | lightBlack | lightRed | lightGreen | lightYellow | lightBlue | lightPurple | lightCyan
  | lightWhite | bold | boldRed | boldWhiteOnBoldRed
deriving DecidableEq, Repr

namespace Color

def all : List Color := [reset, black, red, green, yellow, blue, purple, cyan, white, lightBlack,
  lightRed, lightGreen, lightYellow, lightBlue, lightPurple, lightCyan, lightWhite, bold, boldRed,
  boldWhiteOnBoldRed]

def name : Color → String
  | reset => "reset"
  | black => "black"
  | red => "red"
  | green => "green"
  | yellow => "yellow"
  | blue => "blue"
  | purple => "purple"
  | cyan => "cyan"
  | white => "white"
  | lightBlack => "light_black"
  | lightRed => "light_red"
  | lightGreen => "light_green"
  | lightYellow => "light_yellow"
  | lightBlue => "light_blue"
  | lightPurple => "light_purple"
  | lightCyan => "light_cyan"
  | lightWhite => "light_white"
  | bold => "bold"
  | boldRed => "bold_red"
  | boldWhiteOnBoldRed => "fg_bold_white_bg_bold_red"

def parameters : Color → String
  | reset => "0"
  | black => "30"
  | red => "31"
  | green => "32"
  | yellow => "33"
  | blue => "34"
  | purple => "35"
  | cyan => "36"
  | white => "37"
  | lightBlack => "90"
  | lightRed => "91"
  | lightGreen => "92"
  | lightYellow => "93"
  | lightBlue => "94"
  | lightPurple => "95"
  | lightCyan => "96"
  | lightWhite => "97"
  | bold => "1"
  | boldRed => "1;31"
  | boldWhiteOnBoldRed => "1;37;41"

def escape : Char := Char.ofNat 0x1b

def code (c : Color) : String := String.ofList [escape, '['] ++ c.parameters ++ "m"

def ofName? (s : String) : Option Color := all.find? fun c => c.name == s

/-- `colorize`. -/
def paint (c : Color) (text : String) : String := c.code ++ text ++ reset.code

end Color

end EventTasks.Log
