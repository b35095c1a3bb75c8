/-!
Colour and weight of console text, as escape sequences that a terminal takes away again. Without
colour the text is left as it is.
-/

namespace Criteria.Console

inductive Tone where
  | yellow
  | brightBlack
  | brightRed
  | brightGreen
  | brightYellow
  | brightCyan

def Tone.code : Tone → String
  | .yellow => "33"
  | .brightBlack => "90"
  | .brightRed => "91"
  | .brightGreen => "92"
  | .brightYellow => "93"
  | .brightCyan => "96"

def paint (color : Bool) (tone : Tone) (text : String) : String :=
  if color then "\x1b[" ++ tone.code ++ "m" ++ text ++ "\x1b[39m" else text

def embolden (color : Bool) (text : String) : String :=
  if color then "\x1b[1m" ++ text ++ "\x1b[0m" else text

def paintBold (color : Bool) (tone : Tone) (text : String) : String :=
  embolden color (paint color tone text)

def verdictMark (color verdict : Bool) : String :=
  if verdict then paint color .brightGreen "✓" else paint color .brightRed "✗"

end Criteria.Console
