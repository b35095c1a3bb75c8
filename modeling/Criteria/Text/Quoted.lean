import Criteria.Text.Shown

/-!
Text between double quotes. A double quote and a backslash are marked with a backslash, the common
controls have short names, and a character that does not stand for itself is written as its code
point in hexadecimal.
-/

namespace Criteria.Text

def codePoint (character : Char) : List Char :=
  ['\\', 'u', '\x7b'] ++ Nat.toDigits 16 character.toNat ++ ['\x7d']

def escape (character : Char) : List Char :=
  if character = '"' then ['\\', '"']
  else if character = '\\' then ['\\', '\\']
  else if character = '\n' then ['\\', 'n']
  else if character = '\r' then ['\\', 'r']
  else if character = '\t' then ['\\', 't']
  else if character = '\x00' then ['\\', '0']
  else if isShown character then [character]
  else codePoint character

def escapeAll (characters : List Char) : List Char :=
  characters.flatMap escape

theorem escapeAll_cons (character : Char) (text : List Char) :
    escapeAll (character :: text) = escape character ++ escapeAll text :=
  List.flatMap_cons

def quoted (characters : List Char) : List Char :=
  '"' :: (escapeAll characters ++ ['"'])

def quote (text : String) : String :=
  String.ofList (quoted text.toList)

end Criteria.Text
