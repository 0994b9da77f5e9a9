import RelayCheck.Text.Visible

/-!
Texts shown to a person: in quotes, with everything escaped that could be mistaken.
-/

set_option autoImplicit false

namespace RelayCheck.Text

/-- A character between quotes of the kind `mark`. The mark and the backslash get a backslash, a
few controls have names, and other characters that leave no mark are given by their code point in
hexadecimal. -/
def showChar (mark character : Char) : List Char :=
  if character == mark || character == '\\' then ['\\', character]
  else if character == '\n' then ['\\', 'n']
  else if character == '\r' then ['\\', 'r']
  else if character == '\t' then ['\\', 't']
  else if character == '\x00' then ['\\', '0']
  else if isVisible character then [character]
  else "\\u\x7b".toList ++ Nat.toDigits 16 character.toNat ++ ['\x7d']

def quoted (text : String) : String :=
  String.ofList ('"' :: text.toList.flatMap (showChar '"') ++ ['"'])

def quotedChar (character : Char) : String :=
  String.ofList ('\'' :: showChar '\'' character ++ ['\''])

def quotedList (texts : List String) : String :=
  "[" ++ ", ".intercalate (texts.map quoted) ++ "]"

end RelayCheck.Text
