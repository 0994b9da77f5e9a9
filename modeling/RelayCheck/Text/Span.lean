/-!
Sets of characters given as spans of code points. One of them is white space in the sense of
Unicode, which is taken off the ends of texts.
-/

set_option autoImplicit false

namespace RelayCheck.Text

/-- Spans of code points, each by its first and its last member, in increasing order. -/
abbrev Spans := List (Nat × Nat)

/-- Tests whether a character lies in one of the spans. The search stops at the first span that
begins above the character. -/
def Spans.covers : Spans → Char → Bool
  | [], _ => false
  | (first, last) :: rest, character =>
    if character.toNat < first then false
    else if character.toNat ≤ last then true
    else Spans.covers rest character

/-- The characters with the property White_Space. -/
def blankSpans : Spans :=
  [
   (0x9, 0xD), (0x20, 0x20), (0x85, 0x85), (0xA0, 0xA0), (0x1680, 0x1680), (0x2000, 0x200A),
   (0x2028, 0x2029), (0x202F, 0x202F), (0x205F, 0x205F), (0x3000, 0x3000)]

def isBlank (character : Char) : Bool :=
  blankSpans.covers character

/-- The characters of a text without the blank ones at its front and at its back. -/
def trimChars (characters : List Char) : List Char :=
  ((characters.dropWhile isBlank).reverse.dropWhile isBlank).reverse

def trim (text : String) : String :=
  String.ofList (trimChars text.toList)

end RelayCheck.Text
