import RelayCheck.Json.Numeral
import RelayCheck.Json.StringText

/-!
The tokens of a JSON text.

A text always has tokens. Where it stops being JSON the last token says so, and nothing after that
place is looked at.
-/

set_option autoImplicit false

namespace RelayCheck.Json

/-- The kinds of literals that can break off in the middle. -/
inductive Literal
  | word
  | numeral
deriving DecidableEq, Repr

/-- A token. The last two end the list of tokens. -/
inductive Token
  | openArray
  | closeArray
  | openObject
  | closeObject
  | comma
  | colon
  | null
  | bool (value : Bool)
  | number (numeral : Numeral)
  | string (text : StringText)
  | damaged (literal : Literal) (why : Fault)
  | stray
deriving DecidableEq, Repr

namespace Token

/-- White space between tokens: space, tab and the two ends of line. -/
def isSpace (character : Char) : Bool :=
  character == ' ' || character == '\t' || character == '\n' || character == '\x0d'

/-- Reads the rest of a word that stands for `token`. -/
def scanWord (token : Token) : List Char → List Char → Token × List Char
  | [], rest => (token, rest)
  | _ :: _, [] => (.damaged .word .endOfText, [])
  | letter :: letters, character :: rest =>
    if character == letter then scanWord token letters rest else (.damaged .word .malformed, [])

def scanNumeral (characters : List Char) : Token × List Char :=
  match Numeral.scan characters with
  | .ok (numeral, rest) => (.number numeral, rest)
  | .error why => (.damaged .numeral why, [])

def scanString (characters : List Char) : Token × List Char :=
  let (text, rest) := StringText.scan [] characters
  (.string text, rest)

/-- Reads the token that begins with the character `first`, and gives what follows it. -/
def scan (first : Char) (rest : List Char) : Token × List Char :=
  match first with
  | '[' => (.openArray, rest)
  | ']' => (.closeArray, rest)
  | '{' => (.openObject, rest)
  | '}' => (.closeObject, rest)
  | ',' => (.comma, rest)
  | ':' => (.colon, rest)
  | '"' => scanString rest
  | 'n' => scanWord .null ['u', 'l', 'l'] rest
  | 't' => scanWord (.bool true) ['r', 'u', 'e'] rest
  | 'f' => scanWord (.bool false) ['a', 'l', 's', 'e'] rest
  | _ => if first == '-' || first.isDigit then scanNumeral (first :: rest) else (.stray, [])

theorem scanWord_length_le (token : Token) (letters characters : List Char) :
    (scanWord token letters characters).2.length ≤ characters.length := by
  induction letters generalizing characters with
  | nil => simp [scanWord]
  | cons letter letters inductionHypothesis =>
    cases characters with
    | nil => simp [scanWord]
    | cons character rest =>
      simp only [scanWord]
      split
      · exact Nat.le_succ_of_le (inductionHypothesis rest)
      · simp

theorem scan_length_le (first : Char) (rest : List Char) :
    (scan first rest).2.length ≤ rest.length := by
  unfold scan
  split
  all_goals first
    | exact Nat.le_refl _
    | exact scanWord_length_le ..
    | exact StringText.scan_length_le ..
    | skip
  split
  · unfold scanNumeral
    split
    · next scanned => exact Nat.le_of_lt_succ (Numeral.length_lt_of_scan scanned)
    · simp
  · simp

/-- The tokens of some characters after those already `found`, which are given last first. -/
def allFrom (found : List Token) : List Char → List Token
  | [] => found.reverse
  | first :: rest =>
    if isSpace first then allFrom found rest
    else allFrom ((scan first rest).1 :: found) (scan first rest).2
termination_by characters => characters.length
decreasing_by
  · simp
  · exact Nat.lt_succ_of_le (scan_length_le first rest)

def all (text : String) : List Token :=
  allFrom [] text.toList

end Token

end RelayCheck.Json
