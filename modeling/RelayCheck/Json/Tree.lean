import RelayCheck.Json.Token

/-!
Syntax trees of JSON texts, damaged ones included.

A tree keeps what is written, in the order in which it is written: members of an object that have
the same name, the digits of a number, the place where the text stops being JSON. Whoever reads a
tree from left to right therefore meets the first problem of the text first, whether it is one of
syntax or one of shape.
-/

set_option autoImplicit false

namespace RelayCheck.Json

inductive Ending
  /-- By its closing bracket. -/
  | closed
  /-- Neither a comma nor the closing bracket follows the last entry, or there is no entry and what
  follows the opening bracket begins none. -/
  | unseparated (why : Fault)
  /-- A comma follows the last entry and no further entry the comma. -/
  | dangling (why : Fault)
deriving DecidableEq, Repr

def Ending.check : Ending → Except ReadError Unit
  | .closed => .ok ()
  | .unseparated why => .error (.fault why)
  | .dangling why => .error (.fault why)

/-- A value as it is written. -/
inductive Tree
  | null
  | bool (value : Bool)
  | number (numeral : Numeral)
  | string (text : StringText)
  | array (items : List Tree) (ending : Ending)
  | object (members : List (StringText × Tree)) (ending : Ending)
  /-- A literal that breaks off. -/
  | damaged (literal : Literal) (why : Fault)
  /-- No value begins where one must stand. -/
  | absent (why : Fault)

/-- A text as it is written: the tree of its value, and whether anything follows it. -/
structure Document where
  tree : Tree
  trailing : Bool

/-- An array or an object that is still open, with its entries so far, last one first. -/
inductive Frame
  | array (items : List Tree)
  | object (members : List (StringText × Tree))
  /-- An object whose last name still has no value. -/
  | member (members : List (StringText × Tree)) (name : StringText)

/-- What may stand next. -/
inductive Place
  /-- A value. -/
  | value
  /-- A value, or the end of the array that has just been opened. -/
  | firstItem
  /-- A name, or the end of the object that has just been opened. -/
  | firstName
  /-- A name, after a comma. -/
  | name
  /-- The colon after a name. -/
  | colon
  /-- A comma or the end of the innermost frame. -/
  | separator
deriving DecidableEq, Repr

namespace Tree

/-- The tree of a text that breaks off with `tree` inside the open frames. -/
def enclose (tree : Tree) : List Frame → Tree
  | [] => tree
  | .array items :: frames =>
    enclose (.array (tree :: items).reverse (.unseparated .malformed)) frames
  | .object members :: frames => enclose (.object members.reverse (.unseparated .malformed)) frames
  | .member members name :: frames =>
    enclose (.object ((name, tree) :: members).reverse (.unseparated .malformed)) frames

/-- The tree of a text that breaks off in the innermost frame, which ends with `ending`. -/
def breakOff (ending : Ending) : List Frame → Tree
  | [] => .absent .malformed
  | .array items :: frames => enclose (.array items.reverse ending) frames
  | .object members :: frames => enclose (.object members.reverse ending) frames
  | .member members name :: frames =>
    enclose (.object ((name, .absent .malformed) :: members).reverse ending) frames

/-- The tree of a text that breaks off where a value must stand. After a comma it is the array that
ends wrongly. -/
def noValue (why : Fault) (place : Place) : List Frame → Tree
  | .array items :: frames =>
    if place = .firstItem then breakOff (.unseparated why) (.array items :: frames)
    else breakOff (.dangling why) (.array items :: frames)
  | frames => enclose (.absent why) frames

/-- Puts a finished value into the innermost frame. -/
def place (tree : Tree) : List Frame → List Frame
  | .array items :: frames => .array (tree :: items) :: frames
  | .member members name :: frames => .object ((name, tree) :: members) :: frames
  | frames => frames

/-- Builds the tree of the tokens. `next` says what may stand next in the innermost of the open
frames. -/
def build (next : Place) (frames : List Frame) : List Token → Document
  | [] =>
    match next with
    | .value | .firstItem => ⟨noValue .endOfText next frames, false⟩
    | .firstName | .separator => ⟨breakOff (.unseparated .endOfText) frames, false⟩
    | .name => ⟨breakOff (.dangling .endOfText) frames, false⟩
    | .colon => ⟨enclose (.absent .endOfText) frames, false⟩
  | token :: rest =>
    match next with
    | .value | .firstItem =>
      match token with
      | .openArray => build .firstItem (.array [] :: frames) rest
      | .openObject => build .firstName (.object [] :: frames) rest
      | .closeArray =>
        match next, frames with
        | .firstItem, .array items :: outer => finish (.array items.reverse .closed) outer rest
        | _, _ => ⟨noValue .malformed next frames, false⟩
      | .damaged literal why => ⟨enclose (.damaged literal why) frames, false⟩
      | .null => finish .null frames rest
      | .bool value => finish (.bool value) frames rest
      | .number numeral => finish (.number numeral) frames rest
      | .string text => finish (.string text) frames rest
      | .closeObject | .comma | .colon | .stray => ⟨noValue .malformed next frames, false⟩
    | .firstName =>
      match token, frames with
      | .string text, .object members :: outer => build .colon (.member members text :: outer) rest
      | .closeObject, .object members :: outer =>
        finish (.object members.reverse .closed) outer rest
      | _, frames => ⟨breakOff (.unseparated .malformed) frames, false⟩
    | .name =>
      match token, frames with
      | .string text, .object members :: outer => build .colon (.member members text :: outer) rest
      | _, frames => ⟨breakOff (.dangling .malformed) frames, false⟩
    | .colon =>
      match token with
      | .colon => build .value frames rest
      | _ => ⟨enclose (.absent .malformed) frames, false⟩
    | .separator =>
      match token, frames with
      | .comma, .array items :: outer => build .value (.array items :: outer) rest
      | .comma, .object members :: outer => build .name (.object members :: outer) rest
      | .closeArray, .array items :: outer => finish (.array items.reverse .closed) outer rest
      | .closeObject, .object members :: outer =>
        finish (.object members.reverse .closed) outer rest
      | _, frames => ⟨breakOff (.unseparated .malformed) frames, false⟩
where
  /-- Goes on after a finished value: in the frame around it, or at the end of the text. -/
  finish (tree : Tree) (frames : List Frame) (rest : List Token) : Document :=
    match frames with
    | [] => ⟨tree, !rest.isEmpty⟩
    | frame :: outer => build .separator (place tree (frame :: outer)) rest

end Tree

def Document.ofTokens (tokens : List Token) : Document :=
  Tree.build .value [] tokens

def Document.ofText (text : String) : Document :=
  .ofTokens (Token.all text)

end RelayCheck.Json
