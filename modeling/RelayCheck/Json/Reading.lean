import RelayCheck.Json.Tree
import RelayCheck.Json.Value

/-!
From the tree of a text to the value it stands for.

Reading is strict: strings must be texts, numbers must fit, and arrays and objects may not be
nested too deep. Passing over a value that nobody asked for only checks that it is well formed.
-/

set_option autoImplicit false

namespace RelayCheck.Json

namespace Tree

mutual

def skip : Tree → Except ReadError Unit
  | .null | .bool _ | .number _ => .ok ()
  | .string text => orFault text.skip
  | .array items ending => do
    skipItems items
    ending.check
  | .object members ending => do
    skipMembers members
    ending.check
  | .damaged .numeral _ => .error (.fault .malformed)
  | .damaged .word why => .error (.fault why)
  | .absent why => .error (.fault why)

def skipItems : List Tree → Except ReadError Unit
  | [] => .ok ()
  | tree :: rest => do
    skip tree
    skipItems rest

def skipMembers : List (StringText × Tree) → Except ReadError Unit
  | [] => .ok ()
  | (name, tree) :: rest => do
    orFault name.skip
    skip tree
    skipMembers rest

end

/-- How many arrays and objects may stand around one another. -/
def depthLimit : Nat := 127

mutual

/-- The value that a tree stands for, if no more than `depth` arrays and objects stand around one
another in it. Of members with one name the last counts. -/
def value (depth : Nat) : Tree → Except ReadError Value
  | .null => .ok .null
  | .bool value => .ok (.bool value)
  | .number numeral => do return .number (← orFault numeral.number)
  | .string text => do return .string (← orFault text.decode)
  | .array items ending =>
    match depth with
    | 0 => .error (.fault .malformed)
    | depth + 1 => do
      let values ← itemValues depth items
      ending.check
      return .array values
  | .object members ending =>
    match depth with
    | 0 => .error (.fault .malformed)
    | depth + 1 => do
      let values ← memberValues depth members
      ending.check
      return .object (Value.sortMembers values)
  | .damaged _ why => .error (.fault why)
  | .absent why => .error (.fault why)

def itemValues (depth : Nat) : List Tree → Except ReadError (List Value)
  | [] => .ok []
  | tree :: rest => do
    let first ← value depth tree
    let others ← itemValues depth rest
    return first :: others

def memberValues (depth : Nat) : List (StringText × Tree) → Except ReadError (List (String × Value))
  | [] => .ok []
  | (text, tree) :: rest => do
    let name ← orFault text.decode
    let first ← value depth tree
    let others ← memberValues depth rest
    return (name, first) :: others

end

def found : Tree → Except ReadError Found
  | .null => .ok .null
  | .bool value => .ok (.bool value)
  | .number numeral => do return .ofNumber (← orFault numeral.number)
  | .string text => do return .string (← orFault text.decode)
  | .array _ _ => .ok .sequence
  | .object _ _ => .ok .map
  | .damaged _ why => .error (.fault why)
  | .absent why => .error (.fault why)

/-- Refuses a tree that is not of the expected type. -/
def refuse {Data : Type} (expected : String) (tree : Tree) : Except ReadError Data := do
  .error (.wrongType (← tree.found) expected)

/-- The values of the items of an array that stands for itself alone. -/
def items : Tree → Except ReadError (List Value)
  | .array items ending => do
    let values ← itemValues (depthLimit - 1) items
    ending.check
    return values
  | tree => tree.refuse "a sequence"

end Tree

/-- Reads the whole text as one value of some kind; nothing may follow the value. -/
def Document.read {Data : Type} (reader : Tree → Except ReadError Data) (document : Document) :
    Except ReadError Data := do
  let data ← reader document.tree
  if document.trailing then .error (.fault .malformed) else .ok data

def Value.ofText (text : String) : Except ReadError Value :=
  (Document.ofText text).read (Tree.value Tree.depthLimit)

def Value.listOfText (text : String) : Except ReadError (List Value) :=
  (Document.ofText text).read Tree.items

def Value.found : Value → Found
  | .null => .null
  | .bool value => .bool value
  | .number held => .ofNumber held
  | .string text => .string text
  | .array _ => .sequence
  | .object _ => .map

end RelayCheck.Json
