import RelayCheck.Json.Printer

/-!
The canonical text of a JSON value: no white space, members in order of their names at every level,
and whole numbers only.
-/

set_option autoImplicit false

namespace RelayCheck.Json.Value

mutual

/-- The first number of a value that is not whole, in the order in which the value is written. -/
def firstFloat? : Value → Option UInt64
  | .number (.float bits) => some bits
  | .array items => firstFloatItems? items
  | .object members => firstFloatMembers? members
  | .null | .bool _ | .number (.whole ..) | .string _ => none

def firstFloatItems? : List Value → Option UInt64
  | [] => none
  | value :: rest => (firstFloat? value).or (firstFloatItems? rest)

def firstFloatMembers? : List (String × Value) → Option UInt64
  | [] => none
  | (_, value) :: rest => (firstFloat? value).or (firstFloatMembers? rest)

end

/-- Why a value has no canonical text: it holds the number with these bits, which is not whole. -/
structure NotWhole where
  bits : UInt64
deriving DecidableEq, Repr

def NotWhole.message (objection : NotWhole) : String :=
  s!"non-integer number in canonical form: {String.ofList (writeFloat objection.bits)}"

def canonical (value : Value) : Except NotWhole String :=
  match value.sorted.firstFloat? with
  | some bits => .error ⟨bits⟩
  | none => .ok value.sorted.toText

end RelayCheck.Json.Value
