import RelayCheck.Json.Number
import RelayCheck.Text.Quoted

/-!
Why a JSON text cannot be read as the kind of data that was expected.

Either the text is not JSON, and then it ended too early or is malformed, or it is JSON of another
shape. The shape is compared while the text is gone through, so the first problem in the text is
the one that is reported.
-/

set_option autoImplicit false

namespace RelayCheck.Json

/-- How a text fails to be JSON. -/
inductive Fault
  | endOfText
  | malformed
deriving DecidableEq, Repr

def Fault.message : Fault → String
  | .endOfText => "the text ends inside a value"
  | .malformed => "the text is malformed"

inductive Found
  | null
  | bool (value : Bool)
  | whole (value : Int)
  | float (bits : UInt64)
  | string (text : String)
  | sequence
  | map
deriving DecidableEq, Repr

def Found.ofNumber : Number → Found
  | .whole value _ _ => .whole value
  | .float bits => .float bits

/-- The wording for what was found; texts are quoted and other values stand between backticks. -/
def Found.describe : Found → String
  | .null => "null"
  | .bool value => s!"boolean `{value}`"
  | .whole value => s!"integer `{String.ofList (writeInt value)}`"
  | .float bits => s!"floating point `{String.ofList (writeFloat bits)}`"
  | .string text => "string " ++ Text.quoted text
  | .sequence => "sequence"
  | .map => "map"

/-- How a JSON value does not fit what was expected of it. -/
inductive Mismatch
  | wrongType (found : Found) (expected : String)
  | wrongValue (found : Found) (expected : String)
  | wrongLength (length : Nat) (expected : String)
  | duplicateField (name : String)
  | missingField (name : String)
  | unknownVariant (name : String) (known : List String)
  | other (reason : String)
deriving DecidableEq, Repr

/-- The possible names of a choice, each between backticks. -/
def describeVariants : List String → String
  | [] => "there are no variants"
  | [only] => s!"expected `{only}`"
  | [first, second] => s!"expected `{first}` or `{second}`"
  | names => "expected one of " ++ ", ".intercalate (names.map fun name => s!"`{name}`")

def Mismatch.message : Mismatch → String
  | .wrongType found expected => s!"invalid type: {found.describe}, expected {expected}"
  | .wrongValue found expected => s!"invalid value: {found.describe}, expected {expected}"
  | .wrongLength length expected => s!"invalid length {length}, expected {expected}"
  | .duplicateField name => s!"duplicate field `{name}`"
  | .missingField name => s!"missing field `{name}`"
  | .unknownVariant name known => s!"unknown variant `{name}`, {describeVariants known}"
  | .other reason => reason

inductive ReadError
  | fault (why : Fault)
  | mismatch (why : Mismatch)
deriving DecidableEq, Repr

def ReadError.message : ReadError → String
  | .fault why => why.message
  | .mismatch why => why.message

def ReadError.wrongType (found : Found) (expected : String) : ReadError :=
  .mismatch (.wrongType found expected)

def orFault {Part : Type} : Except Fault Part → Except ReadError Part
  | .ok part => .ok part
  | .error why => .error (.fault why)

end RelayCheck.Json
