import RelayCheck.Json.Reading

/-!
Kinds of data that a JSON value can be asked for.

A kind can be read from the tree of a text, and then the text decides which problem comes first; it
can be read from a value that has been read before; and data of a kind can be turned into a value.
-/

set_option autoImplicit false

namespace RelayCheck.Json

inductive Width
  | u16
  | u32
  | u64
  | i64
deriving DecidableEq, Repr

namespace Width

abbrev Data : Width → Type
  | .u16 => UInt16
  | .u32 => UInt32
  | .u64 => UInt64
  | .i64 => Int64

def name : Width → String
  | .u16 => "u16"
  | .u32 => "u32"
  | .u64 => "u64"
  | .i64 => "i64"

def least : Width → Int
  | .u16 | .u32 | .u64 => 0
  | .i64 => -9223372036854775808

/-- The first number too large for a width. -/
def limit : Width → Int
  | .u16 => 65536
  | .u32 => 4294967296
  | .u64 => 18446744073709551616
  | .i64 => 9223372036854775808

/-- The number of a width with a given value, modulo the width. -/
def ofInt : (width : Width) → Int → width.Data
  | .u16, value => UInt16.ofInt value
  | .u32, value => UInt32.ofInt value
  | .u64, value => UInt64.ofInt value
  | .i64, value => Int64.ofInt value

def toInt : (width : Width) → width.Data → Int
  | .u16, number => number.toNat
  | .u32, number => number.toNat
  | .u64, number => number.toNat
  | .i64, number => number.toInt

/-- Reads a number of a width. Numbers that are not whole are of another type. -/
def ofNumber (width : Width) : Number → Except ReadError width.Data
  | .whole value _ _ =>
    if width.least ≤ value ∧ value < width.limit then .ok (width.ofInt value)
    else .error (.mismatch (.wrongValue (.whole value) width.name))
  | .float bits => .error (.wrongType (.float bits) width.name)

/-- The bounds of every width are among those of a JSON number. -/
theorem toInt_bounds (width : Width) (number : width.Data) :
    -9223372036854775808 ≤ width.toInt number ∧ width.toInt number < 18446744073709551616 := by
  cases width with
  | u16 => have := UInt16.toNat_lt number; simp only [toInt]; omega
  | u32 => have := UInt32.toNat_lt number; simp only [toInt]; omega
  | u64 => have := UInt64.toNat_lt number; simp only [toInt]; omega
  | i64 =>
    have := Int64.le_toInt number
    have := Int64.toInt_lt number
    simp only [toInt]
    omega

def toNumber (width : Width) (number : width.Data) : Number :=
  .whole (width.toInt number) (width.toInt_bounds number).1 (width.toInt_bounds number).2

end Width

/-- What a value is asked for. -/
inductive Kind
  | string
  | whole (width : Width)
  | list (item : Kind)
  | optional (inner : Kind)
  | choice (names : List String)
deriving DecidableEq, Repr

namespace Kind

/-- The data of a kind. A choice is the position of its name. -/
abbrev Data : Kind → Type
  | .string => String
  | .whole width => width.Data
  | .list item => List item.Data
  | .optional inner => Option inner.Data
  | .choice names => Fin names.length

/-- Reads every item with the same reader, the first one first. -/
def readAll {Source Data : Type} (reader : Source → Except ReadError Data) :
    List Source → Except ReadError (List Data)
  | [] => .ok []
  | source :: rest => do
    let first ← reader source
    let others ← readAll reader rest
    return first :: others

/-- The position of a name among those that can be chosen. -/
def choose (names : List String) (name : String) : Except ReadError (Fin names.length) :=
  match names.finIdxOf? name with
  | some position => .ok position
  | none => .error (.mismatch (.unknownVariant name names))

/-- Reads the name of a choice from the tree of a text: a string, or an object of one member with
that name and the value null. Nothing else can begin a choice. -/
def readChoice (names : List String) : Tree → Except ReadError (Fin names.length)
  | .string text => do choose names (← orFault text.decode)
  | .object ((text, tree) :: others) ending => do
    let position ← choose names (← orFault text.decode)
    match tree with
    | .null => pure ()
    | tree => tree.refuse "unit"
    match others, ending with
    | [], .closed => return position
    | [], .unseparated why => .error (.fault why)
    | _, _ => .error (.fault .malformed)
  | .object [] (.unseparated why) => .error (.fault why)
  | .absent why => .error (.fault why)
  | _ => .error (.fault .malformed)

def read : (kind : Kind) → Tree → Except ReadError kind.Data
  | .string, .string text => orFault text.decode
  | .string, tree => tree.refuse "a string"
  | .whole width, .number numeral => do width.ofNumber (← orFault numeral.number)
  | .whole width, tree => tree.refuse width.name
  | .list item, .array items ending => do
    let data ← readAll item.read items
    ending.check
    return data
  | .list _, tree => tree.refuse "a sequence"
  | .optional _, .null => .ok none
  | .optional inner, tree => do return some (← inner.read tree)
  | .choice names, tree => readChoice names tree

def choiceOfValue (names : List String) : Value → Except ReadError (Fin names.length)
  | .string text => choose names text
  | .object [(name, value)] => do
    let position ← choose names name
    match value with
    | .null => return position
    | value => .error (.wrongType value.found "unit")
  | .object _ => .error (.mismatch (.wrongValue .map "map with a single key"))
  | value => .error (.wrongType value.found "string or map")

def ofValue : (kind : Kind) → Value → Except ReadError kind.Data
  | .string, .string text => .ok text
  | .string, value => .error (.wrongType value.found "a string")
  | .whole width, .number number => width.ofNumber number
  | .whole width, value => .error (.wrongType value.found width.name)
  | .list item, .array items => readAll item.ofValue items
  | .list _, value => .error (.wrongType value.found "a sequence")
  | .optional _, .null => .ok none
  | .optional inner, value => do return some (← inner.ofValue value)
  | .choice names, value => choiceOfValue names value

def toValue : (kind : Kind) → kind.Data → Value
  | .string, text => .string text
  | .whole width, number => .number (width.toNumber number)
  | .list item, items => .array (items.map item.toValue)
  | .optional _, none => .null
  | .optional inner, some data => inner.toValue data
  | .choice names, position => .string names[position]

end Kind

end RelayCheck.Json
