import RelayCheck.Json.Kind

/-!
Records as JSON: what their members are called, of which kind they are and in which order they come.

A record is read from an object, whose members may come in any order and of which unknown ones are
passed over, or from an array that has the members in order. What has been read so far is a partial
function from the fields to their data; what to do about absent fields is up to the record.
-/

set_option autoImplicit false

namespace RelayCheck.Json

/-- The layout of a record whose fields are the elements of a type. -/
structure Layout (Field : Type) where
  /-- How the record is called in messages. -/
  title : String
  /-- The fields in order. -/
  fields : List Field
  /-- The name of a field. -/
  name : Field → String
  /-- The kind of the data in a field. -/
  kind : Field → Kind

namespace Layout

variable {Field : Type} [DecidableEq Field] (layout : Layout Field)

/-- The fields read so far, with their data. -/
abbrev Filled : Type :=
  (field : Field) → Option (layout.kind field).Data

def empty : layout.Filled := fun _ => none

def fill (filled : layout.Filled) (field : Field) (data : (layout.kind field).Data) :
    layout.Filled := fun other =>
  if same : field = other then some (same ▸ data) else filled other

def field? (name : String) : Option Field :=
  layout.fields.find? fun field => layout.name field == name

/-- The members of an object, read with `reader`; a field may be given once. Members that are no
fields go to `skip`. -/
def readMembers {Name Source : Type} (nameOf : Name → Except ReadError String)
    (reader : (kind : Kind) → Source → Except ReadError kind.Data)
    (skip : Source → Except ReadError Unit) (filled : layout.Filled) :
    List (Name × Source) → Except ReadError layout.Filled
  | [] => .ok filled
  | (written, source) :: rest => do
    let name ← nameOf written
    match layout.field? name with
    | none => do
      skip source
      readMembers nameOf reader skip filled rest
    | some field =>
      if (filled field).isSome then .error (.mismatch (.duplicateField (layout.name field)))
      else do
        let data ← reader (layout.kind field) source
        readMembers nameOf reader skip (layout.fill filled field data) rest

/-- The items of an array as fields in order, as far as there are both; then the fields and the
items that are left over. -/
def readItems {Source : Type} (reader : (kind : Kind) → Source → Except ReadError kind.Data)
    (filled : layout.Filled) :
    List Field → List Source → Except ReadError (layout.Filled × List Field × List Source)
  | [], items => .ok (filled, [], items)
  | fields, [] => .ok (filled, fields, [])
  | field :: fields, source :: rest => do
    let data ← reader (layout.kind field) source
    readItems reader (layout.fill filled field data) fields rest

/-- The error for an array that ends before the last field. -/
def tooShort (missing : List Field) : ReadError :=
  .mismatch (.wrongLength (layout.fields.length - missing.length)
    s!"{layout.title} with {layout.fields.length} elements")

/-- Reads a record from the tree of a text. If an array may not be `partly` filled, all fields
must be there; more items than fields are not even well formed. -/
def read (partly : Bool) : Tree → Except ReadError layout.Filled
  | .object members ending => do
    let filled ← layout.readMembers (fun text => orFault text.decode) Kind.read Tree.skip
      layout.empty members
    ending.check
    return filled
  | .array items ending => do
    match ← layout.readItems Kind.read layout.empty layout.fields items with
    | (filled, [], []) =>
      match ending with
      | .closed => return filled
      | .unseparated why => .error (.fault why)
      | _ => .error (.fault .malformed)
    | (_, [], _ :: _) => .error (.fault .malformed)
    | (filled, missing, _) => do
      ending.check
      if partly then return filled else .error (layout.tooShort missing)
  | tree => tree.refuse layout.title

def ofValue (partly : Bool) : Value → Except ReadError layout.Filled
  | .object members =>
    layout.readMembers .ok Kind.ofValue (fun _ => .ok ()) layout.empty members
  | .array items => do
    match ← layout.readItems Kind.ofValue layout.empty layout.fields items with
    | (filled, [], []) => return filled
    | (_, [], _ :: _) =>
      .error (.mismatch (.wrongLength items.length "fewer elements in array"))
    | (filled, missing, _) =>
      if partly then return filled else .error (layout.tooShort missing)
  | value => .error (.wrongType value.found layout.title)

def require (filled : layout.Filled) (field : Field) :
    Except ReadError (layout.kind field).Data :=
  match filled field with
  | some data => .ok data
  | none => .error (.mismatch (.missingField (layout.name field)))

/-- The members for the fields that are filled, in the order of the layout. -/
def members (filled : layout.Filled) : List (String × Value) :=
  layout.fields.filterMap fun field =>
    (filled field).map fun data => (layout.name field, (layout.kind field).toValue data)

end Layout

end RelayCheck.Json
