import RelayCheck.Digest.Sha256
import RelayCheck.Json.Canonical
import RelayCheck.Json.Layout
import RelayCheck.Note.Signer

/-!
Events.

An event carries the digest of a canonical text of its contents as its identifier, and a signature
of the octets that hold its contents and its identifier. An event is written as a JSON object with
its fields in a fixed order, and read from one with its fields in any order.
-/

set_option autoImplicit false

namespace RelayCheck.Note

open Json (Kind Layout Value)

/-- A signed note or any other event. -/
structure Event where
  /-- The identifier, in hexadecimal; empty until it is computed. -/
  id : String
  /-- The public key of the author, in hexadecimal. -/
  pubkey : String
  /-- When the event was made, in seconds. -/
  createdAt : Int64
  kind : UInt16
  tags : List (List String)
  content : String
  /-- The signature, in hexadecimal; empty until the event is signed. -/
  sig : String
deriving DecidableEq, Repr

def textNoteKind : UInt16 := 1

namespace Event

inductive Field
  | id
  | pubkey
  | createdAt
  | kind
  | tags
  | content
  | sig
deriving DecidableEq, Repr

def layout : Layout Field where
  title := "struct Event"
  fields := [.id, .pubkey, .createdAt, .kind, .tags, .content, .sig]
  name
    | .id => "id"
    | .pubkey => "pubkey"
    | .createdAt => "created_at"
    | .kind => "kind"
    | .tags => "tags"
    | .content => "content"
    | .sig => "sig"
  kind
    | .id | .pubkey | .content | .sig => .string
    | .createdAt => .whole .i64
    | .kind => .whole .u16
    | .tags => .list (.list .string)

def filled (event : Event) : layout.Filled
  | .id => some event.id
  | .pubkey => some event.pubkey
  | .createdAt => some event.createdAt
  | .kind => some event.kind
  | .tags => some event.tags
  | .content => some event.content
  | .sig => some event.sig

/-- The event with some fields. All of them must be there; the first one missing is reported. -/
def ofFilled (filled : layout.Filled) : Except Json.ReadError Event := do
  let id ← layout.require filled .id
  let pubkey ← layout.require filled .pubkey
  let createdAt ← layout.require filled .createdAt
  let kind ← layout.require filled .kind
  let tags ← layout.require filled .tags
  let content ← layout.require filled .content
  let sig ← layout.require filled .sig
  return { id, pubkey, createdAt, kind, tags, content, sig }

def ofTree (tree : Json.Tree) : Except Json.ReadError Event := do
  ofFilled (← layout.read false tree)

def ofValue (value : Value) : Except Json.ReadError Event := do
  ofFilled (← layout.ofValue false value)

def toValue (event : Event) : Value :=
  .object (Value.sortMembers (layout.members event.filled))

def toText (event : Event) : String :=
  (Value.object (layout.members event.filled)).toText

def ofText (text : String) : Except NoteError Event :=
  orUnreadable ((Json.Document.ofText text).read ofTree)

def new (pubkey content : String) (kind : UInt16) (tags : List (List String))
    (createdAt : Int64) : Event :=
  { id := "", pubkey, createdAt, kind, tags, content, sig := "" }

end Event

end RelayCheck.Note
