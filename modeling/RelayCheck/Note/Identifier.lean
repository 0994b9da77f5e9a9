import RelayCheck.Note.Event

/-!
Identifiers and signatures of events.

The identifier is the digest of the contents of an event in one of two canonical forms, neither of
which holds the identifier or the signature. What is signed is a third form, which holds the
identifier as well.
-/

set_option autoImplicit false

namespace RelayCheck.Note

open Json (Kind Value)

/-- The form of an event whose digest is its identifier. -/
inductive CanonicalForm
  | sortedObject
  | nip01
deriving DecidableEq, Repr

/-- The form that is used unless another is asked for. -/
def CanonicalForm.default : CanonicalForm := .sortedObject

/-- The canonical text of a value, for a caller who deals with events. -/
def canonicalText (value : Value) : Except NoteError String :=
  match value.canonical with
  | .ok text => .ok text
  | .error why => .error (.encoding why.message)

namespace Event

def wholeValue (width : Json.Width) (number : width.Data) : Value :=
  .number (width.toNumber number)

def tagsValue (tags : List (List String)) : Value :=
  .array (tags.map fun tag => .array (tag.map .string))

/-- The contents of an event in a canonical form, as a value. -/
def canonicalValue (event : Event) : CanonicalForm → Value
  | .sortedObject =>
    .object
      [("pubkey", .string event.pubkey),
       ("created_at", wholeValue .i64 event.createdAt),
       ("kind", wholeValue .u16 event.kind),
       ("tags", tagsValue event.tags),
       ("content", .string event.content)]
  | .nip01 =>
    .array
      [wholeValue .u16 0, .string event.pubkey, wholeValue .i64 event.createdAt,
       wholeValue .u16 event.kind, tagsValue event.tags, .string event.content]

/-- The octets whose digest is the identifier. -/
def canonicalize (event : Event) (form : CanonicalForm) : Except NoteError Bytes := do
  return Text.Utf8.encode (← canonicalText (event.canonicalValue form))

def computeIdentifier (event : Event) (form : CanonicalForm) : Except NoteError String := do
  return Text.Hex.encode (Digest.sha256 (← event.canonicalize form))

/-- The event with the identifier that belongs to it, and without a signature. -/
def refreshIdentifier (event : Event) (form : CanonicalForm) : Except NoteError Event := do
  return { event with id := ← event.computeIdentifier form, sig := "" }

/-- Checks that the identifier is the one that belongs to the contents. -/
def verifyIdentifier (event : Event) (form : CanonicalForm) : Except NoteError Unit := do
  if (← event.computeIdentifier form) == event.id then .ok ()
  else .error (.invalidEvent "Event ID mismatch")

/-- What is signed, as a value: everything except the signature. -/
def payloadValue (event : Event) : Value :=
  .object
    [("id", .string event.id),
     ("pubkey", .string event.pubkey),
     ("created_at", wholeValue .i64 event.createdAt),
     ("kind", wholeValue .u16 event.kind),
     ("tags", tagsValue event.tags),
     ("content", .string event.content)]

/-- The octets that are signed. There must be an identifier. -/
def signingPayload (event : Event) : Except NoteError Bytes :=
  if event.id.isEmpty then .error (.invalidEvent "identifier must be computed before signing")
  else do return Text.Utf8.encode (← canonicalText event.payloadValue)

/-- The event with the signature that is had by asking for one, once. If there is nothing to sign,
nobody is asked. A refusal is passed on. -/
def signVia {m : Type → Type} [Monad m] (event : Event)
    (ask : Bytes → m (Except NoteError String)) : m (Except NoteError Event) :=
  match event.signingPayload with
  | .error why => pure (.error why)
  | .ok payload => do
    let answer ← ask payload
    return answer.map fun sig => { event with sig }

/-- The event with the signature that a signer gives for it. -/
def sign (event : Event) (signer : Signer) : Except NoteError Event :=
  Id.run (event.signVia fun payload => pure (signer.sign payload))

end Event

end RelayCheck.Note
