import RelayCheck.Note.Identifier
import RelayCheck.Text.Lowercase

/-!
Events in the making.

The content of a draft is given as octets, which need not be a text; they are looked at when the
event is made. The time of an event is given by the draft or else by the clock. Hashtags are put
into a draft as tags.
-/

set_option autoImplicit false

namespace RelayCheck.Note

/-- The tag for a hashtag, which is kept in lower case. -/
def hashtagTag (hashtag : String) : List String :=
  ["t", Text.lowercase hashtag]

/-- An event in the making. -/
structure Draft where
  kind : UInt16
  content : Bytes
  tags : List (List String)
  createdAt : Option Int64
deriving DecidableEq, Repr

namespace Draft

def new (kind : UInt16) : Draft :=
  { kind, content := [], tags := [], createdAt := none }

def withContent (draft : Draft) (content : String) : Draft :=
  { draft with content := Text.Utf8.encode content }

def withContentBytes (draft : Draft) (content : Bytes) : Draft :=
  { draft with content }

def addTag (draft : Draft) (tag : List String) : Draft :=
  { draft with tags := draft.tags ++ [tag] }

def addTags (draft : Draft) (tags : List (List String)) : Draft :=
  { draft with tags := draft.tags ++ tags }

def withCreatedAt (draft : Draft) (createdAt : Int64) : Draft :=
  { draft with createdAt := some createdAt }

def textNote (content : String) : Draft :=
  (new textNoteKind).withContent content

/-- The event that a draft becomes at the time `now`, with its identifier and without a
signature. -/
def build (draft : Draft) (now : Int64) (pubkey : String) (form : CanonicalForm) :
    Except NoteError Event :=
  match Text.Utf8.decode draft.content with
  | .error why => .error (.encoding s!"content is not UTF-8: {why.message}")
  | .ok content =>
    (Event.new pubkey content draft.kind draft.tags (draft.createdAt.getD now)).refreshIdentifier
      form

/-- The event that a draft becomes at the time `now`, with a signature that is had by asking for
one. Nobody is asked if it becomes none. -/
def signVia {m : Type → Type} [Monad m] (draft : Draft) (now : Int64) (publicKey : String)
    (ask : Bytes → m (Except NoteError String)) (form : CanonicalForm) :
    m (Except NoteError Event) :=
  match draft.build now publicKey form with
  | .error why => pure (.error why)
  | .ok event => event.signVia ask

/-- The event that a draft becomes at the time `now`, signed. -/
def signWith (draft : Draft) (now : Int64) (signer : Signer) (form : CanonicalForm) :
    Except NoteError Event :=
  Id.run (draft.signVia now signer.publicKey (fun payload => pure (signer.sign payload)) form)

end Draft

end RelayCheck.Note
