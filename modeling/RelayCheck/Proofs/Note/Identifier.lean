import RelayCheck.Note.Draft
import RelayCheck.Proofs.Json.Members
import RelayCheck.Proofs.Text.Hex

/-!
Identifiers and signatures always exist.

Neither canonical form of an event holds a number that is not whole, so an event always has an
identifier, which depends on the contents alone and is never empty. An event with an identifier can
always be signed: only the signer can refuse.
-/

set_option autoImplicit false

namespace RelayCheck.Note

open Json (Value)

theorem canonicalText_of_whole {value : Value} (whole : value.firstFloat? = none) :
    canonicalText value = .ok value.sorted.toText := by
  rw [canonicalText, Value.canonical_of_whole whole]

namespace Event

@[simp]
theorem firstFloat?_wholeValue (width : Json.Width) (number : width.Data) :
    (wholeValue width number).firstFloat? = none := by
  cases width <;> rfl

@[simp]
theorem firstFloat?_tagsValue (tags : List (List String)) :
    (tagsValue tags).firstFloat? = none := by
  rw [tagsValue, Value.firstFloat?, Value.firstFloatItems?_eq_none_iff]
  intro item member
  obtain ⟨tag, -, rfl⟩ := List.mem_map.1 member
  rw [Value.firstFloat?, Value.firstFloatItems?_eq_none_iff]
  intro part member
  obtain ⟨text, -, rfl⟩ := List.mem_map.1 member
  rw [Value.firstFloat?]

theorem firstFloat?_canonicalValue (event : Event) (form : CanonicalForm) :
    (event.canonicalValue form).firstFloat? = none := by
  cases form with
  | sortedObject =>
    simp only [canonicalValue, Value.firstFloat?, Value.firstFloatMembers?,
      firstFloat?_wholeValue, firstFloat?_tagsValue, Option.or_none]
  | nip01 =>
    simp only [canonicalValue, Value.firstFloat?, Value.firstFloatItems?,
      firstFloat?_wholeValue, firstFloat?_tagsValue, Option.or_none]

theorem firstFloat?_payloadValue (event : Event) : event.payloadValue.firstFloat? = none := by
  simp only [payloadValue, Value.firstFloat?, Value.firstFloatMembers?,
    firstFloat?_wholeValue, firstFloat?_tagsValue, Option.or_none]

def identifier (event : Event) (form : CanonicalForm) : String :=
  Text.Hex.encode
    (Digest.sha256 (Text.Utf8.encode (event.canonicalValue form).sorted.toText))

@[simp]
theorem computeIdentifier_eq (event : Event) (form : CanonicalForm) :
    event.computeIdentifier form = .ok (event.identifier form) := by
  rw [computeIdentifier, canonicalize,
    canonicalText_of_whole (event.firstFloat?_canonicalValue form)]
  rfl

theorem length_toList_identifier (event : Event) (form : CanonicalForm) :
    (event.identifier form).toList.length = 64 := by
  rw [identifier, Text.Hex.length_toList_encode, Digest.length_sha256]

theorem identifier_ne_empty (event : Event) (form : CanonicalForm) :
    event.identifier form ≠ "" := by
  intro empty
  have length := event.length_toList_identifier form
  rw [empty] at length
  exact absurd length (by decide)

/-- The identifier depends on the contents alone. -/
theorem identifier_congr (event : Event) (form : CanonicalForm) (id sig : String) :
    identifier { event with id, sig } form = event.identifier form := by
  cases form <;> rfl

theorem refreshIdentifier_eq (event : Event) (form : CanonicalForm) :
    event.refreshIdentifier form = .ok { event with id := event.identifier form, sig := "" } := by
  rw [refreshIdentifier, computeIdentifier_eq]
  rfl

/-- An identifier is accepted exactly if it is the one that belongs to the contents. -/
theorem verifyIdentifier_eq_ok_iff (event : Event) (form : CanonicalForm) :
    event.verifyIdentifier form = .ok () ↔ event.identifier form = event.id := by
  rw [verifyIdentifier, computeIdentifier_eq]
  simp only [bind, Except.bind]
  constructor
  · intro accepted
    split at accepted
    · next same => exact eq_of_beq same
    · cases accepted
  · intro same
    rw [if_pos (beq_iff_eq.2 same)]

theorem verifyIdentifier_of_ne {event : Event} {form : CanonicalForm}
    (different : event.identifier form ≠ event.id) :
    event.verifyIdentifier form = .error (.invalidEvent "Event ID mismatch") := by
  rw [verifyIdentifier, computeIdentifier_eq]
  simp only [bind, Except.bind]
  rw [if_neg (by simpa using different)]

def payload (event : Event) : Bytes :=
  Text.Utf8.encode event.payloadValue.sorted.toText

/-- An event with an identifier can be signed, whatever its identifier is. -/
theorem signingPayload_eq {event : Event} (identified : event.id ≠ "") :
    event.signingPayload = .ok event.payload := by
  have full : ¬ event.id.isEmpty = true := by
    rwa [String.isEmpty_iff]
  rw [signingPayload, if_neg full, canonicalText_of_whole event.firstFloat?_payloadValue]
  rfl

theorem signVia_of_identified {m : Type → Type} [Monad m] {event : Event}
    (identified : event.id ≠ "") (ask : Bytes → m (Except NoteError String)) :
    event.signVia ask = do
      let answer ← ask event.payload
      return answer.map fun sig => { event with sig } := by
  rw [signVia, signingPayload_eq identified]

theorem sign_eq_bind (event : Event) (signer : Signer) :
    event.sign signer = do return { event with sig := ← signer.sign (← event.signingPayload) } := by
  rw [sign, signVia]
  cases event.signingPayload with
  | error why => rfl
  | ok payload =>
    simp only [bind, Except.bind]
    cases signer.sign payload <;> rfl

theorem sign_eq {event : Event} (identified : event.id ≠ "") (signer : Signer) :
    event.sign signer =
      (signer.sign event.payload).map fun sig => { event with sig } := by
  rw [sign, signVia_of_identified identified]
  rfl

end Event

namespace Draft

theorem build_eq {draft : Draft} {content : String}
    (text : draft.content = Text.Utf8.encode content) (now : Int64) (pubkey : String)
    (form : CanonicalForm) :
    draft.build now pubkey form =
      (Event.new pubkey content draft.kind draft.tags
        (draft.createdAt.getD now)).refreshIdentifier form := by
  simp only [build, text, Text.Utf8.decode_encode]

theorem signWith_eq_bind (draft : Draft) (now : Int64) (signer : Signer) (form : CanonicalForm) :
    draft.signWith now signer form = draft.build now signer.publicKey form >>= (·.sign signer) := by
  rw [signWith, signVia]
  cases draft.build now signer.publicKey form <;> rfl

end Draft

end RelayCheck.Note
