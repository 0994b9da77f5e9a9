import RelayCheck.Proofs.Json.Canonical
import RelayCheck.Proofs.Json.Layout
import RelayCheck.Proofs.Note.Identifier

/-!
Identifiers and signatures bind every field.

What is hashed and what is signed is the text of a value in order, and such a text can be the text
of one value only. It remains to tell the values apart: those of the two canonical forms are an
object and an array, and what is signed is an object with one member more.
-/

set_option autoImplicit false

namespace RelayCheck.Note.Event

open Json (Kind Value Width)

/-- Two events agree in everything but their identifiers and their signatures. -/
structure SameContents (left right : Event) : Prop where
  pubkey : left.pubkey = right.pubkey
  createdAt : left.createdAt = right.createdAt
  kind : left.kind = right.kind
  tags : left.tags = right.tags
  content : left.content = right.content

/-! ## Values in order -/

theorem wholeValue_inj {width : Width} {left right : width.Data} :
    wholeValue width left = wholeValue width right ↔ left = right :=
  (Kind.whole width).toValue_inj trivial

theorem tagsValue_inj {left right : List (List String)} :
    tagsValue left = tagsValue right ↔ left = right :=
  (Kind.list (.list .string)).toValue_inj trivial

theorem sorted_tagsValue (tags : List (List String)) : (tagsValue tags).sorted = tagsValue tags :=
  (Kind.list (.list .string)).sorted_toValue tags

theorem sorted_wholeValue (width : Width) (number : width.Data) :
    (wholeValue width number).sorted = wholeValue width number := rfl

theorem sorted_canonicalValue_sortedObject (event : Event) :
    (event.canonicalValue .sortedObject).sorted =
      .object
        [("content", .string event.content),
         ("created_at", wholeValue .i64 event.createdAt),
         ("kind", wholeValue .u16 event.kind),
         ("pubkey", .string event.pubkey),
         ("tags", tagsValue event.tags)] := by
  simp only [canonicalValue, Value.sorted, Value.sortedMembers, sorted_wholeValue,
    sorted_tagsValue, Value.sortMembers, List.foldl_cons, List.foldl_nil]
  rfl

theorem sorted_canonicalValue_nip01 (event : Event) :
    (event.canonicalValue .nip01).sorted = event.canonicalValue .nip01 := by
  simp only [canonicalValue, Value.sorted, Value.sortedItems, sorted_wholeValue, sorted_tagsValue]

theorem sorted_payloadValue (event : Event) :
    event.payloadValue.sorted =
      .object
        [("content", .string event.content),
         ("created_at", wholeValue .i64 event.createdAt),
         ("id", .string event.id),
         ("kind", wholeValue .u16 event.kind),
         ("pubkey", .string event.pubkey),
         ("tags", tagsValue event.tags)] := by
  simp only [payloadValue, Value.sorted, Value.sortedMembers, sorted_wholeValue,
    sorted_tagsValue, Value.sortMembers, List.foldl_cons, List.foldl_nil]
  rfl

/-- A canonical value tells its form and the contents of its event. -/
theorem sorted_canonicalValue_inj {left right : Event} {leftForm rightForm : CanonicalForm} :
    (left.canonicalValue leftForm).sorted = (right.canonicalValue rightForm).sorted ↔
      leftForm = rightForm ∧ SameContents left right := by
  cases leftForm with
  | sortedObject =>
    cases rightForm with
    | sortedObject =>
      simp only [sorted_canonicalValue_sortedObject, Value.object.injEq, List.cons.injEq,
        Prod.mk.injEq, Value.string.injEq, wholeValue_inj, tagsValue_inj, true_and, and_true]
      constructor
      · rintro ⟨content, createdAt, kind, pubkey, tags⟩
        exact ⟨pubkey, createdAt, kind, tags, content⟩
      · rintro ⟨pubkey, createdAt, kind, tags, content⟩
        exact ⟨content, createdAt, kind, pubkey, tags⟩
    | nip01 =>
      rw [sorted_canonicalValue_sortedObject, sorted_canonicalValue_nip01]
      exact ⟨nofun, nofun⟩
  | nip01 =>
    cases rightForm with
    | sortedObject =>
      rw [sorted_canonicalValue_sortedObject, sorted_canonicalValue_nip01]
      exact ⟨nofun, nofun⟩
    | nip01 =>
      rw [sorted_canonicalValue_nip01, sorted_canonicalValue_nip01]
      simp only [canonicalValue, Value.array.injEq, List.cons.injEq, Value.string.injEq,
        wholeValue_inj, tagsValue_inj, true_and, and_true]
      constructor
      · rintro ⟨pubkey, createdAt, kind, tags, content⟩
        exact ⟨pubkey, createdAt, kind, tags, content⟩
      · rintro ⟨pubkey, createdAt, kind, tags, content⟩
        exact ⟨pubkey, createdAt, kind, tags, content⟩

theorem sorted_payloadValue_inj {left right : Event} :
    left.payloadValue.sorted = right.payloadValue.sorted ↔
      left.id = right.id ∧ SameContents left right := by
  simp only [sorted_payloadValue, Value.object.injEq, List.cons.injEq, Prod.mk.injEq,
    Value.string.injEq, wholeValue_inj, tagsValue_inj, true_and, and_true]
  constructor
  · rintro ⟨content, createdAt, id, kind, pubkey, tags⟩
    exact ⟨id, pubkey, createdAt, kind, tags, content⟩
  · rintro ⟨id, pubkey, createdAt, kind, tags, content⟩
    exact ⟨content, createdAt, id, kind, pubkey, tags⟩

theorem sorted_payloadValue_ne (left right : Event) (form : CanonicalForm) :
    left.payloadValue.sorted ≠ (right.canonicalValue form).sorted := by
  rw [sorted_payloadValue]
  cases form with
  | sortedObject =>
    -- the third member is the identifier here and the kind there
    rw [sorted_canonicalValue_sortedObject]
    simp
  | nip01 =>
    rw [sorted_canonicalValue_nip01]
    exact nofun

/-! ## Octets -/

def canonicalOctets (event : Event) (form : CanonicalForm) : Bytes :=
  Text.Utf8.encode (event.canonicalValue form).sorted.toText

@[simp]
theorem canonicalize_eq (event : Event) (form : CanonicalForm) :
    event.canonicalize form = .ok (event.canonicalOctets form) := by
  rw [canonicalize, canonicalText_of_whole (event.firstFloat?_canonicalValue form)]
  rfl

theorem canonicalOctets_inj {left right : Event} {leftForm rightForm : CanonicalForm} :
    left.canonicalOctets leftForm = right.canonicalOctets rightForm ↔
      leftForm = rightForm ∧ SameContents left right := by
  rw [canonicalOctets, canonicalOctets, Text.Utf8.encode_inj,
    Value.toText_sorted_inj (left.firstFloat?_canonicalValue leftForm)
      (right.firstFloat?_canonicalValue rightForm),
    sorted_canonicalValue_inj]

theorem payload_inj {left right : Event} :
    left.payload = right.payload ↔ left.id = right.id ∧ SameContents left right := by
  rw [payload, payload, Text.Utf8.encode_inj,
    Value.toText_sorted_inj left.firstFloat?_payloadValue right.firstFloat?_payloadValue,
    sorted_payloadValue_inj]

theorem payload_ne_canonicalOctets (left right : Event) (form : CanonicalForm) :
    left.payload ≠ right.canonicalOctets form := by
  rw [payload, canonicalOctets, ne_eq, Text.Utf8.encode_inj,
    Value.toText_sorted_inj left.firstFloat?_payloadValue (right.firstFloat?_canonicalValue form)]
  exact sorted_payloadValue_ne left right form

theorem identifier_eq_iff {left right : Event} {leftForm rightForm : CanonicalForm} :
    left.identifier leftForm = right.identifier rightForm ↔
      Digest.sha256 (left.canonicalOctets leftForm) =
        Digest.sha256 (right.canonicalOctets rightForm) :=
  Text.Hex.encode_inj

/-- Every event has octets that are hashed, and they are those of its form and its contents only.
The same holds of what is signed, and of the identifier as well, and nothing that is signed is
ever hashed for an identifier. Two identifiers that are the same without need are two messages with
one digest. -/
theorem octets_bind_contents (left right : Event) (leftForm rightForm : CanonicalForm) :
    ∃ leftOctets rightOctets,
      left.canonicalize leftForm = .ok leftOctets ∧
      right.canonicalize rightForm = .ok rightOctets ∧
      (leftOctets = rightOctets ↔ leftForm = rightForm ∧ SameContents left right) ∧
      (left.id ≠ "" → right.id ≠ "" →
        ∃ leftPayload rightPayload,
          left.signingPayload = .ok leftPayload ∧
          right.signingPayload = .ok rightPayload ∧
          (leftPayload = rightPayload ↔ left.id = right.id ∧ SameContents left right)) ∧
      left.signingPayload ≠ .ok rightOctets ∧
      (left.computeIdentifier leftForm = right.computeIdentifier rightForm →
        leftForm = rightForm ∧ SameContents left right ∨
          leftOctets ≠ rightOctets ∧
            Digest.sha256 leftOctets = Digest.sha256 rightOctets) := by
  refine ⟨left.canonicalOctets leftForm, right.canonicalOctets rightForm,
    left.canonicalize_eq leftForm, right.canonicalize_eq rightForm, canonicalOctets_inj,
    ?signed, ?apart, ?collision⟩
  case signed =>
    intro leftIdentified rightIdentified
    exact ⟨left.payload, right.payload, signingPayload_eq leftIdentified,
      signingPayload_eq rightIdentified, payload_inj⟩
  case apart =>
    by_cases identified : left.id = ""
    · intro signed
      rw [signingPayload, identified] at signed
      cases signed
    · rw [signingPayload_eq identified]
      intro signed
      exact payload_ne_canonicalOctets left right rightForm (Except.ok.inj signed)
  case collision =>
    intro identified
    rw [computeIdentifier_eq, computeIdentifier_eq, Except.ok.injEq, identifier_eq_iff]
      at identified
    by_cases same : left.canonicalOctets leftForm = right.canonicalOctets rightForm
    · exact .inl (canonicalOctets_inj.1 same)
    · exact .inr ⟨same, identified⟩

/-- One tag of two parts. -/
def oneTag : Event :=
  ⟨"id", "author", 0, 1, [["a", "b"]], "text", ""⟩

/-- Two tags of one part each. -/
def twoTags : Event :=
  { oneTag with tags := [["a"], ["b"]] }

theorem octets_bind_contents_tags :
    oneTag.id ≠ "" ∧ twoTags.id ≠ "" ∧
      oneTag.canonicalize .nip01 ≠ twoTags.canonicalize .nip01 ∧
      oneTag.signingPayload ≠ twoTags.signingPayload := by
  obtain ⟨leftOctets, rightOctets, leftCanonical, rightCanonical, bound, signed, -⟩ :=
    octets_bind_contents oneTag twoTags .nip01 .nip01
  obtain ⟨leftPayload, rightPayload, leftSigned, rightSigned, boundPayload⟩ :=
    signed (by decide) (by decide)
  have different : ¬ SameContents oneTag twoTags := fun same => by cases same.tags
  refine ⟨by decide, by decide, ?_, ?_⟩
  · rw [leftCanonical, rightCanonical]
    intro same
    exact different (bound.1 (Except.ok.inj same)).2
  · rw [leftSigned, rightSigned]
    intro same
    exact different (boundPayload.1 (Except.ok.inj same)).2

end RelayCheck.Note.Event
