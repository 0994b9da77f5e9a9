import RelayCheck.Message.Client
import RelayCheck.Proofs.Json.Same
import RelayCheck.Proofs.Note.Binding
import RelayCheck.Proofs.Note.Record

/-!
The texts of an event agree.

An event is written field by field, as a member of a message, and in the forms that are hashed and
signed. All of them are canonical texts of what the first one is read as, or of parts of that.
-/

set_option autoImplicit false

namespace RelayCheck.Note

open Json (Value)
open Message (ClientMessage)

/-- To put a value in order does not change its canonical text. -/
theorem canonicalText_sorted (value : Value) :
    canonicalText value.sorted = canonicalText value := by
  unfold canonicalText Value.canonical
  rw [Value.sorted_sorted]

namespace Event

theorem members_filled (event : Event) :
    layout.members event.filled =
      [("id", .string event.id),
       ("pubkey", .string event.pubkey),
       ("created_at", wholeValue .i64 event.createdAt),
       ("kind", wholeValue .u16 event.kind),
       ("tags", tagsValue event.tags),
       ("content", .string event.content),
       ("sig", .string event.sig)] := rfl

theorem toValue_eq (event : Event) :
    event.toValue = .object
      [("content", .string event.content),
       ("created_at", wholeValue .i64 event.createdAt),
       ("id", .string event.id),
       ("kind", wholeValue .u16 event.kind),
       ("pubkey", .string event.pubkey),
       ("sig", .string event.sig),
       ("tags", tagsValue event.tags)] := by
  rw [toValue, members_filled]
  simp only [Value.sortMembers, List.foldl_cons, List.foldl_nil]
  rfl

theorem toText_message (event : Event) :
    (ClientMessage.event event).toText = "[\"EVENT\"," ++ event.toValue.toText ++ "]" := by
  have texts : (ClientMessage.event event).toText =
      Value.arrayText ["\"EVENT\"", event.toValue.toText] :=
    Value.toText_array [.string "EVENT", event.toValue]
  rw [texts, ← String.toList_inj]
  simp [Value.arrayText]

/-- What the text of an event is read as has the members of the event and no others. Its canonical
text is the one inside a message; without the signature it is what is signed, without the identifier
as well it is the sorted form, and the values of its members in a row are the other form. -/
theorem serializations_agree (event : Event) :
    ∃ members, Value.ofText event.toText = .ok (.object members) ∧
      (Value.names members).Perm
        ["id", "pubkey", "created_at", "kind", "tags", "content", "sig"] ∧
      (∃ text, canonicalText (.object members) = .ok text ∧
        (ClientMessage.event event).toText = "[\"EVENT\"," ++ text ++ "]") ∧
      (event.id ≠ "" →
        ∃ text, canonicalText (.object (members.filter (·.1 != "sig"))) = .ok text ∧
          event.signingPayload = .ok (Text.Utf8.encode text)) ∧
      (∃ text,
        canonicalText (.object (members.filter fun member =>
          member.1 != "sig" && member.1 != "id")) = .ok text ∧
        event.canonicalize .sortedObject = .ok (Text.Utf8.encode text)) ∧
      ∃ pubkey createdAt kind tags content,
        Value.lookup? "pubkey" members = some pubkey ∧
        Value.lookup? "created_at" members = some createdAt ∧
        Value.lookup? "kind" members = some kind ∧
        Value.lookup? "tags" members = some tags ∧
        Value.lookup? "content" members = some content ∧
        ∃ text,
          canonicalText (.array [.number (.whole 0 (by decide) (by decide)), pubkey, createdAt,
            kind, tags, content]) = .ok text ∧
          event.canonicalize .nip01 = .ok (Text.Utf8.encode text) := by
  have read := event.ofText_toText_value
  rw [toValue_eq] at read
  refine ⟨_, read, ?named, ?message, ?signed, ?sortedObject, ?nip01⟩
  case named =>
    have moved : ["content", "created_at", "id", "kind", "pubkey", "sig", "tags"].Perm
        ["id", "pubkey", "created_at", "kind", "tags", "content", "sig"] := by
      decide
    exact moved
  case message =>
    refine ⟨event.toValue.toText, ?_, event.toText_message⟩
    rw [← toValue_eq, canonicalText_of_whole event.firstFloat?_toValue, sorted_toValue]
  case signed =>
    intro identified
    refine ⟨event.payloadValue.sorted.toText, ?_, signingPayload_eq identified⟩
    rw [← canonicalText_of_whole event.firstFloat?_payloadValue,
      ← canonicalText_sorted event.payloadValue, sorted_payloadValue]
    rfl
  case sortedObject =>
    refine ⟨(event.canonicalValue .sortedObject).sorted.toText, ?_,
      event.canonicalize_eq .sortedObject⟩
    rw [← canonicalText_of_whole (event.firstFloat?_canonicalValue .sortedObject),
      ← canonicalText_sorted (event.canonicalValue .sortedObject),
      sorted_canonicalValue_sortedObject]
    rfl
  case nip01 =>
    refine ⟨_, _, _, _, _, rfl, rfl, rfl, rfl, rfl,
      (event.canonicalValue .nip01).sorted.toText, ?_, event.canonicalize_eq .nip01⟩
    rw [← canonicalText_of_whole (event.firstFloat?_canonicalValue .nip01)]
    rfl

/-- An event with characters that are escaped, and with an identifier. -/
def escaped : Event :=
  ⟨"id", "author", -5, 1, [["t", "\x00"]], "\"line\"\n", "sig"⟩

theorem serializations_agree_escaped :
    escaped.id ≠ "" ∧ ∃ members, Value.ofText escaped.toText = .ok (.object members) ∧
      ∃ text, canonicalText (.object (members.filter (·.1 != "sig"))) = .ok text ∧
        escaped.signingPayload = .ok (Text.Utf8.encode text) := by
  have identified : escaped.id ≠ "" := by decide
  obtain ⟨members, read, -, -, signed, -⟩ := escaped.serializations_agree
  exact ⟨identified, members, read, signed identified⟩

end Event

end RelayCheck.Note
