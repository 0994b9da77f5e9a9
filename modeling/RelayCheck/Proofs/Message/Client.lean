import RelayCheck.Message.Client
import RelayCheck.Proofs.Message.Envelope

/-!
Client messages come back from their texts.
-/

set_option autoImplicit false

namespace RelayCheck.Message

open Json (Value)
open Note (Event Filter)

namespace ClientMessage

theorem firstFloatItems?_contents (message : ClientMessage) :
    Value.firstFloatItems? message.contents = none := by
  rw [Value.firstFloatItems?_eq_none_iff]
  cases message with
  | event note => simp [contents, Event.firstFloat?_toValue]
  | req subscription filters =>
    simp [contents, Value.firstFloat?, Filter.firstFloat?_toValue]
  | close subscription => simp [contents, Value.firstFloat?]

theorem nestingItems_contents_le (message : ClientMessage) :
    Value.nestingItems message.contents ≤ 3 := by
  rw [Value.nestingItems_le_iff]
  cases message with
  | event note => simpa [contents] using note.nesting_toValue_le
  | req subscription filters =>
    intro item member
    rcases List.mem_cons.1 member with rfl | member
    · exact Nat.zero_le _
    · obtain ⟨filter, -, rfl⟩ := List.mem_map.1 member
      exact Nat.le_succ_of_le filter.nesting_toValue_le
  | close subscription => simp [contents, Value.nesting]

theorem readFilters_sorted (filters : List Filter) :
    readFilters (Value.sortedItems (filters.map Filter.toValue)) = .ok filters := by
  induction filters with
  | nil => rfl
  | cons filter rest ih =>
    simp only [List.map_cons, Value.sortedItems, readFilters, filter.sorted_toValue,
      filter.ofValue_toValue, ih]
    rfl

theorem ofEnvelope_sorted (message : ClientMessage) :
    ofEnvelope ⟨message.label, Value.sortedItems message.contents⟩ = .ok message := by
  cases message with
  | event note =>
    simp only [label, contents, Value.sortedItems, ofEnvelope, note.sorted_toValue,
      note.ofValue_toValue]
    rfl
  | req subscription filters =>
    simp only [label, contents, Value.sortedItems, Value.sorted, ofEnvelope,
      Envelope.leadingString, bind, Except.bind, readFilters_sorted]
    rfl
  | close subscription => rfl

/-- Every message is read back from its text. -/
@[simp]
theorem ofText_toText (message : ClientMessage) : ofText message.toText = .ok message := by
  have read := Envelope.ofText_toText ⟨message.label, message.contents⟩
    message.firstFloatItems?_contents
    (Nat.lt_of_le_of_lt message.nestingItems_contents_le (by decide))
  rw [ofText, toText, toValue, read]
  exact message.ofEnvelope_sorted

/-- Every message has a text, and is what that text is read as. So the texts of messages are normal
forms: any text that is read at all is read as the same message once it is written anew. -/
theorem toText_normalizes (message : ClientMessage) (text : String) :
    ofText message.toText = .ok message ∧ (do ofText (← ofText text).toText) = ofText text := by
  refine ⟨message.ofText_toText, ?_⟩
  cases ofText text with
  | error why => rfl
  | ok read => exact read.ofText_toText

-- a filter that restricts nothing and one that lets no kind through are not the same
example : (req "sub" [.new, Filter.new.withKinds []]).toText =
    "[\"REQ\",\"sub\",\x7b\x7d,\x7b\"kinds\":[]\x7d]" := by
  decide +kernel

end ClientMessage

end RelayCheck.Message
