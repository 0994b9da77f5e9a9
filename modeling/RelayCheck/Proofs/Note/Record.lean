import RelayCheck.Note.Event
import RelayCheck.Note.Filter
import RelayCheck.Proofs.Json.Agreement

/-!
Events and filters come back from their values, and events from their texts.

They are read alike from a text and from the value that the text stands for.
-/

set_option autoImplicit false

namespace RelayCheck.Note

open Json (Value)

theorem orUnreadable_eq_ok_iff {Data : Type} {read : Except Json.ReadError Data} {data : Data} :
    orUnreadable read = .ok data ↔ read = .ok data := by
  cases read <;> simp [orUnreadable]

namespace Event

theorem sound_layout : layout.Sound where
  complete field := by cases field <;> decide
  once := by decide
  named left right := by cases left <;> cases right <;> decide
  faithful field := by cases field <;> trivial

@[simp]
theorem ofFilled_filled (event : Event) : ofFilled event.filled = .ok event := rfl

theorem firstFloat?_toValue (event : Event) : event.toValue.firstFloat? = none :=
  Json.Layout.firstFloat?_drawn fun _ inside => Value.mem_of_mem_sortMembers inside

theorem free_kind (field : Field) : (layout.kind field).Free := by
  cases field <;> trivial

theorem nesting_kind_le (field : Field) : (layout.kind field).nesting ≤ 2 := by
  cases field <;> decide

theorem nesting_toValue_le (event : Event) : event.toValue.nesting ≤ 3 :=
  Json.Layout.nesting_drawn_le nesting_kind_le fun _ inside =>
    Value.mem_of_mem_sortMembers inside

theorem sorted_toValue (event : Event) : event.toValue.sorted = event.toValue :=
  Json.Layout.sorted_record event.filled

theorem ofValue_toValue (event : Event) : ofValue event.toValue = .ok event := by
  rw [ofValue, toValue, sound_layout.ofValue_record]
  exact event.ofFilled_filled

/-- An event is read alike from a text and from the value that the text stands for. -/
theorem ofText_eq_ok_iff {value : Value} {text : String} (written : value.WrittenAs text)
    (once : layout.Unrepeated value) {event : Event} :
    ofText text = .ok event ↔ ofValue value.sorted = .ok event :=
  orUnreadable_eq_ok_iff.trans
    (sound_layout.document_read_eq_ok_iff free_kind false ofFilled written once)

theorem writtenAs_toText (event : Event) :
    (Value.object (layout.members event.filled)).WrittenAs event.toText :=
  Value.writtenAs_toText _ (Json.Layout.firstFloat?_drawn fun _ inside => inside)

theorem sorted_members (event : Event) :
    (Value.object (layout.members event.filled)).sorted = event.toValue :=
  Json.Layout.sorted_members event.filled

/-- An event is read back from its text. -/
theorem ofText_toText (event : Event) : ofText event.toText = .ok event := by
  rw [ofText_eq_ok_iff event.writtenAs_toText (sound_layout.unrepeated_members event.filled),
    sorted_members]
  exact event.ofValue_toValue

/-- The text of an event is read as the event among other values. -/
theorem ofText_toText_value (event : Event) : Value.ofText event.toText = .ok event.toValue := by
  have shallow : (Value.object (layout.members event.filled)).nesting ≤ 3 :=
    Json.Layout.nesting_drawn_le nesting_kind_le fun _ inside => inside
  exact Value.ofText_eq_ok_iff.2
    ⟨_, event.writtenAs_toText, Nat.le_trans shallow (by decide), event.sorted_members⟩

end Event

namespace Filter

theorem sound_layout : layout.Sound where
  complete field := by cases field <;> decide
  once := by decide
  named left right := by cases left <;> cases right <;> decide
  faithful field := by cases field <;> trivial

@[simp]
theorem ofFilled_filled (filter : Filter) : ofFilled filter.filled = filter := by
  obtain ⟨ids, authors, kinds, since, upTo, limit⟩ := filter
  cases ids <;> cases authors <;> cases kinds <;> cases since <;> cases upTo <;> cases limit <;> rfl

theorem firstFloat?_toValue (filter : Filter) : filter.toValue.firstFloat? = none :=
  Json.Layout.firstFloat?_drawn fun _ inside => Value.mem_of_mem_sortMembers inside

theorem free_kind (field : Field) : (layout.kind field).Free := by
  cases field <;> trivial

theorem nesting_kind_le (field : Field) : (layout.kind field).nesting ≤ 1 := by
  cases field <;> decide

theorem nesting_toValue_le (filter : Filter) : filter.toValue.nesting ≤ 2 :=
  Json.Layout.nesting_drawn_le nesting_kind_le fun _ inside =>
    Value.mem_of_mem_sortMembers inside

theorem sorted_toValue (filter : Filter) : filter.toValue.sorted = filter.toValue :=
  Json.Layout.sorted_record filter.filled

theorem ofValue_toValue (filter : Filter) : ofValue filter.toValue = .ok filter := by
  rw [ofValue, toValue, sound_layout.ofValue_record]
  exact congrArg Except.ok (ofFilled_filled filter)

/-- A filter is read alike from a text and from the value that the text stands for. -/
theorem ofText_eq_ok_iff {value : Value} {text : String} (written : value.WrittenAs text)
    (once : layout.Unrepeated value) {filter : Filter} :
    ofText text = .ok filter ↔ ofValue value.sorted = .ok filter :=
  sound_layout.document_read_eq_ok_iff free_kind true (fun filled => .ok (ofFilled filled)) written
    once

theorem writtenAs_toText (filter : Filter) :
    (Value.object (layout.members filter.filled)).WrittenAs filter.toText :=
  Value.writtenAs_toText _ (Json.Layout.firstFloat?_drawn fun _ inside => inside)

theorem ofText_toText (filter : Filter) : ofText filter.toText = .ok filter := by
  rw [ofText_eq_ok_iff filter.writtenAs_toText (sound_layout.unrepeated_members filter.filled)]
  have sorted : (Value.object (layout.members filter.filled)).sorted = filter.toValue :=
    Json.Layout.sorted_members filter.filled
  rw [sorted]
  exact filter.ofValue_toValue

end Filter

end RelayCheck.Note
