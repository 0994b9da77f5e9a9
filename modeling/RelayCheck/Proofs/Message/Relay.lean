import RelayCheck.Message.Relay
import RelayCheck.Proofs.Message.Envelope

/-!
Relay messages come back from their texts.

What a relay puts behind the parts of a message it may, and messages of other kinds are kept as they
are. Only the order of members is lost, and that is lost in reading already.
-/

set_option autoImplicit false

namespace RelayCheck.Message

open Json (Tree Value bind_eq_ok_iff)
open Note (Event orUnreadable orUnreadable_eq_ok_iff)

namespace RelayMessage

/-- The message is of a kind of its own. -/
def Known : RelayMessage → Prop
  | .unknown _ => False
  | .ok .. | .notice _ | .event .. | .eose _ | .closed .. => True

/-- How the messages of a kind of their own begin. -/
def knownLabels : List String :=
  ["OK", "NOTICE", "EVENT", "EOSE", "CLOSED"]

/-! ## Envelopes and the messages that are read from them -/

/-- The envelope is read as the message. Behind the parts of a message there may be anything. -/
inductive Carried : Envelope → RelayMessage → Prop
  | ok {eventId : String} {accepted : Bool} {further : List Value} :
      Carried ⟨"OK", .string eventId :: .bool accepted :: further⟩
        (.ok eventId accepted (Envelope.optionalString further))
  | notice {message : String} {further : List Value} :
      Carried ⟨"NOTICE", .string message :: further⟩ (.notice message)
  | event {subscription : String} {value : Value} {note : Event} {further : List Value}
      (read : Event.ofValue value = .ok note) :
      Carried ⟨"EVENT", .string subscription :: value :: further⟩ (.event subscription note)
  | eose {subscription : String} {further : List Value} :
      Carried ⟨"EOSE", .string subscription :: further⟩ (.eose subscription)
  | closed {subscription : String} {further : List Value} :
      Carried ⟨"CLOSED", .string subscription :: further⟩
        (.closed subscription (Envelope.optionalString further))
  | unknown {envelope : Envelope} (other : envelope.label ∉ knownLabels) :
      Carried envelope (.unknown envelope.toValue)

theorem carried_of_ofEnvelope {envelope : Envelope} {message : RelayMessage}
    (accepted : ofEnvelope envelope = .ok message) : Carried envelope message := by
  obtain ⟨label, contents⟩ := envelope
  unfold ofEnvelope at accepted
  dsimp only at accepted
  split_ifs at accepted with isOk isNotice isEvent isEose isClosed
  · obtain ⟨⟨eventId, rest⟩, leading, accepted⟩ := bind_eq_ok_iff.1 accepted
    dsimp only at accepted
    split at accepted
    · cases accepted
      rw [isOk, Envelope.leadingString_eq_ok_iff.1 leading]
      exact .ok
    · cases accepted
  · obtain ⟨⟨text, rest⟩, leading, accepted⟩ := bind_eq_ok_iff.1 accepted
    cases accepted
    rw [isNotice, Envelope.leadingString_eq_ok_iff.1 leading]
    exact .notice
  · obtain ⟨⟨subscription, rest⟩, leading, accepted⟩ := bind_eq_ok_iff.1 accepted
    cases rest with
    | nil => cases accepted
    | cons value further =>
      obtain ⟨note, read, accepted⟩ := bind_eq_ok_iff.1 accepted
      cases accepted
      rw [isEvent, Envelope.leadingString_eq_ok_iff.1 leading]
      exact .event (orUnreadable_eq_ok_iff.1 read)
  · obtain ⟨⟨subscription, rest⟩, leading, accepted⟩ := bind_eq_ok_iff.1 accepted
    cases accepted
    rw [isEose, Envelope.leadingString_eq_ok_iff.1 leading]
    exact .eose
  · obtain ⟨⟨subscription, rest⟩, leading, accepted⟩ := bind_eq_ok_iff.1 accepted
    cases accepted
    rw [isClosed, Envelope.leadingString_eq_ok_iff.1 leading]
    exact .closed
  · cases accepted
    exact .unknown (by simp [knownLabels, isOk, isNotice, isEvent, isEose, isClosed])

/-- The envelopes that are read are those that carry a message, and each carries one only. -/
theorem ofEnvelope_eq_ok_iff {envelope : Envelope} {message : RelayMessage} :
    ofEnvelope envelope = .ok message ↔ Carried envelope message := by
  constructor
  · exact carried_of_ofEnvelope
  · intro carried
    cases carried with
    | ok | notice | eose | closed => rfl
    | event read => simp [ofEnvelope, Envelope.leadingString, bind_eq_ok_iff, read, orUnreadable,
        pure, Except.pure]
    | unknown other =>
      simp only [knownLabels, List.mem_cons, not_or] at other
      obtain ⟨notOk, notNotice, notEvent, notEose, notClosed, -⟩ := other
      rw [ofEnvelope, if_neg notOk, if_neg notNotice, if_neg notEvent, if_neg notEose,
        if_neg notClosed]

/-- A text is read as a message of acceptance exactly if it is a text of an array that begins with
`"OK"`, the identifier and a boolean. -/
theorem ofText_eq_acceptance_iff {text eventId : String} {accepted : Bool} :
    (∃ message, ofText text = .ok (.ok eventId accepted message)) ↔
      ∃ further : List Value,
        (Envelope.toValue ⟨"OK", .string eventId :: .bool accepted :: further⟩).WrittenAs text ∧
        (Envelope.toValue ⟨"OK", .string eventId :: .bool accepted :: further⟩).nesting ≤
          Tree.depthLimit := by
  unfold ofText
  constructor
  · intro ⟨message, read⟩
    obtain ⟨inOrder, listed, read⟩ := bind_eq_ok_iff.1 read
    obtain ⟨⟨label, contents⟩, written, shallow, sorted⟩ := Envelope.ofText_eq_ok_iff.1 listed
    cases carried_of_ofEnvelope read with
    | ok =>
      obtain ⟨rfl, inside⟩ := Envelope.mk.inj sorted
      -- to put values in order makes neither strings nor booleans of others
      cases contents with
      | nil => cases inside
      | cons first rest =>
        obtain ⟨begins, later⟩ := List.cons.inj inside
        cases first <;> cases begins
        cases rest with
        | nil => cases later
        | cons second further =>
          obtain ⟨follows, -⟩ := List.cons.inj later
          cases second <;> cases follows
          exact ⟨further, written, shallow⟩
  · intro ⟨further, written, shallow⟩
    have listed := Envelope.ofText_eq_ok_iff.2 ⟨_, written, shallow, rfl⟩
    exact ⟨_, bind_eq_ok_iff.2 ⟨_, listed, ofEnvelope_eq_ok_iff.2 .ok⟩⟩

/-! ## Messages of a kind of their own -/

/-- A message of a kind of its own is found in its envelope whatever comes behind its parts. -/
theorem Known.exists_envelope {message : RelayMessage} (known : message.Known) :
    ∃ envelope : Envelope, message.toValue = envelope.toValue ∧
      Value.firstFloatItems? envelope.contents = none ∧
      Value.nestingItems envelope.contents < Tree.depthLimit ∧
      ∀ further, ofEnvelope (Envelope.sorted ⟨envelope.label, envelope.contents ++ further⟩) =
        .ok message := by
  cases message with
  | unknown value => exact known.elim
  | event subscription note =>
    refine ⟨⟨"EVENT", [.string subscription, note.toValue]⟩, rfl, ?_, ?_, ?_⟩
    · simp [Value.firstFloatItems?, Value.firstFloat?, note.firstFloat?_toValue]
    · have bound := Nat.lt_of_le_of_lt note.nesting_toValue_le (by decide : 3 < Tree.depthLimit)
      simpa [Value.nestingItems, Value.nesting] using bound
    · intro further
      simp only [Envelope.sorted, List.cons_append, Value.sortedItems, ofEnvelope,
        String.reduceEq, ↓reduceIte, Value.sorted, Envelope.leadingString, bind, Except.bind,
        note.sorted_toValue, note.ofValue_toValue]
      rfl
  | ok eventId accepted text => exact ⟨⟨"OK", _⟩, rfl, rfl, Nat.zero_lt_succ _, fun _ => rfl⟩
  | notice text => exact ⟨⟨"NOTICE", _⟩, rfl, rfl, Nat.zero_lt_succ _, fun _ => rfl⟩
  | eose subscription => exact ⟨⟨"EOSE", _⟩, rfl, rfl, Nat.zero_lt_succ _, fun _ => rfl⟩
  | closed subscription text => exact ⟨⟨"CLOSED", _⟩, rfl, rfl, Nat.zero_lt_succ _, fun _ => rfl⟩

theorem Known.ofText_toText {message : RelayMessage} (known : message.Known) :
    ofText message.toText = .ok message := by
  obtain ⟨envelope, same, whole, shallow, found⟩ := known.exists_envelope
  have alone := found []
  rw [List.append_nil] at alone
  rw [ofText, toText, same, envelope.ofText_toText whole shallow]
  exact alone

theorem Known.ofText_appendItems {message : RelayMessage} (known : message.Known)
    {further : List String} (readable : ∀ text ∈ further, ∃ value : Value,
      value.WrittenAs text ∧ value.nesting < Tree.depthLimit) :
    ofText (Envelope.appendItems message.toText further) = .ok message := by
  obtain ⟨envelope, same, whole, shallow, found⟩ := known.exists_envelope
  obtain ⟨values, read⟩ := envelope.ofText_appendItems whole shallow readable
  rw [ofText, toText, same, read]
  exact found values

/-! ## Other messages -/

theorem ofEnvelope_eq_unknown_iff {envelope : Envelope} {value : Value} :
    ofEnvelope envelope = .ok (.unknown value) ↔
      envelope.label ∉ knownLabels ∧ envelope.toValue = value := by
  rw [ofEnvelope_eq_ok_iff]
  constructor
  · intro carried
    cases carried with
    | unknown other => exact ⟨other, rfl⟩
  · intro ⟨other, same⟩
    exact same ▸ .unknown other

/-- A text is read as a message of another kind exactly if it is a text of an array with another
label, and then the message is that array. -/
theorem ofText_eq_unknown_iff {text : String} {value : Value} :
    ofText text = .ok (.unknown value) ↔
      ∃ envelope : Envelope, envelope.label ∉ knownLabels ∧ envelope.toValue.WrittenAs text ∧
        envelope.toValue.nesting ≤ Tree.depthLimit ∧ envelope.toValue.sorted = value := by
  unfold ofText
  constructor
  · intro accepted
    obtain ⟨inOrder, read, accepted⟩ := bind_eq_ok_iff.1 accepted
    obtain ⟨envelope, written, shallow, rfl⟩ := Envelope.ofText_eq_ok_iff.1 read
    obtain ⟨other, rfl⟩ := ofEnvelope_eq_unknown_iff.1 accepted
    exact ⟨envelope, other, written, shallow, envelope.sorted_toValue⟩
  · intro ⟨envelope, other, written, shallow, same⟩
    refine bind_eq_ok_iff.2 ⟨envelope.sorted, ?_, ?_⟩
    · exact Envelope.ofText_eq_ok_iff.2 ⟨envelope, written, shallow, rfl⟩
    · exact ofEnvelope_eq_unknown_iff.2 ⟨other, same⟩

/-- An array without floats, as it is once it was read, is read again from its text. -/
theorem ofText_toText_unknown {envelope : Envelope} (other : envelope.label ∉ knownLabels)
    (shallow : envelope.toValue.nesting ≤ Tree.depthLimit)
    (whole : envelope.toValue.sorted.Whole) :
    ofText (toText (.unknown envelope.toValue.sorted)) =
      .ok (.unknown envelope.toValue.sorted) := by
  refine ofText_eq_unknown_iff.2 ⟨envelope.sorted, other, ?_, ?_, envelope.toValue.sorted_sorted⟩
  · exact Value.writtenAs_toText _ (Value.firstFloat?_eq_none_iff.2 whole)
  · exact Nat.le_trans envelope.toValue.nesting_sorted_le shallow

/-! ## Whatever is read -/

/-- Messages of a kind of their own are read from their texts, also with further items behind them.
These must be texts of values: a number that overflows or half of a pair of surrogates is refused
wherever it stands in an array. Arrays with another label, and no others, are kept as they are, and
come back from their texts where no number in them is a float. So a text without floats that is read
at all is read as the same message once it is written anew. -/
theorem toText_preserves (message : RelayMessage) (text : String) :
    (message.Known → ofText message.toText = .ok message ∧
      ∀ further : List String,
        (∀ item ∈ further, ∃ value : Value, value.WrittenAs item ∧ value.nesting ≤ 126) →
        ofText (Envelope.appendItems message.toText further) = .ok message) ∧
    (∀ array : Envelope, array.toValue.WrittenAs text → array.toValue.nesting ≤ 127 →
      array.label ∉ ["OK", "NOTICE", "EVENT", "EOSE", "CLOSED"] →
      ofText text = .ok (.unknown array.toValue.sorted) ∧
        (array.toValue.Whole →
          ofText (toText (.unknown array.toValue.sorted)) =
            .ok (.unknown array.toValue.sorted))) ∧
    (∀ array : Envelope, array.toValue.WrittenAs text →
      array.label ∈ ["OK", "NOTICE", "EVENT", "EOSE", "CLOSED"] →
      ∀ value, ofText text ≠ .ok (.unknown value)) ∧
    (∀ value : Value, value.WrittenAs text → value.Whole → ofText text = .ok message →
      ofText message.toText = .ok message) := by
  refine ⟨?known, ?other, ?named, ?again⟩
  case known =>
    intro known
    refine ⟨known.ofText_toText, fun further readable => known.ofText_appendItems ?_⟩
    intro item inside
    obtain ⟨value, written, shallow⟩ := readable item inside
    exact ⟨value, written, Nat.lt_succ_of_le shallow⟩
  case other =>
    intro array written shallow other
    refine ⟨?_, fun whole => ofText_toText_unknown other shallow whole.sorted⟩
    exact ofText_eq_unknown_iff.2 ⟨array, other, written, shallow, rfl⟩
  case named =>
    intro array written named value accepted
    obtain ⟨other, unlike, again, -, -⟩ := ofText_eq_unknown_iff.1 accepted
    have same := written.sorted_eq again
    rw [array.sorted_toValue, other.sorted_toValue, Envelope.toValue_inj] at same
    have label : array.sorted.label = other.sorted.label := congrArg Envelope.label same
    exact unlike (label.subst named)
  case again =>
    intro value written whole accepted
    by_cases known : message.Known
    · exact known.ofText_toText
    · cases message with
      | unknown read =>
        obtain ⟨array, other, again, shallow, rfl⟩ := ofText_eq_unknown_iff.1 accepted
        have kept := whole.sorted
        rw [written.sorted_eq again] at kept
        exact ofText_toText_unknown other shallow kept
      | _ => exact absurd trivial known

/-- A message of another kind, with members that are out of order. -/
def challenge : Envelope :=
  ⟨"AUTH", [.object [("b", .null), ("a", .number (.whole 7 (by decide) (by decide)))]]⟩

theorem toText_preserves_challenge :
    ofText (Envelope.appendItems (eose "sub").toText ["[[]]", "\x7b\"a\":null\x7d"]) =
        .ok (eose "sub") ∧
      ofText challenge.toValue.toText = .ok (.unknown challenge.toValue.sorted) ∧
      ofText (toText (.unknown challenge.toValue.sorted)) =
        .ok (.unknown challenge.toValue.sorted) := by
  have whole : challenge.toValue.firstFloat? = none := by decide
  obtain ⟨known, other, -, -⟩ := toText_preserves (eose "sub") challenge.toValue.toText
  refine ⟨(known trivial).2 _ ?_, ?_⟩
  · intro item inside
    rcases List.mem_pair.1 inside with rfl | rfl
    · exact ⟨.array [.array []], Value.writtenAs_toText _ rfl, by decide⟩
    · exact ⟨.object [("a", .null)], Value.writtenAs_toText _ rfl, by decide⟩
  · obtain ⟨read, again⟩ :=
      other challenge (Value.writtenAs_toText _ whole) (by decide) (by decide)
    exact ⟨read, again (Value.firstFloat?_eq_none_iff.1 whole)⟩

end RelayMessage

end RelayCheck.Message
