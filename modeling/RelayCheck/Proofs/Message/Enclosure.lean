import RelayCheck.Proofs.Json.Legible
import RelayCheck.Proofs.Message.Client
import RelayCheck.Proofs.Message.Relay

/-!
Events and filters are read alike by themselves and inside messages.

By itself a record is read while its text is gone through. Inside a message the whole array is read
first, and the record from the value that was found there. A number that overflows or half of a pair
of surrogates is a fault there wherever it stands, but not a fault by itself in a member that is no
field.
-/

set_option autoImplicit false

namespace RelayCheck.Message

open Json (Tree Value bind_eq_ok_iff)
open Note (Event Filter orUnreadable_eq_ok_iff)

theorem ClientMessage.ofEnvelope_event_iff {value : Value} {note : Event} :
    ofEnvelope ⟨"EVENT", [value]⟩ = .ok (.event note) ↔ Event.ofValue value = .ok note := by
  simp [ofEnvelope, bind_eq_ok_iff, orUnreadable_eq_ok_iff, pure, Except.pure]

theorem ClientMessage.ofEnvelope_req_iff {subscription : String} {value : Value}
    {filter : Filter} :
    ofEnvelope ⟨"REQ", [.string subscription, value]⟩ = .ok (.req subscription [filter]) ↔
      Filter.ofValue value = .ok filter := by
  simp [ofEnvelope, Envelope.leadingString, readFilters, bind_eq_ok_iff, orUnreadable_eq_ok_iff,
    pure, Except.pure]

theorem RelayMessage.ofEnvelope_event_iff {subscription : String} {value : Value} {note : Event} :
    ofEnvelope ⟨"EVENT", [.string subscription, value]⟩ = .ok (.event subscription note) ↔
      Event.ofValue value = .ok note := by
  simp [ofEnvelope, Envelope.leadingString, bind_eq_ok_iff, orUnreadable_eq_ok_iff, pure,
    Except.pure]

/-! ## What stands for a value -/

section Meant

variable {value : Value} {text : String} (written : value.WrittenAs text)
  (shallow : value.nesting < Tree.depthLimit)

include written shallow

theorem ClientMessage.ofText_event_iff {note : Event} :
    ofText (Value.arrayText [(Value.string "EVENT").toText, text]) = .ok (.event note) ↔
      Event.ofValue value.sorted = .ok note := by
  have bound : Value.nestingItems [value] < Tree.depthLimit := by
    simpa [Value.nestingItems] using shallow
  rw [ofText, @Envelope.ofText_arrayText ⟨"EVENT", [value]⟩ _ (.cons written .nil) bound]
  exact ofEnvelope_event_iff

theorem ClientMessage.ofText_req_iff {subscription : String} {filter : Filter} :
    ofText (Value.arrayText
        [(Value.string "REQ").toText, (Value.string subscription).toText, text]) =
      .ok (.req subscription [filter]) ↔ Filter.ofValue value.sorted = .ok filter := by
  have named := (Value.string subscription).writtenAs_toText rfl
  have bound : Value.nestingItems [.string subscription, value] < Tree.depthLimit := by
    simpa [Value.nestingItems, Value.nesting] using shallow
  rw [ofText, @Envelope.ofText_arrayText ⟨"REQ", _⟩ _ (.cons named (.cons written .nil)) bound]
  exact ofEnvelope_req_iff

theorem RelayMessage.ofText_event_iff {subscription : String} {note : Event} :
    ofText (Value.arrayText
        [(Value.string "EVENT").toText, (Value.string subscription).toText, text]) =
      .ok (.event subscription note) ↔ Event.ofValue value.sorted = .ok note := by
  have named := (Value.string subscription).writtenAs_toText rfl
  have bound : Value.nestingItems [.string subscription, value] < Tree.depthLimit := by
    simpa [Value.nestingItems, Value.nesting] using shallow
  rw [ofText, @Envelope.ofText_arrayText ⟨"EVENT", _⟩ _ (.cons named (.cons written .nil)) bound]
  exact ofEnvelope_event_iff

end Meant

/-! ## Every text -/

theorem arrayText_pair (first second : String) :
    "[" ++ first ++ "," ++ second ++ "]" = Value.arrayText [first, second] := by
  rw [← String.toList_inj]
  simp [Value.arrayText]

theorem arrayText_triple (first second third : String) :
    "[" ++ first ++ "," ++ second ++ "," ++ third ++ "]" =
      Value.arrayText [first, second, third] := by
  rw [← String.toList_inj]
  simp [Value.arrayText]

theorem event_front : "[\"EVENT\"," = "[" ++ (Value.string "EVENT").toText ++ "," := by
  decide

theorem req_front : "[\"REQ\"," = "[" ++ (Value.string "REQ").toText ++ "," := by
  decide

/-- A text that is not nested too deep is read as an event inside a message of either side exactly
if it is read as that event by itself and each number and each string in its members that are no
fields stands for something. So is a filter in a request with this filter alone. Only the names of
fields must not be repeated in the text itself. -/
theorem enclosed_reads_alike (tree : Tree) (text subscription : String)
    (written : tree.WrittenAs text) (shallow : tree.nesting ≤ 126) :
    (Event.layout.NamedOnce tree → ∀ note,
      (ClientMessage.ofText ("[\"EVENT\"," ++ text ++ "]") = .ok (.event note) ↔
        Event.ofText text = .ok note ∧ Event.layout.StrangersLegible tree) ∧
      (RelayMessage.ofText
            ("[\"EVENT\"," ++ (Value.string subscription).toText ++ "," ++ text ++ "]") =
          .ok (.event subscription note) ↔
        Event.ofText text = .ok note ∧ Event.layout.StrangersLegible tree)) ∧
    (Filter.layout.NamedOnce tree → ∀ filter,
      (ClientMessage.ofText
            ("[\"REQ\"," ++ (Value.string subscription).toText ++ "," ++ text ++ "]") =
          .ok (.req subscription [filter]) ↔
        Filter.ofText text = .ok filter ∧ Filter.layout.StrangersLegible tree)) := by
  have limited : ∀ value, tree.Means value → value.nesting < Tree.depthLimit := by
    intro value means
    rw [means.nesting_eq]
    exact Nat.lt_succ_of_le shallow
  have event := (Value.string "EVENT").writtenAs_toText rfl
  have req := (Value.string "REQ").writtenAs_toText rfl
  have named := (Value.string subscription).writtenAs_toText rfl
  refine ⟨fun once note => ⟨?client, ?relay⟩, fun once filter => ?request⟩
  case client =>
    rw [event_front, arrayText_pair, Event.ofText, orUnreadable_eq_ok_iff]
    refine Event.sound_layout.iff_document_read_and_legible Event.free_kind false Event.ofFilled
      written once (fun read => ?_) fun value means => ?_
    · exact Envelope.exists_means_of_read (.cons event .nil) written read
    · exact ClientMessage.ofText_event_iff ⟨tree, means, written.2⟩ (limited value means)
  case relay =>
    rw [event_front, arrayText_triple, Event.ofText, orUnreadable_eq_ok_iff]
    refine Event.sound_layout.iff_document_read_and_legible Event.free_kind false Event.ofFilled
      written once (fun read => ?_) fun value means => ?_
    · exact Envelope.exists_means_of_read (.cons event (.cons named .nil)) written read
    · exact RelayMessage.ofText_event_iff ⟨tree, means, written.2⟩ (limited value means)
  case request =>
    rw [req_front, arrayText_triple]
    refine Filter.sound_layout.iff_document_read_and_legible Filter.free_kind true
      (fun filled => .ok (Filter.ofFilled filled)) written once (fun read => ?_)
      fun value means => ?_
    · exact Envelope.exists_means_of_read (.cons req (.cons named .nil)) written read
    · exact ClientMessage.ofText_req_iff ⟨tree, means, written.2⟩ (limited value means)

/-! ## Some texts -/

/-- An event as an array of what its fields hold. -/
def rowTree : Tree :=
  .array [.string (.ofText "id"), .string (.ofText "author"), .number (.ofInt (-1)),
    .number (.ofInt 1), .array [] .closed, .string (.ofText "text"), .string (.ofText "sig")]
    .closed

def rowText : String :=
  "[\"id\",\"author\",-1,1,[],\"text\",\"sig\"]"

/-- A filter that leaves the limit open and has a member that is no field, which is given twice. -/
def looseTree : Tree :=
  .object [(.ofText "x", .array [] .closed), (.ofText "limit", .null),
    (.ofText "kinds", .array [] .closed), (.ofText "x", .bool true)] .closed

def looseText : String :=
  " \x7b\"x\":[],\"limit\":null, \"kinds\":[],\"x\":true\x7d"

theorem rowTree_written : rowTree.WrittenAs rowText := by
  refine Tree.writtenAs_of_all ?_ (by decide +kernel) ?_
  · simp [rowTree, Tree.Complete, Tree.CompleteItems]
  · simp [rowTree, Tree.tokens, Tree.itemTokens, Json.Token.Clean, Json.StringText.ofText]

theorem looseTree_written : looseTree.WrittenAs looseText := by
  refine Tree.writtenAs_of_all ?_ (by decide +kernel) ?_
  · simp [looseTree, Tree.Complete, Tree.CompleteMembers, Tree.CompleteItems]
  · simp [looseTree, Tree.tokens, Tree.itemTokens, Tree.memberTokens, Json.Token.Clean,
      Json.StringText.ofText]

theorem looseTree_means : looseTree.Means
    (.object [("x", .array []), ("limit", .null), ("kinds", .array []), ("x", .bool true)]) := by
  have named : ∀ name, (Json.StringText.ofText name).Means name := Json.StringText.means_ofText
  exact .object (.cons (named _) (.array .nil) (.cons (named _) .null
    (.cons (named _) (.array .nil) (.cons (named _) (.bool true) .nil))))

theorem enclosed_reads_alike_row :
    ClientMessage.ofText ("[\"EVENT\"," ++ rowText ++ "]") =
        .ok (.event ⟨"id", "author", -1, 1, [], "text", "sig"⟩) ∧
      RelayMessage.ofText ("[\"EVENT\"," ++ (Value.string "s").toText ++ "," ++ rowText ++ "]") =
        .ok (.event "s" ⟨"id", "author", -1, 1, [], "text", "sig"⟩) ∧
      ClientMessage.ofText ("[\"REQ\"," ++ (Value.string "s").toText ++ "," ++ looseText ++ "]") =
        .ok (.req "s" [Filter.new.withKinds []]) := by
  obtain ⟨event, -⟩ := enclosed_reads_alike rowTree rowText "s" rowTree_written (by decide)
  obtain ⟨-, filter⟩ := enclosed_reads_alike looseTree looseText "s" looseTree_written (by decide)
  have once : Filter.layout.NamedOnce looseTree := by
    intro field
    cases field <;> decide
  have eventRead : Event.ofText rowText = .ok ⟨"id", "author", -1, 1, [], "text", "sig"⟩ := by
    rw [Event.ofText, rowTree_written.document_eq]
    rfl
  have filterRead : Filter.ofText looseText = .ok (Filter.new.withKinds []) := by
    rw [Filter.ofText, looseTree_written.document_eq]
    rfl
  refine ⟨?_, ?_, (filter once _).2 ⟨filterRead, .of_means looseTree_means⟩⟩
  · exact (event trivial _).1.2 ⟨eventRead, trivial⟩
  · exact (event trivial _).2.2 ⟨eventRead, trivial⟩

/-- An event with a member that is no field, whose number is too large to be held. -/
def oversizedTree : Tree :=
  .object [(.ofText "id", .string (.ofText "a")), (.ofText "pubkey", .string (.ofText "b")),
    (.ofText "created_at", .number (.ofInt 1)), (.ofText "kind", .number (.ofInt 1)),
    (.ofText "tags", .array [] .closed), (.ofText "content", .string (.ofText "c")),
    (.ofText "sig", .string (.ofText "d")),
    (.ofText "x", .number ⟨false, ['1'], [], some ⟨false, ['9', '9', '9']⟩⟩)] .closed

def oversizedText : String :=
  "\x7b\"id\":\"a\",\"pubkey\":\"b\",\"created_at\":1,\"kind\":1,\"tags\":[]," ++
    "\"content\":\"c\",\"sig\":\"d\",\"x\":1e999\x7d"

/-- A filter with a member that is no field, which holds half of a surrogate pair. -/
def halvedTree : Tree :=
  .object [(.ofText "x", .string ⟨[.unit 0xD800], none⟩)] .closed

def halvedText : String :=
  "\x7b\"x\":\"\\ud800\"\x7d"

theorem oversizedTree_written : oversizedTree.WrittenAs oversizedText := by
  refine Tree.writtenAs_of_all ?_ (by decide +kernel) ?_
  · simp [oversizedTree, Tree.Complete, Tree.CompleteMembers, Tree.CompleteItems]
  · simp [oversizedTree, Tree.tokens, Tree.itemTokens, Tree.memberTokens, Json.Token.Clean,
      Json.StringText.ofText]

theorem halvedTree_written : halvedTree.WrittenAs halvedText := by
  refine Tree.writtenAs_of_all ⟨⟨trivial, trivial⟩, rfl⟩ (by decide +kernel) ?_
  simp [halvedTree, Tree.tokens, Tree.memberTokens, Json.Token.Clean, Json.StringText.ofText]

theorem string_written (text : String) :
    (Tree.string (.ofText text)).WrittenAs (Value.string text).toText := by
  refine ⟨trivial, ?_⟩
  rw [Value.toText, String.toList_ofList]
  exact (Json.Token.Written.string (Json.StringText.written_writeString text)).single

/-- What is passed over in an event or a filter by itself may not be read inside a message. -/
theorem oversized_reads_apart :
    oversizedTree.WrittenAs oversizedText ∧ oversizedTree.nesting ≤ 126 ∧
      Event.layout.NamedOnce oversizedTree ∧
      Event.ofText oversizedText = .ok ⟨"a", "b", 1, 1, [], "c", "d"⟩ ∧
      ClientMessage.ofText ("[\"EVENT\"," ++ oversizedText ++ "]") =
        .error (.unreadable (.fault .malformed)) ∧
      RelayMessage.ofText
          ("[\"EVENT\"," ++ (Value.string "s").toText ++ "," ++ oversizedText ++ "]") =
        .error (.unreadable (.fault .malformed)) ∧
      halvedTree.WrittenAs halvedText ∧ halvedTree.nesting ≤ 126 ∧
      Filter.layout.NamedOnce halvedTree ∧ Filter.ofText halvedText = .ok Filter.new ∧
      ClientMessage.ofText
          ("[\"REQ\"," ++ (Value.string "s").toText ++ "," ++ halvedText ++ "]") =
        .error (.unreadable (.fault .malformed)) := by
  have offered := Tree.writtenAs_arrayText
    (.cons (string_written "EVENT") (.cons oversizedTree_written .nil))
  have stored := Tree.writtenAs_arrayText
    (.cons (string_written "EVENT") (.cons (string_written "s") (.cons oversizedTree_written .nil)))
  have asked := Tree.writtenAs_arrayText
    (.cons (string_written "REQ") (.cons (string_written "s") (.cons halvedTree_written .nil)))
  refine ⟨oversizedTree_written, by decide, ?_, ?_, ?_, ?_, halvedTree_written, by decide, ?_, ?_,
    ?_⟩
  · intro field
    cases field <;> decide
  · rw [Event.ofText, oversizedTree_written.document_eq]
    rfl
  · rw [event_front, arrayText_pair, ClientMessage.ofText, Envelope.ofText, Value.listOfText,
      offered.document_eq]
    rfl
  · rw [event_front, arrayText_triple, RelayMessage.ofText, Envelope.ofText, Value.listOfText,
      stored.document_eq]
    rfl
  · intro field
    cases field <;> decide
  · rw [Filter.ofText, halvedTree_written.document_eq]
    rfl
  · rw [req_front, arrayText_triple, ClientMessage.ofText, Envelope.ofText, Value.listOfText,
      asked.document_eq]
    rfl

end RelayCheck.Message
