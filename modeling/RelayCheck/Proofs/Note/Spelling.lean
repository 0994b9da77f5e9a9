import RelayCheck.Note.Identifier
import RelayCheck.Proofs.Json.Entries
import RelayCheck.Proofs.Note.Record

/-!
Events are read from every spelling of their members, and from objects with all members only.

The members may come in any order and among others, and each of them may be written in any way that
stands for its data.
-/

set_option autoImplicit false

namespace RelayCheck.Note.Event

open Json (ObjectWritten Tree)

theorem ofFilled_eq_ok_iff {filled : layout.Filled} {event : Event} :
    ofFilled filled = .ok event ↔ filled = event.filled := by
  constructor
  · intro read
    simp only [ofFilled, Json.bind_eq_ok_iff, Json.Layout.require_eq_ok_iff] at read
    obtain ⟨id, hasId, pubkey, hasPubkey, createdAt, hasCreatedAt, kind, hasKind, tags, hasTags,
      content, hasContent, sig, hasSig, same⟩ := read
    cases same
    funext field
    cases field with
    | id => exact hasId
    | pubkey => exact hasPubkey
    | createdAt => exact hasCreatedAt
    | kind => exact hasKind
    | tags => exact hasTags
    | content => exact hasContent
    | sig => exact hasSig
  · intro same
    rw [same, ofFilled_filled]

/-- An object is read as the event that has what is given for each of its members, once. -/
theorem ofText_object_iff {entries : List (String × Tree)} {text : String}
    (written : ObjectWritten entries text) {event : Event} :
    ofText text = .ok event ↔ ∀ field, layout.Holds entries field (event.filled field) := by
  rw [ofText, orUnreadable_eq_ok_iff]
  refine (sound_layout.document_read_object_iff free_kind false ofFilled written).trans ?_
  simp only [ofFilled_eq_ok_iff, exists_eq_right]

theorem exists_filled (event : Event) (field : Field) : ∃ data, event.filled field = some data := by
  cases field <;> exact ⟨_, rfl⟩

/-- Some member of an event is not given as it must be among the entries: it is not there, it is
there twice, or what is there stands for no data of its kind. -/
inductive Spoiled (entries : List (String × Tree)) (field : Field) : Prop
  | missing (absent : ∀ entry ∈ entries, entry.1 ≠ layout.name field)
  | repeated (twice : 2 ≤ (entries.map (·.1)).count (layout.name field))
  | unfit {tree : Tree} (there : (layout.name field, tree) ∈ entries)
      (senseless : ∀ data, ¬ tree.Means ((layout.kind field).toValue data))

theorem not_holds_of_spoiled {entries : List (String × Tree)} {field : Field}
    (spoiled : Spoiled entries field) (data : (layout.kind field).Data) :
    ¬ layout.Holds entries field (some data) := by
  intro ⟨tree, single, means⟩
  have there := Json.Layout.mem_given_iff.1 (single ▸ List.mem_singleton_self tree)
  cases spoiled with
  | missing absent => exact absent _ there rfl
  | repeated twice =>
    rw [← Json.Layout.length_given, single] at twice
    exact absurd twice (Nat.not_succ_le_self 1)
  | unfit also senseless =>
    rw [← Json.Layout.mem_given_iff, single, List.mem_singleton] at also
    rw [also] at senseless
    exact senseless data means

/-- An event is read back from its text, and from every other text of an object that has its members
in some order and some spelling, with others of other names among them. An object in which a member
is missing, repeated or unfit is not read. -/
theorem spellings_read_back (event : Event) :
    ofText event.toText = .ok event ∧
    (∀ (trees : Field → Tree) (others entries : List (String × Tree)) (text : String),
      (∀ field data, event.filled field = some data →
        (trees field).Means ((layout.kind field).toValue data)) →
      (∀ other ∈ others, ∀ field, other.1 ≠ layout.name field) →
      entries.Perm (layout.fields.map (fun field => (layout.name field, trees field)) ++ others) →
      ObjectWritten entries text →
        ofText text = .ok event ∧ ∀ form,
          (ofText text).bind (·.computeIdentifier form) = event.computeIdentifier form) ∧
    ∀ entries text, ObjectWritten entries text → ∀ field, Spoiled entries field →
      ∃ why, ofText text = .error why := by
  refine ⟨event.ofText_toText, ?spelled, ?spoiled⟩
  case spelled =>
    intro trees others entries text meant strange same written
    have read : ofText text = .ok event := by
      rw [ofText_object_iff written]
      intro field
      have single := sound_layout.given_of_perm same strange field
      obtain ⟨data, held⟩ := event.exists_filled field
      rw [held]
      exact ⟨trees field, single, meant field data held⟩
    refine ⟨read, fun form => ?_⟩
    rw [read]
    rfl
  case spoiled =>
    intro entries text written field spoiled
    cases read : ofText text with
    | error why => exact ⟨why, rfl⟩
    | ok other =>
      have holds := (ofText_object_iff written).1 read field
      obtain ⟨data, held⟩ := other.exists_filled field
      rw [held] at holds
      exact absurd holds (not_holds_of_spoiled spoiled data)

def turned : Event :=
  ⟨"", "ab", -5, 1, [["p"]], "x", ""⟩

def turnedTree : Field → Tree
  | .id | .sig => .string (.ofText "")
  | .pubkey => .string (.ofText "ab")
  | .createdAt => .number (.ofInt (-5))
  | .kind => .number (.ofInt 1)
  | .tags => .array [.array [.string (.ofText "p")] .closed] .closed
  | .content => .string ⟨[.unit 0x78], none⟩

/-- It can be passed over, but not be read as anything. -/
def strangeEntry : String × Tree :=
  ("note", .array [.string ⟨[.unit 0xD800], none⟩,
    .number ⟨false, ['1'], [], some ⟨false, ['9', '9', '9']⟩⟩] .closed)

theorem means_turnedTree (field : Field) (data : (layout.kind field).Data)
    (held : turned.filled field = some data) :
    (turnedTree field).Means ((layout.kind field).toValue data) := by
  cases field with
  | id | pubkey | sig =>
    cases held
    exact .string (Json.StringText.means_ofText _)
  | createdAt | kind =>
    cases held
    exact .number (by decide)
  | tags =>
    cases held
    exact .array (.cons (.array (.cons (.string (Json.StringText.means_ofText _)) .nil)) .nil)
  | content =>
    cases held
    exact .string (Json.StringText.decode_eq_ok_iff.1 (by decide))

def turnedText : String :=
  " \x7b\"note\":[\"\\ud800\",1e999],\"sig\":\"\",\n\"content\":\"\\u0078\"," ++
    "\"tags\":[[\"p\"]],\"kind\": 1,\"created_at\":-5,\"pubkey\":\"ab\",\"id\":\"\"\x7d"

def turnedEntries : List (String × Tree) :=
  strangeEntry :: (layout.fields.map fun field => (layout.name field, turnedTree field)).reverse

theorem turned_written : ObjectWritten turnedEntries turnedText := by
  refine ⟨turnedEntries.map fun entry => (.ofText entry.1, entry.2), ?_, ?_, ?_⟩
  · simp [turnedEntries, strangeEntry, turnedTree, layout, Tree.Complete, Tree.CompleteMembers,
      Tree.CompleteItems]
  · rw [List.forall₂_map_left_iff, List.forall₂_same]
    exact fun entry _ => ⟨Json.StringText.means_ofText entry.1, rfl⟩
  · refine @Json.Token.listWritten_of_allFrom [] _ _ (by decide +kernel) ?_
    simp [turnedEntries, strangeEntry, turnedTree, layout, Tree.tokens, Tree.memberTokens,
      Tree.itemTokens, Json.Token.Clean, Json.StringText.ofText]

theorem oversized_written : ObjectWritten [("kind", .number (.ofInt 65536))]
    "\x7b\"kind\":65536\x7d" := by
  refine ⟨[(.ofText "kind", .number (.ofInt 65536))], ⟨⟨trivial, trivial⟩, rfl⟩, ?_, ?_⟩
  · exact .cons ⟨Json.StringText.means_ofText "kind", rfl⟩ .nil
  · refine @Json.Token.listWritten_of_allFrom [] _ _ (by decide +kernel) ?_
    simp [Tree.tokens, Tree.memberTokens, Json.Token.Clean, Json.StringText.ofText]

theorem spoiled_oversized : Spoiled [("kind", .number (.ofInt 65536))] .kind := by
  refine .unfit List.mem_cons_self fun data means => ?_
  cases means with
  | number read =>
    have held := (Json.Numeral.number_ofInt 65536 (by decide) (by decide)).symm.trans read
    have small := (Json.Width.u16.toInt_within data).2
    rw [← Json.Number.whole.inj (Except.ok.inj held)] at small
    exact absurd small (by decide)

theorem spellings_read_back_turned :
    ofText turned.toText = .ok turned ∧ ofText turnedText = .ok turned ∧
      ∃ why, ofText "\x7b\"kind\":65536\x7d" = .error why := by
  obtain ⟨back, spelled, spoiled⟩ := turned.spellings_read_back
  have strange : ∀ other ∈ [strangeEntry], ∀ field, other.1 ≠ layout.name field := by
    intro other inside field
    rw [List.mem_singleton.1 inside]
    cases field <;> decide
  have same : turnedEntries.Perm
      (layout.fields.map (fun field => (layout.name field, turnedTree field)) ++ [strangeEntry]) :=
    (List.Perm.append_left [strangeEntry] (List.reverse_perm _)).trans List.perm_append_comm
  refine ⟨back, ?_, spoiled _ _ oversized_written .kind spoiled_oversized⟩
  exact (spelled turnedTree [strangeEntry] turnedEntries turnedText means_turnedTree strange same
    turned_written).1

end RelayCheck.Note.Event
