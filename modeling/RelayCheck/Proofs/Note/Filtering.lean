import RelayCheck.Proofs.Json.Entries
import RelayCheck.Proofs.Note.Building
import RelayCheck.Proofs.Note.Record

/-!
Filters that are built step by step, and the objects that are read as them.

A filter is written with the members that have been set, each as it was last set. It is read from
all objects with these members, whatever their order, with null for others or without them, and with
members of other names among them.
-/

set_option autoImplicit false

namespace RelayCheck.Note.Filter

open Json (ObjectWritten Tells Tree Value Width)

/-! ## Steps of a filter -/

/-- What a field can be set to. -/
def Field.Data : Field → Type
  | .ids | .authors => List String
  | .kinds => List UInt16
  | .since | .upTo => Int64
  | .limit => UInt32

def Field.value : (field : Field) → field.Data → Value
  | .ids, texts | .authors, texts => .array (texts.map .string)
  | .kinds, numbers => .array (numbers.map fun number => .number (Width.u16.toNumber number))
  | .since, seconds | .upTo, seconds => .number (Width.i64.toNumber seconds)
  | .limit, count => .number (Width.u32.toNumber count)

structure Step where
  field : Field
  data : field.Data

def Step.setting? (field : Field) (step : Step) : Option field.Data :=
  if same : step.field = field then some (same ▸ step.data) else none

def perform (filter : Filter) : Step → Filter
  | ⟨.ids, ids⟩ => filter.withIds ids
  | ⟨.authors, authors⟩ => filter.withAuthors authors
  | ⟨.kinds, kinds⟩ => filter.withKinds kinds
  | ⟨.since, since⟩ => filter.withSince since
  | ⟨.upTo, upTo⟩ => filter.withUpTo upTo
  | ⟨.limit, limit⟩ => filter.withLimit limit

/-- The filter after some steps, one after the other. -/
def built (steps : List Step) : Filter :=
  steps.foldl perform new

/-- What a field was last set to, if it was set. -/
def lastSet? (steps : List Step) (field : Field) : Option field.Data :=
  lastSetting? (Step.setting? field) steps

/-- The members for the fields that were set, each with what it was last set to. -/
def lastMembers (steps : List Step) : List (String × Value) :=
  [Field.ids, .authors, .kinds, .since, .upTo, .limit].filterMap fun field =>
    (lastSet? steps field).map fun data => (layout.name field, field.value data)

def get (filter : Filter) : (field : Field) → Option field.Data
  | .ids => filter.ids
  | .authors => filter.authors
  | .kinds => filter.kinds
  | .since => filter.since
  | .upTo => filter.upTo
  | .limit => filter.limit

theorem get_perform (filter : Filter) (step : Step) (field : Field) :
    (filter.perform step).get field = (step.setting? field).or (filter.get field) := by
  obtain ⟨other, data⟩ := step
  cases other <;> cases field <;> rfl

theorem get_built (steps : List Step) (field : Field) :
    (built steps).get field = lastSet? steps field := by
  have unset : new.get field = none := by cases field <;> rfl
  have last := @read_foldl_eq_lastSetting? _ _ _ perform (get · field) (Step.setting? field)
    (fun filter step => filter.get_perform step field) new steps
  rwa [unset, Option.or_none] at last

/-! ## Members of a filter -/

theorem member?_eq (filter : Filter) (field : Field) :
    ((filter.filled field).map fun data => (layout.name field, (layout.kind field).toValue data)) =
      (filter.get field).map fun data => (layout.name field, field.value data) := by
  cases field <;> exact Option.map_map ..

theorem filled_eq_none_iff (filter : Filter) (field : Field) :
    filter.filled field = none ↔ filter.get field = none := by
  rw [← Option.map_eq_none_iff, member?_eq, Option.map_eq_none_iff]

theorem members_built (steps : List Step) :
    layout.members (built steps).filled = lastMembers steps := by
  rw [Json.Layout.members, lastMembers]
  refine List.filterMap_congr fun field _ => ?_
  rw [member?_eq, get_built]

/-! ## Members that are null -/

/-- What a field holds if it is null. -/
def null : (field : Field) → (layout.kind field).Data
  | .ids | .authors | .kinds | .since | .upTo | .limit => none

theorem means_null (field : Field) :
    Tree.null.Means ((layout.kind field).toValue (null field)) := by
  cases field <;> exact .null

/-- To read null for a field is to read nothing for it. -/
theorem ofFilled_congr {left right : layout.Filled}
    (same : ∀ field, (left field).getD (null field) = (right field).getD (null field)) :
    ofFilled left = ofFilled right :=
  (mk.injEq ..).mpr
    ⟨same .ids, same .authors, same .kinds, same .since, same .upTo, same .limit⟩

/-- What a filter holds if some fields are written as null. -/
def filledBeside (filter : Filter) (nulls : List Field) : layout.Filled := fun field =>
  if field ∈ nulls then some (null field) else filter.filled field

theorem ofFilled_filledBeside {filter : Filter} {nulls : List Field}
    (unset : ∀ field ∈ nulls, filter.get field = none) :
    ofFilled (filter.filledBeside nulls) = filter := by
  refine (ofFilled_congr fun field => ?_).trans filter.ofFilled_filled
  rw [filledBeside]
  split
  · next inside =>
    rw [(filter.filled_eq_none_iff field).2 (unset field inside), Option.getD_some,
      Option.getD_none]
  · rfl

/-! ## Objects that are read as a filter -/

theorem ofText_object_iff {entries : List (String × Tree)} {text : String}
    (written : ObjectWritten entries text) {filter : Filter} :
    ofText text = .ok filter ↔
      ∃ filled, (∀ field, layout.Holds entries field (filled field)) ∧
        ofFilled filled = filter := by
  refine (sound_layout.document_read_object_iff free_kind true
    (fun filled => .ok (ofFilled filled)) written).trans ?_
  simp only [Except.ok.injEq]

def nullEntries (nulls : List Field) : List (String × Tree) :=
  nulls.map fun field => (layout.name field, .null)

theorem names_nullEntries (nulls : List Field) :
    (nullEntries nulls).map (·.1) = nulls.map layout.name :=
  List.map_map

section Spelled

variable {filter : Filter} {told others entries : List (String × Tree)} {nulls : List Field}

theorem nodup_known (tells : List.Forall₂ Tells told (layout.members filter.filled))
    (once : nulls.Nodup) (unset : ∀ field ∈ nulls, filter.get field = none) :
    ((told ++ nullEntries nulls).map (·.1)).Nodup := by
  rw [List.map_append, Json.names_of_tells tells, names_nullEntries, List.nodup_append]
  refine ⟨sound_layout.nodup_names _, once.map (sound_layout.named · ·), ?_⟩
  intro name member other empty same
  subst same
  obtain ⟨field, inside, rfl⟩ := List.mem_map.1 empty
  have absent := (filter.filled_eq_none_iff field).2 (unset field inside)
  exact (sound_layout.name_mem_names_iff _ field).1 member absent

/-- Entries that tell the members of a filter in any order, with null for other fields and with
strange ones among them, give every field what it holds. -/
theorem holds_of_tells (tells : List.Forall₂ Tells told (layout.members filter.filled))
    (once : nulls.Nodup) (unset : ∀ field ∈ nulls, filter.get field = none)
    (strange : ∀ other ∈ others, ∀ field, other.1 ≠ layout.name field)
    (same : entries.Perm (told ++ nullEntries nulls ++ others)) (field : Field) :
    layout.Holds entries field (filter.filledBeside nulls field) := by
  have different := nodup_known tells once unset
  have unlike := fun other inside => strange other inside field
  rw [filledBeside]
  split
  · next inside =>
    refine ⟨.null, Json.Layout.given_of_known same different unlike ?_, means_null field⟩
    exact List.mem_append_right _ (List.mem_map.2 ⟨field, inside, rfl⟩)
  · next outside =>
    cases held : filter.filled field with
    | none =>
      refine Json.Layout.given_of_unknown same unlike ?_
      rw [List.map_append, Json.names_of_tells tells, names_nullEntries, List.mem_append, not_or]
      refine ⟨fun member => (sound_layout.name_mem_names_iff _ field).1 member held,
        fun empty => ?_⟩
      obtain ⟨other, inside, named⟩ := List.mem_map.1 empty
      exact outside (sound_layout.named _ _ named ▸ inside)
    | some data =>
      have member := Json.Layout.mem_members.2 ⟨field, sound_layout.complete field, data, held, rfl⟩
      obtain ⟨tree, there, means⟩ := Json.exists_told tells member
      exact ⟨tree,
        Json.Layout.given_of_known same different unlike (List.mem_append_left _ there), means⟩

end Spelled

/-- A filter is written as the object of the members that were set, in their order, each as it was
last set. It is read back from this text, and from every text of an object with these members in
some order and some spelling, with null for fields that were not set, and with members of other
names. -/
theorem steps_read_back (steps : List Step) :
    layout.fields.map layout.name = ["ids", "authors", "kinds", "since", "until", "limit"] ∧
    (built steps).toText = (Value.object (lastMembers steps)).toText ∧
    (Value.object (lastMembers steps)).WrittenAs (built steps).toText ∧
    ofText (built steps).toText = .ok (built steps) ∧
    ∀ (told others entries : List (String × Tree)) (nulls : List Field) (text : String),
      List.Forall₂ Tells told (lastMembers steps) →
      nulls.Nodup → (∀ field ∈ nulls, lastSet? steps field = none) →
      (∀ other ∈ others, ∀ field, other.1 ≠ layout.name field) →
      entries.Perm (told ++ nullEntries nulls ++ others) →
      ObjectWritten entries text → ofText text = .ok (built steps) := by
  refine ⟨rfl, ?written, ?grammar, (built steps).ofText_toText, ?spelled⟩
  case written => rw [toText, members_built]
  case grammar =>
    rw [← members_built]
    exact (built steps).writtenAs_toText
  case spelled =>
    intro told others entries nulls text tells once unset strange same written
    rw [← members_built] at tells
    simp only [← get_built] at unset
    rw [ofText_object_iff written]
    exact ⟨_, holds_of_tells tells once unset strange same, ofFilled_filledBeside unset⟩

/-! ### Kinds that are set twice, and a time that is null -/

def someSteps : List Step :=
  [⟨.kinds, ([1] : List UInt16)⟩, ⟨.ids, ([] : List String)⟩, ⟨.since, (-5 : Int64)⟩,
    ⟨.kinds, ([7, 1] : List UInt16)⟩]

def someTold : List (String × Tree) :=
  [("ids", .array [] .closed),
    ("kinds", .array [.number (.ofInt 7), .number (.ofInt 1)] .closed),
    ("since", .number (.ofInt (-5)))]

theorem tells_someTold : List.Forall₂ Tells someTold (lastMembers someSteps) := by
  refine .cons ⟨rfl, .array .nil⟩ (.cons ⟨rfl, .array ?kinds⟩ (.cons ⟨rfl, ?since⟩ .nil))
  case kinds => exact .cons (.number (by decide)) (.cons (.number (by decide)) .nil)
  case since => exact .number (by decide)

def strangeEntry : String × Tree :=
  ("x", .object [(.ofText "y", .null)] .closed)

def someEntries : List (String × Tree) :=
  strangeEntry :: (someTold ++ nullEntries [.upTo]).reverse

def someText : String :=
  "\x7b\"x\":\x7b\"y\":null\x7d,\"until\": null,\"since\":-5,\"kinds\":[7, 1],\"ids\":[]\x7d "

theorem written_someText : ObjectWritten someEntries someText := by
  refine ⟨someEntries.map fun entry => (.ofText entry.1, entry.2), ?_, ?_, ?_⟩
  · simp [someEntries, strangeEntry, someTold, nullEntries, layout, Tree.Complete,
      Tree.CompleteMembers, Tree.CompleteItems]
  · rw [List.forall₂_map_left_iff, List.forall₂_same]
    exact fun entry _ => ⟨Json.StringText.means_ofText entry.1, rfl⟩
  · refine @Json.Token.listWritten_of_allFrom [] _ _ (by decide +kernel) ?_
    simp [someEntries, strangeEntry, someTold, nullEntries, layout, Tree.tokens, Tree.memberTokens,
      Tree.itemTokens, Json.Token.Clean, Json.StringText.ofText]

theorem steps_read_back_null :
    built someSteps = { new with ids := some [], kinds := some [7, 1], since := some (-5) } ∧
      (built someSteps).toText = "\x7b\"ids\":[],\"kinds\":[7,1],\"since\":-5\x7d" ∧
      ofText (built someSteps).toText = .ok (built someSteps) ∧
      ofText someText = .ok (built someSteps) := by
  obtain ⟨-, written, -, back, spelled⟩ := steps_read_back someSteps
  have strange : ∀ other ∈ [strangeEntry], ∀ field, other.1 ≠ layout.name field := by
    intro other inside field
    rw [List.mem_singleton.1 inside]
    cases field <;> decide
  have unset : ∀ field ∈ [Field.upTo], lastSet? someSteps field = none := by
    intro field inside
    rw [List.mem_singleton.1 inside]
    rfl
  have same : someEntries.Perm (someTold ++ nullEntries [.upTo] ++ [strangeEntry]) :=
    (List.Perm.append_left [strangeEntry] (List.reverse_perm _)).trans List.perm_append_comm
  refine ⟨rfl, ?_, back, ?_⟩
  · rw [written]
    decide +kernel
  · exact spelled someTold [strangeEntry] someEntries [.upTo] someText tells_someTold
      (List.nodup_singleton _) unset strange same written_someText

end RelayCheck.Note.Filter
