import Mathlib.Data.List.Nodup
import RelayCheck.Json.Layout
import RelayCheck.Proofs.Json.Same

/-!
Records come back from the members that they are written as.

The members may stand in any order, since a field is found by its name. What must hold of a layout
for this is gathered in `Layout.Sound`.
-/

set_option autoImplicit false

namespace RelayCheck.Json

namespace Width

theorem ofInt_toInt (width : Width) (number : width.Data) :
    width.ofInt (width.toInt number) = number := by
  cases width with
  | u16 =>
    have bound := UInt16.toNat_lt number
    simp only [ofInt, toInt, UInt16.ofInt]
    rw [Int.emod_eq_of_lt (by omega) (by omega), Int.toNat_natCast, UInt16.ofNat_toNat]
  | u32 =>
    have bound := UInt32.toNat_lt number
    simp only [ofInt, toInt, UInt32.ofInt]
    rw [Int.emod_eq_of_lt (by omega) (by omega), Int.toNat_natCast, UInt32.ofNat_toNat]
  | u64 =>
    have bound := UInt64.toNat_lt number
    simp only [ofInt, toInt, UInt64.ofInt]
    rw [Int.emod_eq_of_lt (by omega) (by omega), Int.toNat_natCast, UInt64.ofNat_toNat]
  | i64 => exact Int64.ofInt_toInt number

theorem toInt_within (width : Width) (number : width.Data) :
    width.least ≤ width.toInt number ∧ width.toInt number < width.limit := by
  cases width with
  | u16 => have := UInt16.toNat_lt number; simp only [least, limit, toInt]; omega
  | u32 => have := UInt32.toNat_lt number; simp only [least, limit, toInt]; omega
  | u64 => have := UInt64.toNat_lt number; simp only [least, limit, toInt]; omega
  | i64 =>
    have := Int64.le_toInt number
    have := Int64.toInt_lt number
    simp only [least, limit, toInt]
    omega

@[simp]
theorem ofNumber_toNumber (width : Width) (number : width.Data) :
    width.ofNumber (width.toNumber number) = .ok number := by
  rw [toNumber, ofNumber, if_pos (width.toInt_within number), ofInt_toInt]

end Width

namespace Kind

/-- Data of the kind can be told from what it is written as: nothing that is there is written as
null, and no two choices have one name. -/
def Faithful : Kind → Prop
  | .string | .whole _ => True
  | .list item => item.Faithful
  | .optional (.optional _) => False
  | .optional inner => inner.Faithful
  | .choice names => names.Nodup

def nesting : Kind → Nat
  | .string | .whole _ | .choice _ => 0
  | .list item => item.nesting + 1
  | .optional inner => inner.nesting

theorem readAll_map {Source Data : Type} {reader : Source → Except ReadError Data}
    {writer : Data → Source} {items : List Data}
    (inverse : ∀ item ∈ items, reader (writer item) = .ok item) :
    readAll reader (items.map writer) = .ok items := by
  induction items with
  | nil => rfl
  | cons item rest ih =>
    have first := inverse item List.mem_cons_self
    have others := ih fun item member => inverse item (List.mem_cons_of_mem _ member)
    simp only [List.map_cons, readAll, first, others]
    rfl

theorem toValue_ne_null {inner : Kind} (mandatory : ∀ deeper, inner ≠ .optional deeper)
    (data : inner.Data) : inner.toValue data ≠ .null := by
  cases inner with
  | optional deeper => exact absurd rfl (mandatory deeper)
  | _ => simp [toValue]

theorem Faithful.inner {inner : Kind} (faithful : (Kind.optional inner).Faithful) :
    (∀ deeper, inner ≠ .optional deeper) ∧ inner.Faithful := by
  cases inner with
  | optional deeper => exact faithful.elim
  | string | whole | list | choice => exact ⟨fun _ same => (nomatch same), faithful⟩

/-- Of names that differ, each is chosen by itself. -/
theorem choose_getElem {names : List String} (distinct : names.Nodup)
    (position : Fin names.length) : choose names names[position] = .ok position := by
  have found : names.finIdxOf? names[position] = some position := by
    rw [List.finIdxOf?_eq_some_iff]
    refine ⟨rfl, fun earlier before => ?_⟩
    exact List.pairwise_iff_getElem.1 distinct earlier position earlier.isLt position.isLt before
  rw [choose, found]

/-- Data of a faithful kind is read back from its value. -/
theorem ofValue_toValue (kind : Kind) (faithful : kind.Faithful) (data : kind.Data) :
    kind.ofValue (kind.toValue data) = .ok data := by
  induction kind with
  | string => rfl
  | whole width => exact width.ofNumber_toNumber data
  | list item ih => exact readAll_map fun datum _ => ih faithful datum
  | optional inner ih =>
    obtain ⟨mandatory, inner_faithful⟩ := faithful.inner
    cases data with
    | none => rfl
    | some datum =>
      rw [toValue, ofValue, ih inner_faithful datum]
      · rfl
      · exact toValue_ne_null mandatory datum
  | choice names => exact choose_getElem faithful data

theorem toValue_inj (kind : Kind) (faithful : kind.Faithful) {left right : kind.Data} :
    kind.toValue left = kind.toValue right ↔ left = right := by
  refine ⟨fun same => ?_, congrArg kind.toValue⟩
  have read := kind.ofValue_toValue faithful left
  rw [same, kind.ofValue_toValue faithful right] at read
  exact (Except.ok.inj read).symm

theorem firstFloat?_toValue (kind : Kind) (data : kind.Data) :
    (kind.toValue data).firstFloat? = none := by
  induction kind with
  | string | whole | choice => rfl
  | list item ih =>
    rw [toValue, Value.firstFloat?, Value.firstFloatItems?_eq_none_iff]
    intro value member
    obtain ⟨datum, -, rfl⟩ := List.mem_map.1 member
    exact ih datum
  | optional inner ih =>
    cases data with
    | none => rfl
    | some datum => exact ih datum

/-- No kind has objects, so nothing is out of order. -/
theorem sorted_toValue (kind : Kind) (data : kind.Data) :
    (kind.toValue data).sorted = kind.toValue data := by
  induction kind with
  | string | whole | choice => rfl
  | list item ih =>
    rw [toValue, Value.sorted]
    congr 1
    induction data with
    | nil => rfl
    | cons datum rest tailIH =>
      simp only [List.map_cons, Value.sortedItems, ih, tailIH]
  | optional inner ih =>
    cases data with
    | none => rfl
    | some datum => exact ih datum

theorem nesting_toValue_le (kind : Kind) (data : kind.Data) :
    (kind.toValue data).nesting ≤ kind.nesting := by
  induction kind with
  | string | whole | choice => exact Nat.le_refl _
  | list item ih =>
    rw [toValue, Value.nesting, nesting]
    apply Nat.succ_le_succ
    induction data with
    | nil => exact Nat.zero_le _
    | cons datum rest tailIH =>
      rw [List.map_cons, Value.nestingItems, Nat.max_le]
      exact ⟨ih datum, tailIH⟩
  | optional inner ih =>
    cases data with
    | none => exact Nat.zero_le _
    | some datum => exact ih datum

end Kind

namespace Layout

variable {Field : Type} [DecidableEq Field] (layout : Layout Field)

/-- What a layout needs for its records to be read back: every field has its place and a name of its
own, and data that can be told from what they are written as. -/
structure Sound : Prop where
  complete : ∀ field, field ∈ layout.fields
  once : layout.fields.Nodup
  named : ∀ left right, layout.name left = layout.name right → left = right
  faithful : ∀ field, (layout.kind field).Faithful

variable {layout}

theorem fill_self (filled : layout.Filled) (field : Field) (data : (layout.kind field).Data) :
    layout.fill filled field data field = some data := by
  rw [fill, dif_pos rfl]

theorem fill_other (filled : layout.Filled) {field other : Field} (different : field ≠ other)
    (data : (layout.kind field).Data) : layout.fill filled field data other = filled other := by
  rw [fill, dif_neg different]

omit [DecidableEq Field] in
theorem Sound.field?_name (sound : layout.Sound) (field : Field) :
    layout.field? (layout.name field) = some field := by
  cases found : layout.field? (layout.name field) with
  | none =>
    have unlike := List.find?_eq_none.1 found field (sound.complete field)
    simp at unlike
  | some other =>
    have same := List.find?_some found
    rw [sound.named other field (by simpa using same)]

omit [DecidableEq Field] in
theorem mem_members {filled : layout.Filled} {member : String × Value} :
    member ∈ layout.members filled ↔ ∃ field ∈ layout.fields, ∃ data, filled field = some data ∧
      member = (layout.name field, (layout.kind field).toValue data) := by
  simp only [members, List.mem_filterMap, Option.map_eq_some_iff, @eq_comm _ member]

omit [DecidableEq Field] in
theorem Sound.nodup_names (sound : layout.Sound) (filled : layout.Filled) :
    (Value.names (layout.members filled)).Nodup := by
  rw [Value.names, members, List.map_filterMap]
  refine List.Pairwise.filterMap _ ?_ sound.once
  intro left right different leftName fromLeft rightName fromRight same
  simp only [Option.map_map, Option.map_eq_some_iff, Function.comp_apply] at fromLeft fromRight
  obtain ⟨-, -, rfl⟩ := fromLeft
  obtain ⟨-, -, rfl⟩ := fromRight
  exact different (sound.named left right same)

omit [DecidableEq Field] in
theorem Sound.name_mem_names_iff (sound : layout.Sound) (filled : layout.Filled) (field : Field) :
    layout.name field ∈ Value.names (layout.members filled) ↔ filled field ≠ none := by
  constructor
  · intro called absent
    obtain ⟨member, drawn, same⟩ := List.mem_map.1 called
    obtain ⟨other, -, data, held, rfl⟩ := mem_members.1 drawn
    obtain rfl := sound.named other field same
    exact nomatch absent.symm.trans held
  · intro present
    obtain ⟨data, held⟩ := Option.ne_none_iff_exists'.1 present
    exact List.mem_map.2 ⟨_, mem_members.2 ⟨field, sound.complete field, data, held, rfl⟩, rfl⟩

/-! ## Reading members -/

/-- What is given for a field among some entries, in order. -/
def given {Source : Type} (layout : Layout Field) (entries : List (String × Source))
    (field : Field) : List Source :=
  (entries.filter fun entry => entry.1 == layout.name field).map (·.2)

omit [DecidableEq Field] in
theorem given_cons_self {Source : Type} (field : Field) (source : Source)
    (rest : List (String × Source)) :
    layout.given ((layout.name field, source) :: rest) field =
      source :: layout.given rest field := by
  have same : (layout.name field == layout.name field) = true := beq_self_eq_true _
  simp only [given, List.filter_cons, same, if_true, List.map_cons]

omit [DecidableEq Field] in
theorem given_cons_other {Source : Type} {name : String} {field : Field}
    (other : name ≠ layout.name field) (source : Source) (rest : List (String × Source)) :
    layout.given ((name, source) :: rest) field = layout.given rest field := by
  rw [given, List.filter_cons_of_neg (by simpa using other)]
  rfl

/-- What a field holds in the end: what it held before if nothing is given for it, and what is read
if it held nothing and one thing is given. More cannot be read. -/
def Gathers {Source Data : Type} (reader : Source → Except ReadError Data) (before : Option Data) :
    List Source → Option Data → Prop
  | [], held => held = before
  | [source], held => before = none ∧ ∃ data, reader source = .ok data ∧ held = some data
  | _ :: _ :: _, _ => False

theorem gathers_cons_iff {Source Data : Type} {reader : Source → Except ReadError Data}
    {before held : Option Data} {source : Source} {rest : List Source} :
    Gathers reader before (source :: rest) held ↔
      before = none ∧ ∃ data, reader source = .ok data ∧ Gathers reader (some data) rest held := by
  cases rest with
  | nil => exact Iff.rfl
  | cons next more => cases more <;> simp [Gathers]

theorem Sound.forall_gathers_cons_iff (sound : layout.Sound) {Source : Type}
    {reader : (kind : Kind) → Source → Except ReadError kind.Data} {filled result : layout.Filled}
    {field : Field} {source : Source} {rest : List (String × Source)} :
    (∀ other, Gathers (reader (layout.kind other)) (filled other)
        (layout.given ((layout.name field, source) :: rest) other) (result other)) ↔
      filled field = none ∧ ∃ data, reader (layout.kind field) source = .ok data ∧
        ∀ other, Gathers (reader (layout.kind other)) (layout.fill filled field data other)
          (layout.given rest other) (result other) := by
  have unlike : ∀ other, field ≠ other → layout.name field ≠ layout.name other :=
    fun other different same => different (sound.named field other same)
  constructor
  · intro gathered
    have here := gathered field
    rw [given_cons_self, gathers_cons_iff] at here
    obtain ⟨free, data, read, later⟩ := here
    refine ⟨free, data, read, fun other => ?_⟩
    by_cases same : field = other
    · subst same
      rw [fill_self]
      exact later
    · rw [fill_other filled same, ← given_cons_other (unlike other same) source]
      exact gathered other
  · intro ⟨free, data, read, later⟩ other
    by_cases same : field = other
    · subst same
      rw [given_cons_self, gathers_cons_iff]
      refine ⟨free, data, read, ?_⟩
      rw [← fill_self filled field data]
      exact later field
    · rw [given_cons_other (unlike other same) source, ← fill_other filled same data]
      exact later other

section Members

variable {Name Source : Type} {nameOf : Name → Except ReadError String}
  {reader : (kind : Kind) → Source → Except ReadError kind.Data}
  {skip : Source → Except ReadError Unit} {filled result : layout.Filled} {written : Name}
  {name : String} {source : Source} {rest : List (Name × Source)}

theorem readMembers_cons_other (named : nameOf written = .ok name)
    (other : layout.field? name = none) :
    layout.readMembers nameOf reader skip filled ((written, source) :: rest) = .ok result ↔
      skip source = .ok () ∧ layout.readMembers nameOf reader skip filled rest = .ok result := by
  simp only [readMembers, named, bind_eq_ok_iff, Except.ok.injEq, exists_eq_left', other]
  exact ⟨fun ⟨_, skipped⟩ => skipped, fun skipped => ⟨(), skipped⟩⟩

theorem readMembers_cons_field (named : nameOf written = .ok name) {field : Field}
    (found : layout.field? name = some field) :
    layout.readMembers nameOf reader skip filled ((written, source) :: rest) = .ok result ↔
      filled field = none ∧ ∃ data, reader (layout.kind field) source = .ok data ∧
        layout.readMembers nameOf reader skip (layout.fill filled field data) rest =
          .ok result := by
  simp only [readMembers, named, bind_eq_ok_iff, Except.ok.injEq, exists_eq_left', found]
  cases filled field with
  | none => simp [bind_eq_ok_iff]
  | some data => simp

end Members

/-- Entries are read exactly if those that belong to no field can be passed over and what is given
for each field can be read for it. -/
theorem Sound.readEntries_eq_ok_iff (sound : layout.Sound) {Source : Type}
    {reader : (kind : Kind) → Source → Except ReadError kind.Data}
    {skip : Source → Except ReadError Unit} {entries : List (String × Source)}
    {filled result : layout.Filled} :
    layout.readMembers .ok reader skip filled entries = .ok result ↔
      (∀ entry ∈ entries, layout.field? entry.1 = none → skip entry.2 = .ok ()) ∧
        ∀ field, Gathers (reader (layout.kind field)) (filled field) (layout.given entries field)
          (result field) := by
  -- from entry to entry the fields fill up, and what a field holds is kept from then on
  induction entries generalizing filled with
  | nil =>
    rw [readMembers, Except.ok.injEq, funext_iff]
    simp [given, Gathers, eq_comm]
  | cons head rest ih =>
    obtain ⟨name, source⟩ := head
    rw [List.forall_mem_cons]
    cases found : layout.field? name with
    | none =>
      have unlike : ∀ field, name ≠ layout.name field := by
        intro field same
        rw [same, sound.field?_name] at found
        cases found
      have unchanged : ∀ field, layout.given ((name, source) :: rest) field =
          layout.given rest field := fun field => given_cons_other (unlike field) source rest
      rw [readMembers_cons_other rfl found, ih, forall_prop_of_true rfl, and_assoc]
      simp only [unchanged]
    | some field =>
      obtain rfl : layout.name field = name := by simpa using List.find?_some found
      have passed : some field = none → skip source = .ok () := fun other => nomatch other
      rw [readMembers_cons_field rfl found, sound.forall_gathers_cons_iff, and_iff_right passed]
      simp only [ih]
      constructor
      · intro ⟨free, data, read, skipped, later⟩
        exact ⟨skipped, free, data, read, later⟩
      · intro ⟨skipped, free, data, read, later⟩
        exact ⟨free, data, read, skipped, later⟩

/-- What a field holds once the members are read: the data of the member with its name, or what it
held before if there is none. -/
def Takes (filled : layout.Filled) (members : List (String × Value)) (field : Field)
    (held : Option (layout.kind field).Data) : Prop :=
  match Value.lookup? (layout.name field) members with
  | none => held = filled field
  | some value => ∃ data, (layout.kind field).ofValue value = .ok data ∧ held = some data

omit [DecidableEq Field] in
theorem length_given {Source : Type} (entries : List (String × Source)) (field : Field) :
    (layout.given entries field).length = (entries.map (·.1)).count (layout.name field) := by
  rw [given, List.length_map, List.count, List.countP_map, List.countP_eq_length_filter]
  rfl

omit [DecidableEq Field] in
theorem mem_given_iff {Source : Type} {entries : List (String × Source)} {field : Field}
    {source : Source} :
    source ∈ layout.given entries field ↔ (layout.name field, source) ∈ entries := by
  simp [given]

omit [DecidableEq Field] in
theorem given_of_absent {Source : Type} {entries : List (String × Source)} {field : Field}
    (absent : layout.name field ∉ entries.map (·.1)) : layout.given entries field = [] := by
  rw [← List.length_eq_zero_iff, length_given]
  exact List.count_eq_zero.2 absent

omit [DecidableEq Field] in
theorem given_of_once {Source : Type} {entries : List (String × Source)} {field : Field}
    {source : Source} (once : (entries.map (·.1)).count (layout.name field) ≤ 1)
    (inside : (layout.name field, source) ∈ entries) : layout.given entries field = [source] := by
  have among := mem_given_iff.2 inside
  rw [← length_given] at once
  obtain ⟨other, alone⟩ := List.length_eq_one_iff.1
    (Nat.le_antisymm once (List.length_pos_of_mem among))
  rw [alone, List.mem_singleton] at among
  rw [alone, among]

omit [DecidableEq Field] in
/-- Where a name is given once at most, there is no difference between all that is given for it and
what is found by it. -/
theorem takes_iff_gathers {members : List (String × Value)} {field : Field}
    (once : (Value.names members).count (layout.name field) ≤ 1) {filled : layout.Filled}
    (fresh : layout.name field ∈ Value.names members → filled field = none)
    {held : Option (layout.kind field).Data} :
    Takes filled members field held ↔
      Gathers (layout.kind field).ofValue (filled field) (layout.given members field) held := by
  cases found : Value.lookup? (layout.name field) members with
  | none =>
    rw [Takes, found, given_of_absent (Value.lookup?_eq_none_iff.1 found)]
    rfl
  | some value =>
    have inside := Value.mem_of_lookup? found
    rw [Takes, found, given_of_once once inside]
    exact (and_iff_right (fresh (List.mem_map.2 ⟨_, inside, rfl⟩))).symm

/-- Where no name of a field is given twice, members are read exactly if each of them that belongs
to a field can be read for it. -/
theorem Sound.readMembers_eq_ok_iff (sound : layout.Sound) {members : List (String × Value)}
    (once : ∀ field, (Value.names members).count (layout.name field) ≤ 1)
    {filled : layout.Filled}
    (fresh : ∀ field, layout.name field ∈ Value.names members → filled field = none)
    {result : layout.Filled} :
    layout.readMembers .ok Kind.ofValue (fun _ => .ok ()) filled members = .ok result ↔
      ∀ field, Takes filled members field (result field) := by
  rw [sound.readEntries_eq_ok_iff, and_iff_right fun _ _ _ => rfl]
  exact forall_congr' fun field => (takes_iff_gathers (once field) (fresh field)).symm

/-- A record is read back from an object that has its members in any order. -/
theorem Sound.ofValue_object (sound : layout.Sound) (partly : Bool) (filled : layout.Filled)
    {members : List (String × Value)} (same : members.Perm (layout.members filled)) :
    layout.ofValue partly (.object members) = .ok filled := by
  have onceThere := sound.nodup_names filled
  have once : (Value.names members).Nodup := (same.map _).nodup_iff.2 onceThere
  have single : ∀ field, (Value.names members).count (layout.name field) ≤ 1 :=
    fun _ => List.nodup_iff_count_le_one.1 once _
  refine (sound.readMembers_eq_ok_iff single fun _ _ => rfl).2 fun field => ?_
  rw [Takes, (Value.perm_iff_lookup? once onceThere).1 same]
  cases held : filled field with
  | none =>
    have absent : layout.name field ∉ Value.names (layout.members filled) := fun called =>
      (sound.name_mem_names_iff filled field).1 called held
    rw [Value.lookup?_eq_none_iff.2 absent]
  | some data =>
    have drawn := mem_members.2 ⟨field, sound.complete field, data, held, rfl⟩
    rw [(Value.lookup?_eq_some_iff onceThere).2 drawn]
    exact ⟨data, (layout.kind field).ofValue_toValue (sound.faithful field) data, rfl⟩

/-! ## What is written for a record -/

omit [DecidableEq Field] in
theorem firstFloat?_drawn {filled : layout.Filled} {members : List (String × Value)}
    (drawn : ∀ member ∈ members, member ∈ layout.members filled) :
    (Value.object members).firstFloat? = none := by
  rw [Value.firstFloat?, Value.firstFloatMembers?_eq_none_iff]
  intro member inside
  obtain ⟨field, -, data, -, rfl⟩ := mem_members.1 (drawn member inside)
  exact Kind.firstFloat?_toValue _ data

omit [DecidableEq Field] in
theorem nesting_drawn_le {depth : Nat} (shallow : ∀ field, (layout.kind field).nesting ≤ depth)
    {filled : layout.Filled} {members : List (String × Value)}
    (drawn : ∀ member ∈ members, member ∈ layout.members filled) :
    (Value.object members).nesting ≤ depth + 1 := by
  rw [Value.nesting]
  apply Nat.succ_le_succ
  rw [Value.nestingMembers_le_iff]
  intro member inside
  obtain ⟨field, -, data, -, rfl⟩ := mem_members.1 (drawn member inside)
  exact Nat.le_trans (Kind.nesting_toValue_le _ data) (shallow field)

omit [DecidableEq Field] in
/-- No data of a kind has members, so only those of the record itself are put in order. -/
theorem sorted_members (filled : layout.Filled) :
    (Value.object (layout.members filled)).sorted =
      .object (Value.sortMembers (layout.members filled)) := by
  have inOrder : ∀ member ∈ layout.members filled, member.2.sorted = member.2 := by
    intro member inside
    obtain ⟨field, -, data, -, rfl⟩ := mem_members.1 inside
    exact Kind.sorted_toValue _ data
  rw [Value.sorted, Value.sortedMembers_of_sorted inOrder]

omit [DecidableEq Field] in
theorem sorted_record (filled : layout.Filled) :
    (Value.object (Value.sortMembers (layout.members filled))).sorted =
      .object (Value.sortMembers (layout.members filled)) := by
  rw [← sorted_members, Value.sorted_sorted]

theorem Sound.ofValue_record (sound : layout.Sound) (partly : Bool) (filled : layout.Filled) :
    layout.ofValue partly (.object (Value.sortMembers (layout.members filled))) = .ok filled :=
  sound.ofValue_object partly filled (Value.perm_sortMembers (sound.nodup_names filled))

end Layout

end RelayCheck.Json
