import RelayCheck.Proofs.Json.Agreement

/-!
Records are read from objects by what the objects give for each field.

An object is told by the names and the values of its entries. How the names are escaped, what blanks
there are, in which order the entries stand and what there is of other names makes no difference. A
field that may be given once is not read from two entries, and nothing else than its data is read
for it.
-/

set_option autoImplicit false

namespace RelayCheck.Json

/-- The text is an object with these entries in order. Nothing is wrong in their values, but they
need not be read as anything. -/
def ObjectWritten (entries : List (String × Tree)) (text : String) : Prop :=
  ∃ members : List (StringText × Tree), (Tree.object members .closed).Complete ∧
    List.Forall₂ (fun member entry => member.1.Means entry.1 ∧ member.2 = entry.2)
      members entries ∧
    Token.ListWritten (Tree.object members .closed).tokens text.toList

/-- The entry has the name of the member and stands for its value. -/
def Tells (entry : String × Tree) (member : String × Value) : Prop :=
  entry.1 = member.1 ∧ entry.2.Means member.2

theorem names_of_tells {told : List (String × Tree)} {members : List (String × Value)}
    (tells : List.Forall₂ Tells told members) : told.map (·.1) = Value.names members := by
  induction tells with
  | nil => rfl
  | cons first _ ih => rw [List.map_cons, Value.names_cons, first.1, ih]

theorem exists_told {told : List (String × Tree)} {members : List (String × Value)}
    (tells : List.Forall₂ Tells told members) {name : String} {value : Value}
    (inside : (name, value) ∈ members) : ∃ tree, (name, tree) ∈ told ∧ tree.Means value := by
  induction tells with
  | nil => cases inside
  | @cons entry _ _ _ first _ ih =>
    rcases List.mem_cons.1 inside with rfl | later
    · obtain ⟨label, tree⟩ := entry
      obtain ⟨rfl, means⟩ := first
      exact ⟨tree, List.mem_cons_self, means⟩
    · obtain ⟨tree, there, means⟩ := ih later
      exact ⟨tree, List.mem_cons_of_mem _ there, means⟩

/-! ## Data and the trees that stand for them -/

theorem Width.toInt_ofInt (width : Width) {value : Int}
    (within : width.least ≤ value ∧ value < width.limit) :
    width.toInt (width.ofInt value) = value := by
  obtain ⟨low, high⟩ := within
  cases width with
  | u16 =>
    simp only [least, limit] at low high
    simp only [ofInt, toInt, UInt16.ofInt, UInt16.toNat_ofNat']
    omega
  | u32 =>
    simp only [least, limit] at low high
    simp only [ofInt, toInt, UInt32.ofInt, UInt32.toNat_ofNat']
    omega
  | u64 =>
    simp only [least, limit] at low high
    simp only [ofInt, toInt, UInt64.ofInt, UInt64.toNat_ofNat']
    omega
  | i64 =>
    simp only [least, limit] at low high
    exact Int64.toInt_ofInt_of_le low (by omega)

theorem Width.ofNumber_eq_ok_iff {width : Width} {number : Number} {data : width.Data} :
    width.ofNumber number = .ok data ↔ number = width.toNumber data := by
  constructor
  · intro read
    cases number with
    | whole value low high =>
      rw [ofNumber] at read
      split at read
      · next within =>
        cases read
        simp only [toNumber, width.toInt_ofInt within]
      · cases read
    | float bits => cases read
  · intro same
    rw [same, ofNumber_toNumber]

theorem Tree.means_string_iff {string : StringText} {text : String} :
    (Tree.string string).Means (.string text) ↔ string.Means text := by
  constructor
  · intro means
    cases means with
    | string means => exact means
  · exact .string

theorem Kind.readAll_eq_ok_iff_means {item : Kind}
    (each : ∀ {tree : Tree} {data : item.Data},
      item.read tree = .ok data ↔ tree.Means (item.toValue data))
    {items : List Tree} {data : List item.Data} :
    readAll item.read items = .ok data ↔ Tree.ItemsMean items (data.map item.toValue) := by
  induction items generalizing data with
  | nil =>
    cases data with
    | nil => exact iff_of_true rfl .nil
    | cons _ _ =>
      refine iff_of_false (fun same => ?_) fun means => ?_
      · cases same
      · cases means
  | cons tree rest ih =>
    simp only [readAll, bind_eq_ok_iff, each, ih]
    constructor
    · intro read
      obtain ⟨first, means, others, more, same⟩ := read
      cases same
      exact .cons means more
    · intro means
      cases data with
      | nil => cases means
      | cons first others =>
        cases means with
        | cons means more => exact ⟨first, means, others, more, rfl⟩

/-- Data of a kind are read from the trees that stand for their value, and from no others. -/
theorem Kind.read_eq_ok_iff_means (kind : Kind) (free : kind.Free) (faithful : kind.Faithful)
    {tree : Tree} {data : kind.Data} :
    kind.read tree = .ok data ↔ tree.Means (kind.toValue data) := by
  induction kind generalizing tree with
  | string =>
    cases tree with
    | string text =>
      rw [read, orFault_eq_ok_iff, StringText.decode_eq_ok_iff]
      exact Tree.means_string_iff.symm
    | _ =>
      refine iff_of_false (Tree.refuse_ne_ok _ _ _) fun means => ?_
      cases means
  | whole width =>
    cases tree with
    | number numeral =>
      simp only [read, bind_eq_ok_iff, orFault_eq_ok_iff, Width.ofNumber_eq_ok_iff]
      constructor
      · intro read
        obtain ⟨number, held, same⟩ := read
        exact .number (same ▸ held)
      · intro means
        cases means with
        | number held => exact ⟨_, held, rfl⟩
    | _ =>
      refine iff_of_false (Tree.refuse_ne_ok _ _ _) fun means => ?_
      cases means
  | list item ih =>
    cases tree with
    | array items ending =>
      simp only [read, bind_eq_ok_iff, Tree.check_eq_ok_iff,
        readAll_eq_ok_iff_means fun {_ _} => ih free faithful]
      constructor
      · intro read
        obtain ⟨_, each, _, closed, same⟩ := read
        cases same
        rw [closed]
        exact .array each
      · intro means
        cases means with
        | array each => exact ⟨data, each, (), rfl, rfl⟩
    | _ =>
      refine iff_of_false (Tree.refuse_ne_ok _ _ _) fun means => ?_
      cases means
  | optional inner ih =>
    obtain ⟨mandatory, inner_faithful⟩ := faithful.inner
    cases data with
    | none =>
      cases tree with
      | null => exact iff_of_true rfl .null
      | _ =>
        refine iff_of_false (fun accepted => ?_) fun means => ?_
        · obtain ⟨_, _, same⟩ := bind_eq_ok_iff.1 accepted
          cases same
        · cases means
    | some datum =>
      cases tree with
      | null =>
        refine iff_of_false (fun accepted => ?_) fun means => ?_
        · cases accepted
        · have other := toValue_ne_null mandatory datum
          rw [toValue] at means
          generalize inner.toValue datum = value at other means
          cases means
          exact other rfl
      | _ =>
        rw [toValue, ← ih free inner_faithful]
        simp [read, bind_eq_ok_iff, pure, Except.pure]
  | choice names => exact free.elim

/-- A choice is read from every spelling of its name. -/
theorem Kind.readChoice_of_means {names : List String} {name : String}
    {position : Fin names.length} {tree : Tree} (chosen : choose names name = .ok position)
    (means : tree.Means (.string name)) : readChoice names tree = .ok position := by
  cases means with
  | string means =>
    rw [readChoice, StringText.decode_eq_ok_iff.2 means]
    exact chosen

/-! ## Objects -/

theorem Tree.skip_of_skipMembers {members : List (StringText × Tree)}
    (passed : skipMembers members = .ok ()) : ∀ member ∈ members, member.2.skip = .ok () := by
  induction members with
  | nil => exact List.forall_mem_nil _
  | cons head rest ih =>
    obtain ⟨name, tree⟩ := head
    obtain ⟨_, _, later⟩ := bind_eq_ok_iff.1 passed
    obtain ⟨_, first, others⟩ := bind_eq_ok_iff.1 later
    exact List.forall_mem_cons.2 ⟨first, ih others⟩

/-- What is read from the text of an object is read from a tree of which every member can be passed
over. -/
theorem ObjectWritten.exists_members {entries : List (String × Tree)} {text : String}
    (written : ObjectWritten entries text) :
    ∃ members : List (StringText × Tree),
      List.Forall₂ (fun member entry => member.2.skip = .ok () ∧ member.1.Means entry.1 ∧
        member.2 = entry.2) members entries ∧
      ∀ {Data : Type} (reader : Tree → Except ReadError Data) (data : Data),
        (Document.ofText text).read reader = .ok data ↔
          reader (.object members .closed) = .ok data := by
  obtain ⟨members, complete, each, tokens⟩ := written
  obtain ⟨_, passed, _⟩ := bind_eq_ok_iff.1 (Tree.skip_of_clean _ complete tokens.clean)
  refine ⟨members, ?_, fun reader data => ?_⟩
  · exact (List.forall₂_and_left _ _).2 ⟨Tree.skip_of_skipMembers passed, each⟩
  · rw [Document.ofText_of_written complete tokens, Document.read_eq_ok_iff]
    simp

namespace Layout

variable {Field : Type} {layout : Layout Field}

/-- The entries give a field the data that it holds, or nothing if it holds none. -/
def Holds (layout : Layout Field) (entries : List (String × Tree)) (field : Field) :
    Option (layout.kind field).Data → Prop
  | none => layout.given entries field = []
  | some data =>
    ∃ tree, layout.given entries field = [tree] ∧ tree.Means ((layout.kind field).toValue data)

theorem gathers_read_iff {field : Field} (free : (layout.kind field).Free)
    (faithful : (layout.kind field).Faithful) {entries : List (String × Tree)}
    {held : Option (layout.kind field).Data} :
    Gathers (layout.kind field).read none (layout.given entries field) held ↔
      layout.Holds entries field held := by
  have means : ∀ {tree : Tree} {data : (layout.kind field).Data},
      (layout.kind field).read tree = .ok data ↔
        tree.Means ((layout.kind field).toValue data) :=
    Kind.read_eq_ok_iff_means _ free faithful
  cases held with
  | none =>
    rw [Holds]
    cases layout.given entries field with
    | nil => simp [Gathers]
    | cons _ more => cases more <;> simp [Gathers]
  | some data =>
    rw [Holds]
    cases layout.given entries field with
    | nil => simp [Gathers]
    | cons _ more => cases more <;> simp [Gathers, means]

variable [DecidableEq Field]

omit [DecidableEq Field] in
theorem require_eq_ok_iff {filled : layout.Filled} {field : Field}
    {data : (layout.kind field).Data} :
    layout.require filled field = .ok data ↔ filled field = some data := by
  rw [require]
  cases filled field with
  | none => simp
  | some held => rw [Except.ok.injEq, Option.some.injEq]

/-- What is made of the record in an object is made of what is read for its fields. -/
theorem Sound.document_read_gathers_iff {Data : Type} (sound : layout.Sound) (partly : Bool)
    (make : layout.Filled → Except ReadError Data) {entries : List (String × Tree)} {text : String}
    (written : ObjectWritten entries text) {data : Data} :
    (Document.ofText text).read (fun tree => layout.read partly tree >>= make) = .ok data ↔
      ∃ filled, (∀ field, Gathers (layout.kind field).read none (layout.given entries field)
        (filled field)) ∧ make filled = .ok data := by
  obtain ⟨members, each, made⟩ := written.exists_members
  have agree : ∀ filled : layout.Filled,
      layout.read partly (.object members .closed) = .ok filled ↔
        ∀ field, Gathers (layout.kind field).read none (layout.given entries field)
          (filled field) := by
    intro filled
    have alike : layout.readMembers (fun text => orFault text.decode) Kind.read Tree.skip
        layout.empty members = .ok filled ↔
        layout.readMembers .ok Kind.read (fun _ => .ok ()) layout.empty entries = .ok filled := by
      refine readMembers_congr (each.imp fun member entry ⟨passed, named, same⟩ => ⟨?_, ?_, ?_⟩)
      · exact orFault_eq_ok_iff.2 (StringText.decode_eq_ok_iff.2 named)
      · exact iff_of_true passed rfl
      · intro field _ data
        rw [same]
    rw [sound.readEntries_eq_ok_iff, and_iff_right fun _ _ _ => rfl] at alike
    simp only [empty] at alike
    rw [← alike, Layout.read]
    simp [bind_eq_ok_iff, Tree.check_eq_ok_iff, pure, Except.pure]
  rw [made, bind_eq_ok_iff]
  simp only [agree]

/-- What is made of the record in an object is made of what the entries give for its fields. -/
theorem Sound.document_read_object_iff {Data : Type} (sound : layout.Sound)
    (free : ∀ field, (layout.kind field).Free) (partly : Bool)
    (make : layout.Filled → Except ReadError Data) {entries : List (String × Tree)} {text : String}
    (written : ObjectWritten entries text) {data : Data} :
    (Document.ofText text).read (fun tree => layout.read partly tree >>= make) = .ok data ↔
      ∃ filled, (∀ field, layout.Holds entries field (filled field)) ∧ make filled = .ok data := by
  have gathered := fun field =>
    @gathers_read_iff _ layout field (free field) (sound.faithful field) entries
  rw [sound.document_read_gathers_iff partly make written]
  simp only [gathered]

section Known

variable {Source : Type} {entries known others : List (String × Source)} {field : Field}

omit [DecidableEq Field] in
/-- Of entries with different names, among others that do not have the name of a field, the field is
given just the one that has it. -/
theorem given_of_known (same : entries.Perm (known ++ others))
    (different : (known.map (·.1)).Nodup)
    (strange : ∀ other ∈ others, other.1 ≠ layout.name field) {source : Source}
    (inside : (layout.name field, source) ∈ known) : layout.given entries field = [source] := by
  have nowhere : layout.name field ∉ others.map (·.1) := by
    intro called
    obtain ⟨other, there, named⟩ := List.mem_map.1 called
    exact strange other there named
  refine given_of_once ?_ (same.mem_iff.2 (List.mem_append_left others inside))
  rw [(same.map _).count_eq, List.map_append, List.count_append, List.count_eq_zero.2 nowhere]
  exact List.nodup_iff_count_le_one.1 different _

omit [DecidableEq Field] in
theorem given_of_unknown (same : entries.Perm (known ++ others))
    (strange : ∀ other ∈ others, other.1 ≠ layout.name field)
    (absent : layout.name field ∉ known.map (·.1)) : layout.given entries field = [] := by
  refine given_of_absent fun called => ?_
  obtain ⟨entry, there, named⟩ := List.mem_map.1 called
  rcases List.mem_append.1 (same.mem_iff.1 there) with inside | other
  · exact absent (List.mem_map.2 ⟨entry, inside, named⟩)
  · exact strange entry other named

omit [DecidableEq Field] in
theorem Sound.given_of_perm (sound : layout.Sound) {source : Field → Source}
    (same : entries.Perm (layout.fields.map (fun field => (layout.name field, source field)) ++
      others))
    (strange : ∀ other ∈ others, ∀ field, other.1 ≠ layout.name field) (field : Field) :
    layout.given entries field = [source field] := by
  refine given_of_known same ?_ (fun other inside => strange other inside field)
    (List.mem_map.2 ⟨field, sound.complete field, rfl⟩)
  rw [List.map_map]
  exact sound.once.map (sound.named · ·)

end Known

end Layout

end RelayCheck.Json
