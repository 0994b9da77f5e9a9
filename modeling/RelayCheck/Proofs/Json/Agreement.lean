import Mathlib.Data.List.Forall2
import Mathlib.Data.List.Nodup
import RelayCheck.Proofs.Json.Layout

/-!
Records are read alike from a text and from the value that the text stands for.

From a text the members come in the order of the text, and each is read as it is met; in a value
they are in order, and of members with one name only the last is left. Where no name of a field is
given twice, the fields found are the same, and so is what is read for each of them.
-/

set_option autoImplicit false

namespace RelayCheck.Json

namespace Tree

mutual

/-- A tree in which nothing is wrong is passed over. -/
theorem skip_of_clean (tree : Tree) (complete : tree.Complete)
    (clean : ∀ token ∈ tree.tokens, token.Clean) : tree.skip = .ok () := by
  match tree with
  | .null | .bool _ | .number _ => rfl
  | .string text =>
    have ended : text.ending = none := clean _ List.mem_cons_self
    rw [skip, StringText.skip, ended]
    rfl
  | .array items ending =>
    obtain ⟨each, rfl⟩ := complete
    have cleanItems : ∀ token ∈ itemTokens items, token.Clean := fun token inside =>
      clean token (List.mem_append_left _ (List.mem_cons_of_mem _ inside))
    rw [skip, skipItems_of_clean items each cleanItems]
    rfl
  | .object members ending =>
    obtain ⟨each, rfl⟩ := complete
    have cleanMembers : ∀ token ∈ memberTokens members, token.Clean := fun token inside =>
      clean token (List.mem_append_left _ (List.mem_cons_of_mem _ inside))
    rw [skip, skipMembers_of_clean members each cleanMembers]
    rfl
  | .damaged _ _ | .absent _ => exact complete.elim

theorem skipItems_of_clean (items : List Tree) (complete : CompleteItems items)
    (clean : ∀ token ∈ itemTokens items, token.Clean) : skipItems items = .ok () := by
  match items with
  | [] => rfl
  | [tree] =>
    rw [skipItems, skip_of_clean tree complete.1 clean]
    rfl
  | tree :: next :: rest =>
    rw [itemTokens, List.forall_mem_append, List.forall_mem_cons] at clean
    rw [skipItems, skip_of_clean tree complete.1 clean.1]
    exact skipItems_of_clean (next :: rest) complete.2 clean.2.2

theorem skipMembers_of_clean (members : List (StringText × Tree))
    (complete : CompleteMembers members) (clean : ∀ token ∈ memberTokens members, token.Clean) :
    skipMembers members = .ok () := by
  match members with
  | [] => rfl
  | [(name, tree)] =>
    rw [memberTokens, List.forall_mem_cons, List.forall_mem_cons] at clean
    have ended : name.ending = none := clean.1
    rw [skipMembers, StringText.skip, ended, skip_of_clean tree complete.1 clean.2.2]
    rfl
  | (name, tree) :: next :: rest =>
    rw [memberTokens, List.forall_mem_append, List.forall_mem_cons, List.forall_mem_cons,
      List.forall_mem_cons] at clean
    have ended : name.ending = none := clean.1.1
    rw [skipMembers, StringText.skip, ended, skip_of_clean tree complete.1 clean.1.2.2]
    exact skipMembers_of_clean (next :: rest) complete.2 clean.2.2

end

theorem ItemsMean.forall₂ {items : List Tree} {values : List Value}
    (each : ItemsMean items values) : List.Forall₂ Means items values := by
  induction items generalizing values with
  | nil =>
    cases each
    exact .nil
  | cons tree rest ih =>
    cases each with
    | cons first more => exact .cons first (ih more)

theorem ItemsMean.exists_means {items : List Tree} {values : List Value}
    (each : ItemsMean items values) {tree : Tree} (inside : tree ∈ items) :
    ∃ value, tree.Means value := by
  induction items generalizing values with
  | nil => cases inside
  | cons first rest ih =>
    cases each with
    | cons means more =>
      rcases List.mem_cons.1 inside with rfl | later
      · exact ⟨_, means⟩
      · exact ih more later

theorem MembersMean.forall₂ {members : List (StringText × Tree)} {values : List (String × Value)}
    (each : MembersMean members values) :
    List.Forall₂ (fun written member => written.1.Means member.1 ∧ written.2.Means member.2)
      members values := by
  induction members generalizing values with
  | nil =>
    cases each
    exact .nil
  | cons member rest ih =>
    cases each with
    | cons named first more => exact .cons ⟨named, first⟩ (ih more)

end Tree

namespace Kind

/-- There is no choice in data of the kind. A choice may be an object with one member, and to give
that member twice is a fault in a text only. -/
def Free : Kind → Prop
  | .string | .whole _ => True
  | .list item => item.Free
  | .optional inner => inner.Free
  | .choice _ => False

theorem readAll_congr {Source Other Data : Type} {reader : Source → Except ReadError Data}
    {otherReader : Other → Except ReadError Data} {sources : List Source} {others : List Other}
    (each : List.Forall₂
      (fun source other => ∀ datum, reader source = .ok datum ↔ otherReader other = .ok datum)
      sources others) {data : List Data} :
    readAll reader sources = .ok data ↔ readAll otherReader others = .ok data := by
  induction each generalizing data with
  | nil => rfl
  | cons first _ ih => simp only [readAll, bind_eq_ok_iff, first, ih]

/-- Data are read alike from a tree and from the value that it stands for. -/
theorem read_eq_ok_iff (kind : Kind) (free : kind.Free) {tree : Tree} {value : Value}
    (means : tree.Means value) {data : kind.Data} :
    kind.read tree = .ok data ↔ kind.ofValue value.sorted = .ok data := by
  induction kind generalizing tree value with
  | string =>
    cases means with
    | string means =>
      rw [read, StringText.decode_eq_ok_iff.2 means]
      rfl
    | _ => simp [read, ofValue, Value.sorted, Tree.refuse_ne_ok]
  | whole width =>
    cases means with
    | number number =>
      rw [read, number]
      rfl
    | _ => simp [read, ofValue, Value.sorted, Tree.refuse_ne_ok]
  | list item ih =>
    cases means with
    | @array items values each =>
      have agree : readAll item.read items = .ok data ↔
          readAll item.ofValue (values.map Value.sorted) = .ok data := by
        apply readAll_congr
        rw [List.forall₂_map_right_iff]
        exact each.forall₂.imp fun _ _ means _ => ih free means
      rw [read, Value.sorted, ofValue, Value.sortedItems_eq_map, ← agree]
      simp [bind_eq_ok_iff, Tree.check_eq_ok_iff, pure, Except.pure]
    | _ => simp [read, ofValue, Value.sorted, Tree.refuse_ne_ok]
  | optional inner ih =>
    have agree : ∀ datum, inner.read tree = .ok datum ↔ inner.ofValue value.sorted = .ok datum :=
      fun _ => ih free means
    cases means with
    | null => rfl
    | _ =>
      rw [Value.sorted] at agree ⊢
      simp only [read, ofValue, bind_eq_ok_iff, agree]
  | choice names => exact free.elim

end Kind

namespace Layout

variable {Field : Type} [DecidableEq Field] {layout : Layout Field}

/-! ## Members -/

/-- Members are read as others are, each in its place, if their names can be read, the same can be
passed over and what is read for the field of a name is the same. -/
theorem readMembers_congr {Name Source Other : Type} {nameOf : Name → Except ReadError String}
    {reader : (kind : Kind) → Source → Except ReadError kind.Data}
    {otherReader : (kind : Kind) → Other → Except ReadError kind.Data}
    {skip : Source → Except ReadError Unit} {otherSkip : Other → Except ReadError Unit}
    {members : List (Name × Source)} {others : List (String × Other)}
    (each : List.Forall₂
      (fun written member => nameOf written.1 = .ok member.1 ∧
        (skip written.2 = .ok () ↔ otherSkip member.2 = .ok ()) ∧
        ∀ field, layout.field? member.1 = some field → ∀ data,
          reader (layout.kind field) written.2 = .ok data ↔
            otherReader (layout.kind field) member.2 = .ok data)
      members others) {filled result : layout.Filled} :
    layout.readMembers nameOf reader skip filled members = .ok result ↔
      layout.readMembers .ok otherReader otherSkip filled others = .ok result := by
  induction each generalizing filled with
  | nil => rfl
  | @cons written member _ _ first _ ih =>
    obtain ⟨named, skipped, agree⟩ := first
    cases found : layout.field? member.1 with
    | none =>
      rw [readMembers_cons_other named found, readMembers_cons_other rfl found, skipped, ih]
    | some field =>
      rw [readMembers_cons_field named found, readMembers_cons_field rfl found]
      simp only [agree field found, ih]

/-- No name of a field is given twice among the members of an object. -/
def Unrepeated (layout : Layout Field) : Value → Prop
  | .object members => ∀ field, (Value.names members).count (layout.name field) ≤ 1
  | .null | .bool _ | .number _ | .string _ | .array _ => True

/-- The members of an object are read alike whether or not they are in order. -/
theorem Sound.readMembers_sortMembers (sound : layout.Sound) {members : List (String × Value)}
    (once : ∀ field, (Value.names members).count (layout.name field) ≤ 1)
    {result : layout.Filled} :
    layout.readMembers .ok Kind.ofValue (fun _ => .ok ()) layout.empty members = .ok result ↔
      layout.readMembers .ok Kind.ofValue (fun _ => .ok ()) layout.empty
        (Value.sortMembers members) = .ok result := by
  have onceSorted : ∀ field,
      (Value.names (Value.sortMembers members)).count (layout.name field) ≤ 1 := by
    intro field
    have increasing := Value.increasing_sortMembers members
    exact List.nodup_iff_count_le_one.1 (increasing.imp Std.ne_of_lt) _
  have fresh : ∀ (called : List String) (field : Field), layout.name field ∈ called →
      layout.empty field = none := fun _ _ _ => rfl
  rw [sound.readMembers_eq_ok_iff once (fresh _), sound.readMembers_eq_ok_iff onceSorted (fresh _)]
  simp only [Takes, fun field => Value.lookup?_sortMembers (once field)]

theorem Sound.read_object_iff (sound : layout.Sound) (free : ∀ field, (layout.kind field).Free)
    (partly : Bool) {members : List (StringText × Tree)} {values : List (String × Value)}
    (each : Tree.MembersMean members values) (once : layout.Unrepeated (.object values))
    {filled : layout.Filled} :
    layout.read partly (.object members .closed) = .ok filled ↔
      layout.ofValue partly (Value.object values).sorted = .ok filled := by
  have agree : layout.readMembers (fun text => orFault text.decode) Kind.read Tree.skip
      layout.empty members = .ok filled ↔
      layout.readMembers .ok Kind.ofValue (fun _ => .ok ()) layout.empty
        (Value.sortedMembers values) = .ok filled := by
    apply readMembers_congr
    rw [Value.sortedMembers_eq_map, List.forall₂_map_right_iff]
    refine each.forall₂.imp fun written member means => ⟨?_, ?_, ?_⟩
    · exact orFault_eq_ok_iff.2 (StringText.decode_eq_ok_iff.2 means.1)
    · exact iff_of_true (Tree.skip_of_clean _ means.2.complete means.2.clean) rfl
    · exact fun field _ data => (layout.kind field).read_eq_ok_iff (free field) means.2
  have single : ∀ field,
      (Value.names (Value.sortedMembers values)).count (layout.name field) ≤ 1 := by
    simpa [Unrepeated] using once
  rw [Value.sorted, ofValue, ← sound.readMembers_sortMembers single, ← agree, read]
  simp [bind_eq_ok_iff, Tree.check_eq_ok_iff, pure, Except.pure]

/-! ## Items -/

theorem readItems_congr {Source Other : Type}
    {reader : (kind : Kind) → Source → Except ReadError kind.Data}
    {otherReader : (kind : Kind) → Other → Except ReadError kind.Data} {sources : List Source}
    {others : List Other}
    (each : List.Forall₂
      (fun source other => ∀ field data, reader (layout.kind field) source = .ok data ↔
        otherReader (layout.kind field) other = .ok data)
      sources others) {fields missing : List Field} {filled result : layout.Filled} :
    layout.readItems reader filled fields sources = .ok (result, missing, []) ↔
      layout.readItems otherReader filled fields others = .ok (result, missing, []) := by
  induction each generalizing fields filled with
  | nil => cases fields <;> simp [readItems]
  | cons first _ ih =>
    cases fields with
    | nil => simp [readItems]
    | cons field rest => simp only [readItems, bind_eq_ok_iff, first, ih]

/-- Items are left over only where no field is. -/
theorem nil_or_nil_of_readItems {Source : Type}
    {reader : (kind : Kind) → Source → Except ReadError kind.Data} {sources left : List Source}
    {fields missing : List Field} {filled result : layout.Filled}
    (read : layout.readItems reader filled fields sources = .ok (result, missing, left)) :
    missing = [] ∨ left = [] := by
  induction sources generalizing fields filled with
  | nil => cases fields <;> cases read <;> exact .inr rfl
  | cons source rest ih =>
    cases fields with
    | nil =>
      cases read
      exact .inl rfl
    | cons field fields =>
      obtain ⟨data, -, later⟩ := bind_eq_ok_iff.1 read
      exact ih later

/-- Whatever is read in the end, no items may be left over, and fields only if some may be. -/
theorem readItems_bind_eq_ok_iff {Source : Type}
    {reader : (kind : Kind) → Source → Except ReadError kind.Data} {partly : Bool}
    {finish : layout.Filled × List Field × List Source → Except ReadError layout.Filled}
    (whole : ∀ result, finish (result, [], []) = .ok result)
    (surplus : ∀ result source rest filled, finish (result, [], source :: rest) ≠ .ok filled)
    (short : ∀ result field rest left, finish (result, field :: rest, left) =
      if partly then .ok result else .error (layout.tooShort (field :: rest)))
    {items : List Source} {filled : layout.Filled} :
    layout.readItems reader layout.empty layout.fields items >>= finish = .ok filled ↔
      ∃ missing, layout.readItems reader layout.empty layout.fields items =
        .ok (filled, missing, []) ∧ (missing = [] ∨ partly = true) := by
  rw [bind_eq_ok_iff]
  constructor
  · intro ⟨⟨result, missing, left⟩, read, accepted⟩
    cases missing with
    | nil =>
      cases left with
      | nil =>
        obtain rfl := Except.ok.inj ((whole result).symm.trans accepted)
        exact ⟨[], read, .inl rfl⟩
      | cons source rest => exact absurd accepted (surplus result source rest filled)
    | cons field rest =>
      obtain rfl := (nil_or_nil_of_readItems read).resolve_left (List.cons_ne_nil _ _)
      rw [short] at accepted
      split at accepted
      · next allowed =>
        cases accepted
        exact ⟨_, read, .inr allowed⟩
      · cases accepted
  · intro ⟨missing, read, enough⟩
    refine ⟨_, read, ?_⟩
    cases missing with
    | nil => exact whole filled
    | cons field rest => rw [short, if_pos (enough.resolve_left (List.cons_ne_nil _ _))]

theorem read_array_eq_ok_iff {partly : Bool} {items : List Tree} {filled : layout.Filled} :
    layout.read partly (.array items .closed) = .ok filled ↔
      ∃ missing, layout.readItems Kind.read layout.empty layout.fields items =
        .ok (filled, missing, []) ∧ (missing = [] ∨ partly = true) :=
  readItems_bind_eq_ok_iff (fun _ => rfl) (fun _ _ _ _ accepted => by cases accepted)
    (fun _ _ _ _ => rfl)

theorem ofValue_array_eq_ok_iff {partly : Bool} {items : List Value} {filled : layout.Filled} :
    layout.ofValue partly (.array items) = .ok filled ↔
      ∃ missing, layout.readItems Kind.ofValue layout.empty layout.fields items =
        .ok (filled, missing, []) ∧ (missing = [] ∨ partly = true) :=
  readItems_bind_eq_ok_iff (fun _ => rfl) (fun _ _ _ _ accepted => by cases accepted)
    (fun _ _ _ _ => rfl)

theorem read_array_iff (free : ∀ field, (layout.kind field).Free) (partly : Bool)
    {items : List Tree} {values : List Value} (each : Tree.ItemsMean items values)
    {filled : layout.Filled} :
    layout.read partly (.array items .closed) = .ok filled ↔
      layout.ofValue partly (Value.array values).sorted = .ok filled := by
  have agree : List.Forall₂
      (fun tree value => ∀ field data, Kind.read (layout.kind field) tree = .ok data ↔
        Kind.ofValue (layout.kind field) value = .ok data)
      items (values.map Value.sorted) := by
    rw [List.forall₂_map_right_iff]
    exact each.forall₂.imp fun _ _ means field _ =>
      (layout.kind field).read_eq_ok_iff (free field) means
  rw [Value.sorted, Value.sortedItems_eq_map, read_array_eq_ok_iff, ofValue_array_eq_ok_iff]
  simp only [readItems_congr agree]

/-- A record is read alike from a tree and from the value that it stands for, if the names of its
fields are not repeated. -/
theorem Sound.read_eq_ok_iff (sound : layout.Sound) (free : ∀ field, (layout.kind field).Free)
    (partly : Bool) {tree : Tree} {value : Value} (means : tree.Means value)
    (once : layout.Unrepeated value) {filled : layout.Filled} :
    layout.read partly tree = .ok filled ↔ layout.ofValue partly value.sorted = .ok filled := by
  cases means with
  | object each => exact sound.read_object_iff free partly each once
  | array each => exact read_array_iff free partly each
  | _ => simp [read, ofValue, Value.sorted, Tree.refuse_ne_ok]

/-- What is made of a record is the same from a text and from the value that the text stands for. -/
theorem Sound.document_read_eq_ok_iff {Data : Type} (sound : layout.Sound)
    (free : ∀ field, (layout.kind field).Free) (partly : Bool)
    (make : layout.Filled → Except ReadError Data) {value : Value} {text : String}
    (written : value.WrittenAs text) (once : layout.Unrepeated value) {data : Data} :
    (Document.ofText text).read (fun tree => layout.read partly tree >>= make) = .ok data ↔
      layout.ofValue partly value.sorted >>= make = .ok data := by
  obtain ⟨tree, means, read⟩ := written.exists_tree
  rw [read, bind_eq_ok_iff, bind_eq_ok_iff]
  exact exists_congr fun _ => and_congr_left fun _ => sound.read_eq_ok_iff free partly means once

omit [DecidableEq Field] in
/-- Nothing is repeated in what is written for a record. -/
theorem Sound.unrepeated_members (sound : layout.Sound) (filled : layout.Filled) :
    layout.Unrepeated (.object (layout.members filled)) :=
  fun _ => List.nodup_iff_count_le_one.1 (sound.nodup_names filled) _

end Layout

end RelayCheck.Json
