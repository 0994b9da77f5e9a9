import Mathlib.Data.List.Count
import Mathlib.Data.Option.Basic
import RelayCheck.Proofs.Json.Entries

/-!
Texts in which nothing is wrong and that stand for no value.

A number may be too large to be held, and half of a surrogate pair is no character. Such a token is
noticed only if its value is asked for, so a record is read although one stands in a member that is
no field. Apart from this, what a record is read from stands for a value.
-/

set_option autoImplicit false

namespace RelayCheck.Json

/-- There is something that the token stands for. -/
def Token.Legible : Token → Prop
  | .number numeral => ∃ held, numeral.number = .ok held
  | .string written => ∃ text, written.Means text
  | .openArray | .closeArray | .openObject | .closeObject | .comma | .colon | .null | .bool _
  | .damaged _ _ | .stray => True

namespace Tree

open Token (Legible)

mutual

/-- How many arrays and objects stand around one another in a tree. -/
def nesting : Tree → Nat
  | .null | .bool _ | .number _ | .string _ | .damaged _ _ | .absent _ => 0
  | .array items _ => nestingItems items + 1
  | .object members _ => nestingMembers members + 1

def nestingItems : List Tree → Nat
  | [] => 0
  | tree :: rest => max (nesting tree) (nestingItems rest)

def nestingMembers : List (StringText × Tree) → Nat
  | [] => 0
  | (_, tree) :: rest => max (nesting tree) (nestingMembers rest)

end

mutual

theorem Means.nesting_eq {tree : Tree} {value : Value} (means : tree.Means value) :
    value.nesting = tree.nesting := by
  match means with
  | .null | .bool _ | .number _ | .string _ => rfl
  | .array each => rw [nesting, Value.nesting, each.nesting_eq]
  | .object each => rw [nesting, Value.nesting, each.nesting_eq]

theorem ItemsMean.nesting_eq {items : List Tree} {values : List Value}
    (each : ItemsMean items values) : Value.nestingItems values = nestingItems items := by
  match each with
  | .nil => rfl
  | .cons first rest => rw [nestingItems, Value.nestingItems, first.nesting_eq, rest.nesting_eq]

theorem MembersMean.nesting_eq {members : List (StringText × Tree)}
    {values : List (String × Value)} (each : MembersMean members values) :
    Value.nestingMembers values = nestingMembers members := by
  match each with
  | .nil => rfl
  | .cons _ first rest =>
    rw [nestingMembers, Value.nestingMembers, first.nesting_eq, rest.nesting_eq]

end

/-! ## What stands for a value -/

mutual

theorem Means.legible {tree : Tree} {value : Value} (means : tree.Means value) :
    ∀ token ∈ tree.tokens, token.Legible := by
  match means with
  | .null => simp [tokens, Legible]
  | .bool _ => simp [tokens, Legible]
  | .number read => simpa [tokens, Legible] using ⟨_, read⟩
  | .string means => simpa [tokens, Legible] using ⟨_, means⟩
  | .array each => simpa [tokens, Legible, or_imp, forall_and] using each.legible
  | .object each => simpa [tokens, Legible, or_imp, forall_and] using each.legible

theorem ItemsMean.legible {items : List Tree} {values : List Value}
    (each : ItemsMean items values) : ∀ token ∈ itemTokens items, token.Legible := by
  match each with
  | .nil => simp [itemTokens]
  | .cons first .nil => exact first.legible
  | .cons first (.cons second rest) =>
    have later := (ItemsMean.cons second rest).legible
    simpa [itemTokens, Legible, or_imp, forall_and] using ⟨first.legible, later⟩

theorem MembersMean.legible {members : List (StringText × Tree)}
    {values : List (String × Value)} (each : MembersMean members values) :
    ∀ token ∈ memberTokens members, token.Legible := by
  match each with
  | .nil => simp [memberTokens]
  | .cons named first .nil =>
    simpa [memberTokens, Legible, or_imp, forall_and] using ⟨⟨_, named⟩, first.legible⟩
  | .cons named first (.cons called second rest) =>
    have later := (MembersMean.cons called second rest).legible
    simpa [memberTokens, Legible, or_imp, forall_and] using ⟨⟨_, named⟩, first.legible, later⟩

end

mutual

theorem exists_means (tree : Tree) (complete : tree.Complete)
    (legible : ∀ token ∈ tree.tokens, token.Legible) : ∃ value, tree.Means value := by
  match tree with
  | .null => exact ⟨_, .null⟩
  | .bool value => exact ⟨_, .bool value⟩
  | .number numeral =>
    obtain ⟨held, read⟩ := legible (.number numeral) List.mem_cons_self
    exact ⟨_, .number read⟩
  | .string written =>
    obtain ⟨text, means⟩ := legible (.string written) List.mem_cons_self
    exact ⟨_, .string means⟩
  | .array items ending =>
    obtain ⟨each, rfl⟩ := complete
    obtain ⟨values, means⟩ := exists_itemsMean items each fun token inside =>
      legible token (List.mem_append_left _ (List.mem_cons_of_mem _ inside))
    exact ⟨_, .array means⟩
  | .object members ending =>
    obtain ⟨each, rfl⟩ := complete
    obtain ⟨values, means⟩ := exists_membersMean members each fun token inside =>
      legible token (List.mem_append_left _ (List.mem_cons_of_mem _ inside))
    exact ⟨_, .object means⟩
  | .damaged _ _ | .absent _ => exact complete.elim

theorem exists_itemsMean (items : List Tree) (complete : CompleteItems items)
    (legible : ∀ token ∈ itemTokens items, token.Legible) : ∃ values, ItemsMean items values := by
  match items with
  | [] => exact ⟨[], .nil⟩
  | [tree] =>
    obtain ⟨value, means⟩ := exists_means tree complete.1 legible
    exact ⟨[value], .cons means .nil⟩
  | tree :: next :: rest =>
    rw [itemTokens, List.forall_mem_append, List.forall_mem_cons] at legible
    obtain ⟨value, means⟩ := exists_means tree complete.1 legible.1
    obtain ⟨values, each⟩ := exists_itemsMean (next :: rest) complete.2 legible.2.2
    exact ⟨value :: values, .cons means each⟩

theorem exists_membersMean (members : List (StringText × Tree))
    (complete : CompleteMembers members)
    (legible : ∀ token ∈ memberTokens members, token.Legible) :
    ∃ values, MembersMean members values := by
  match members with
  | [] => exact ⟨[], .nil⟩
  | [(name, tree)] =>
    rw [memberTokens, List.forall_mem_cons, List.forall_mem_cons] at legible
    obtain ⟨called, named⟩ := legible.1
    obtain ⟨value, means⟩ := exists_means tree complete.1 legible.2.2
    exact ⟨[(called, value)], .cons named means .nil⟩
  | (name, tree) :: next :: rest =>
    rw [memberTokens, List.forall_mem_append, List.forall_mem_cons, List.forall_mem_cons,
      List.forall_mem_cons] at legible
    obtain ⟨called, named⟩ := legible.1.1
    obtain ⟨value, means⟩ := exists_means tree complete.1 legible.1.2.2
    obtain ⟨values, each⟩ := exists_membersMean (next :: rest) complete.2 legible.2.2
    exact ⟨(called, value) :: values, .cons named means each⟩

end

/-- A tree in which nothing is wrong stands for a value exactly if each of its numbers can be held
and each of its strings is a text. -/
theorem exists_means_iff_legible {tree : Tree} (complete : tree.Complete) :
    (∃ value, tree.Means value) ↔ ∀ token ∈ tree.tokens, token.Legible :=
  ⟨fun ⟨_, means⟩ => means.legible, tree.exists_means complete⟩

end Tree

/-! ## What a record is read from -/

namespace Layout

variable {Field : Type} {layout : Layout Field}

/-- No name of a field is given twice among the members of an object. -/
def NamedOnce (layout : Layout Field) : Tree → Prop
  | .object members _ => ∀ field,
    (members.map fun member => member.1.decode.toOption).count (some (layout.name field)) ≤ 1
  | .null | .bool _ | .number _ | .string _ | .array _ _ | .damaged _ _ | .absent _ => True

/-- In the members of an object that are no fields, every token can be read. -/
def StrangersLegible (layout : Layout Field) : Tree → Prop
  | .object members _ => ∀ member ∈ members,
    (∀ field, member.1.decode ≠ .ok (layout.name field)) → ∀ token ∈ member.2.tokens, token.Legible
  | .null | .bool _ | .number _ | .string _ | .array _ _ | .damaged _ _ | .absent _ => True

theorem decode_names {members : List (StringText × Tree)} {values : List (String × Value)}
    (each : Tree.MembersMean members values) :
    members.map (fun member => member.1.decode.toOption) = (Value.names values).map some := by
  rw [← List.forall₂_eq_eq_eq, List.forall₂_map_left_iff, Value.names, List.map_map,
    List.forall₂_map_right_iff]
  refine each.forall₂.imp fun written member means => ?_
  rw [StringText.decode_eq_ok_iff.2 means.1]
  rfl

theorem NamedOnce.unrepeated {tree : Tree} {value : Value} (once : layout.NamedOnce tree)
    (means : tree.Means value) : layout.Unrepeated value := by
  cases means with
  | object each =>
    intro field
    have single := once field
    rwa [decode_names each,
      List.count_map_of_injective _ _ (Option.some_injective String)] at single
  | null | bool _ | number _ | string _ | array _ => exact trivial

theorem StrangersLegible.of_means {tree : Tree} {value : Value} (means : tree.Means value) :
    layout.StrangersLegible tree := by
  cases means with
  | object each =>
    have legible := (List.forall₂_and_left _ _).1
      (each.forall₂.imp fun _ _ means => ⟨means.2.legible, means⟩)
    exact fun member inside _ => legible.1 member inside
  | null | bool _ | number _ | string _ | array _ => exact trivial

variable [DecidableEq Field]

theorem Sound.membersMean_of_readMembers (sound : layout.Sound)
    (free : ∀ field, (layout.kind field).Free) {members : List (StringText × Tree)}
    (complete : Tree.CompleteMembers members)
    (legible : ∀ member ∈ members, (∀ field, member.1.decode ≠ .ok (layout.name field)) →
      ∀ token ∈ member.2.tokens, token.Legible)
    {filled result : layout.Filled}
    (read : layout.readMembers (fun text => orFault text.decode) Kind.read Tree.skip filled
      members = .ok result) : ∃ values, Tree.MembersMean members values := by
  induction members generalizing filled with
  | nil => exact ⟨[], .nil⟩
  | cons member rest ih =>
    obtain ⟨name, tree⟩ := member
    obtain ⟨first, others⟩ := List.forall_mem_cons.1 legible
    obtain ⟨called, named, -⟩ := bind_eq_ok_iff.1 read
    have decoded := orFault_eq_ok_iff.1 named
    -- the data of a field have been asked for; any other member has only been passed over
    cases found : layout.field? called with
    | none =>
      have strange : ∀ field, name.decode ≠ .ok (layout.name field) := by
        intro field same
        obtain rfl := Except.ok.inj (decoded.symm.trans same)
        cases found.symm.trans (sound.field?_name field)
      obtain ⟨value, means⟩ := (Tree.exists_means_iff_legible complete.1).2 (first strange)
      rw [readMembers_cons_other (by exact named) found] at read
      obtain ⟨values, each⟩ := ih complete.2 others read.2
      exact ⟨_, .cons (StringText.decode_eq_ok_iff.1 decoded) means each⟩
    | some field =>
      rw [readMembers_cons_field (by exact named) found] at read
      obtain ⟨-, data, asked, later⟩ := read
      have means := ((layout.kind field).read_eq_ok_iff_means (free field)
        (sound.faithful field)).1 asked
      obtain ⟨values, each⟩ := ih complete.2 others later
      exact ⟨_, .cons (StringText.decode_eq_ok_iff.1 decoded) means each⟩

theorem Sound.itemsMean_of_readItems (sound : layout.Sound)
    (free : ∀ field, (layout.kind field).Free) {items : List Tree} {fields missing : List Field}
    {filled result : layout.Filled}
    (read : layout.readItems Kind.read filled fields items = .ok (result, missing, [])) :
    ∃ values, Tree.ItemsMean items values := by
  induction items generalizing fields filled with
  | nil => exact ⟨[], .nil⟩
  | cons tree rest ih =>
    cases fields with
    | nil => cases read
    | cons field fields =>
      obtain ⟨data, asked, later⟩ := bind_eq_ok_iff.1 read
      have means := ((layout.kind field).read_eq_ok_iff_means (free field)
        (sound.faithful field)).1 asked
      obtain ⟨values, each⟩ := ih later
      exact ⟨_, .cons means each⟩

/-- What a record is read from stands for a value, if the members that are no fields do. -/
theorem Sound.exists_means_of_read (sound : layout.Sound)
    (free : ∀ field, (layout.kind field).Free) {partly : Bool} {tree : Tree}
    (complete : tree.Complete) (legible : layout.StrangersLegible tree) {filled : layout.Filled}
    (read : layout.read partly tree = .ok filled) : ∃ value, tree.Means value := by
  cases tree with
  | object members ending =>
    obtain ⟨each, rfl⟩ := complete
    obtain ⟨_, made, -⟩ := bind_eq_ok_iff.1 read
    obtain ⟨values, means⟩ := sound.membersMean_of_readMembers free each legible made
    exact ⟨_, .object means⟩
  | array items ending =>
    obtain ⟨-, rfl⟩ := complete
    obtain ⟨missing, made, -⟩ := read_array_eq_ok_iff.1 read
    obtain ⟨values, means⟩ := sound.itemsMean_of_readItems free made
    exact ⟨_, .array means⟩
  | null | bool _ | number _ | string _ | damaged _ _ | absent _ =>
    exact absurd read (Tree.refuse_ne_ok _ _ _)

theorem Sound.exists_means_of_document_read {Data : Type} (sound : layout.Sound)
    (free : ∀ field, (layout.kind field).Free) {partly : Bool}
    {make : layout.Filled → Except ReadError Data} {tree : Tree} {text : String}
    (written : tree.WrittenAs text) (legible : layout.StrangersLegible tree) {data : Data}
    (read : (Document.ofText text).read (fun tree => layout.read partly tree >>= make) =
      .ok data) : ∃ value, tree.Means value := by
  rw [written.document_eq, Document.read_eq_ok_iff] at read
  obtain ⟨_, same, made⟩ := read
  cases same
  obtain ⟨filled, found, -⟩ := bind_eq_ok_iff.1 made
  exact sound.exists_means_of_read free written.1 legible found

/-- What comes of a text that stands for a value by that value, and of no other text, comes of a
text exactly if the record is read from it and the members that are no fields stand for values. -/
theorem Sound.iff_document_read_and_legible {Data : Type} (sound : layout.Sound)
    (free : ∀ field, (layout.kind field).Free) (partly : Bool)
    (make : layout.Filled → Except ReadError Data) {tree : Tree} {text : String}
    (written : tree.WrittenAs text) (once : layout.NamedOnce tree) {data : Data} {Enclosed : Prop}
    (meant : Enclosed → ∃ value, tree.Means value)
    (agree : ∀ value, tree.Means value →
      (Enclosed ↔ layout.ofValue partly value.sorted >>= make = .ok data)) :
    Enclosed ↔
      (Document.ofText text).read (fun tree => layout.read partly tree >>= make) = .ok data ∧
        layout.StrangersLegible tree := by
  have alike : ∀ value, tree.Means value →
      ((Document.ofText text).read (fun tree => layout.read partly tree >>= make) = .ok data ↔
        layout.ofValue partly value.sorted >>= make = .ok data) := fun value means =>
    sound.document_read_eq_ok_iff free partly make ⟨tree, means, written.2⟩ (once.unrepeated means)
  constructor
  · intro enclosed
    obtain ⟨value, means⟩ := meant enclosed
    exact ⟨(alike value means).2 ((agree value means).1 enclosed), .of_means means⟩
  · intro ⟨read, legible⟩
    obtain ⟨value, means⟩ := sound.exists_means_of_document_read free written legible read
    exact (agree value means).2 ((alike value means).1 read)

end Layout

end RelayCheck.Json
