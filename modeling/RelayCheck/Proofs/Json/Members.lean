import RelayCheck.Json.Canonical

/-!
Members of an object, before and after they are put in order.

Putting in order neither adds nor changes a member. It drops none either where no two have the same
name, and then only the order is another one.
-/

set_option autoImplicit false

namespace RelayCheck.Json.Value

/-- What holds of a value if it holds of the parts of it holds of every value. -/
@[elab_as_elim]
theorem induct {motive : Value → Prop} (null : motive .null)
    (bool : ∀ value, motive (.bool value)) (number : ∀ held, motive (.number held))
    (string : ∀ text, motive (.string text))
    (array : ∀ items, (∀ item ∈ items, motive item) → motive (.array items))
    (object : ∀ members, (∀ member ∈ members, motive member.2) → motive (.object members))
    (value : Value) : motive value := by
  match value with
  | .null => exact null
  | .bool value => exact bool value
  | .number held => exact number held
  | .string text => exact string text
  | .array items =>
    exact array items fun item _ => item.induct null bool number string array object
  | .object members =>
    exact object members fun member inside =>
      member.2.induct null bool number string array object
termination_by sizeOf value
decreasing_by
  · have := List.sizeOf_lt_of_mem ‹_›
    simp only [Value.array.sizeOf_spec]
    omega
  · have := List.sizeOf_lt_of_mem inside
    obtain ⟨name, value⟩ := member
    simp only [Value.object.sizeOf_spec, Prod.mk.sizeOf_spec] at *
    omega

def names (members : List (String × Value)) : List String :=
  members.map (·.1)

@[simp]
theorem names_nil : names [] = [] := rfl

@[simp]
theorem names_cons (member : String × Value) (members : List (String × Value)) :
    names (member :: members) = member.1 :: names members := rfl

theorem mem_of_mem_insert {name : String} {value : Value} {members : List (String × Value)}
    {member : String × Value} (inserted : member ∈ insert name value members) :
    member = (name, value) ∨ member ∈ members := by
  induction members with
  | nil => simpa [insert] using inserted
  | cons head rest ih =>
    obtain ⟨first, held⟩ := head
    rw [insert] at inserted
    split at inserted
    · simpa using inserted
    · split at inserted
      · rcases List.mem_cons.1 inserted with rfl | later
        · exact .inr List.mem_cons_self
        · exact (ih later).imp_right (List.mem_cons_of_mem _)
      · rcases List.mem_cons.1 inserted with same | later
        · exact .inl same
        · exact .inr (List.mem_cons_of_mem _ later)

theorem mem_of_mem_sortMembers {members : List (String × Value)} {member : String × Value}
    (sorted : member ∈ sortMembers members) : member ∈ members := by
  have kept : ∀ (rest done : List (String × Value)),
      member ∈ rest.foldl (fun sorted entry => insert entry.1 entry.2 sorted) done →
      member ∈ done ∨ member ∈ rest := by
    intro rest
    induction rest with
    | nil => exact fun done held => .inl held
    | cons head rest ih =>
      intro done held
      rcases ih _ held with inserted | later
      · rcases mem_of_mem_insert inserted with rfl | earlier
        · exact .inr List.mem_cons_self
        · exact .inl earlier
      · exact .inr (List.mem_cons_of_mem _ later)
  simpa using kept members [] sorted

theorem perm_insert {name : String} (value : Value) {members : List (String × Value)}
    (fresh : name ∉ names members) :
    (insert name value members).Perm ((name, value) :: members) := by
  induction members with
  | nil => exact .refl _
  | cons head rest ih =>
    obtain ⟨first, held⟩ := head
    simp only [names, List.map_cons, List.mem_cons, not_or] at fresh
    rw [insert]
    split
    · exact .refl _
    · next notBefore =>
      split
      · exact ((ih fresh.2).cons _).trans (.swap _ _ _)
      · next notAfter =>
        -- two names of which neither is before the other are the same
        rcases Std.lt_trichotomy name first with before | same | after
        · exact absurd before notBefore
        · exact absurd same fresh.1
        · exact absurd after notAfter

/-- Members with different names are only put in another order. -/
theorem perm_sortMembers {members : List (String × Value)} (different : (names members).Nodup) :
    (sortMembers members).Perm members := by
  have kept : ∀ (rest done : List (String × Value)), (names (done ++ rest)).Nodup →
      (rest.foldl (fun sorted entry => insert entry.1 entry.2 sorted) done).Perm
        (done ++ rest) := by
    intro rest
    induction rest with
    | nil => simp
    | cons head rest ih =>
      intro done different
      have front : (insert head.1 head.2 done).Perm (head :: done) := by
        apply perm_insert
        intro member
        simp only [names, List.map_append, List.map_cons, List.nodup_append] at different
        exact different.2.2 head.1 member head.1 List.mem_cons_self rfl
      have moved : (insert head.1 head.2 done ++ rest).Perm (done ++ head :: rest) :=
        (front.append_right rest).trans (List.perm_middle.symm)
      exact (ih _ ((moved.map _).nodup_iff.2 different)).trans moved
  exact kept members [] different

theorem sortedItems_eq_map (items : List Value) : sortedItems items = items.map sorted := by
  induction items with
  | nil => rfl
  | cons value rest ih => rw [sortedItems, ih, List.map_cons]

theorem sortedMembers_eq_map (members : List (String × Value)) :
    sortedMembers members = members.map fun member => (member.1, member.2.sorted) := by
  induction members with
  | nil => rfl
  | cons head rest ih => rw [sortedMembers, ih, List.map_cons]

@[simp]
theorem names_sortedMembers (members : List (String × Value)) :
    names (sortedMembers members) = names members := by
  rw [sortedMembers_eq_map, names, List.map_map]
  rfl

theorem sortedMembers_of_sorted {members : List (String × Value)}
    (inOrder : ∀ member ∈ members, member.2.sorted = member.2) :
    sortedMembers members = members := by
  have same : members.map (fun member => (member.1, member.2.sorted)) = members.map id :=
    List.map_congr_left fun member inside => Prod.ext rfl (inOrder member inside)
  rw [sortedMembers_eq_map, same, List.map_id]

/-! ## Numbers -/

/-- The number stands somewhere in the value. -/
inductive Holds (held : Number) : Value → Prop
  | here : Holds held (.number held)
  | item {items : List Value} {item : Value} (inside : item ∈ items) (holds : Holds held item) :
      Holds held (.array items)
  | member {members : List (String × Value)} {member : String × Value}
      (inside : member ∈ members) (holds : Holds held member.2) : Holds held (.object members)

/-- Every number in the value is whole. -/
def Whole (value : Value) : Prop :=
  ∀ bits, ¬ value.Holds (.float bits)

theorem firstFloatMembers?_eq_none_iff {members : List (String × Value)} :
    firstFloatMembers? members = none ↔ ∀ member ∈ members, member.2.firstFloat? = none := by
  induction members with
  | nil => simp [firstFloatMembers?]
  | cons head rest ih => simp [firstFloatMembers?, ih]

theorem firstFloatItems?_eq_none_iff {items : List Value} :
    firstFloatItems? items = none ↔ ∀ item ∈ items, item.firstFloat? = none := by
  induction items with
  | nil => simp [firstFloatItems?]
  | cons head rest ih => simp [firstFloatItems?, ih]

theorem firstFloatMembers?_eq_some {members : List (String × Value)} {bits : UInt64}
    (found : firstFloatMembers? members = some bits) :
    ∃ member ∈ members, member.2.firstFloat? = some bits := by
  induction members with
  | nil => cases found
  | cons head rest ih =>
    rcases Option.or_eq_some_iff.1 found with first | ⟨-, later⟩
    · exact ⟨head, List.mem_cons_self, first⟩
    · obtain ⟨member, inside, held⟩ := ih later
      exact ⟨member, List.mem_cons_of_mem _ inside, held⟩

theorem firstFloatItems?_eq_some {items : List Value} {bits : UInt64}
    (found : firstFloatItems? items = some bits) :
    ∃ item ∈ items, item.firstFloat? = some bits := by
  induction items with
  | nil => cases found
  | cons head rest ih =>
    rcases Option.or_eq_some_iff.1 found with first | ⟨-, later⟩
    · exact ⟨head, List.mem_cons_self, first⟩
    · obtain ⟨item, inside, held⟩ := ih later
      exact ⟨item, List.mem_cons_of_mem _ inside, held⟩

theorem holds_of_firstFloat? {value : Value} {bits : UInt64}
    (found : value.firstFloat? = some bits) : value.Holds (.float bits) := by
  induction value using induct with
  | null | bool | string => cases found
  | number held =>
    cases held with
    | whole => cases found
    | float => cases found; exact .here
  | array items ih =>
    obtain ⟨item, inside, held⟩ := firstFloatItems?_eq_some found
    exact .item inside (ih item inside held)
  | object members ih =>
    obtain ⟨member, inside, held⟩ := firstFloatMembers?_eq_some found
    exact .member inside (ih member inside held)

theorem firstFloat?_eq_none_iff {value : Value} : value.firstFloat? = none ↔ value.Whole := by
  constructor
  · intro none bits holds
    induction holds with
    | here => cases none
    | item inside _ ih => exact ih (firstFloatItems?_eq_none_iff.1 none _ inside)
    | member inside _ ih => exact ih (firstFloatMembers?_eq_none_iff.1 none _ inside)
  · intro whole
    cases found : value.firstFloat? with
    | none => rfl
    | some bits => exact absurd (holds_of_firstFloat? found) (whole bits)

/-- Putting in order adds no number. -/
theorem holds_of_holds_sorted {value : Value} {held : Number} (holds : value.sorted.Holds held) :
    value.Holds held := by
  induction value using induct with
  | null | bool | number | string => exact holds
  | array items ih =>
    rw [sorted, sortedItems_eq_map] at holds
    obtain _ | ⟨moved, holds⟩ := holds
    obtain ⟨item, inside, rfl⟩ := List.mem_map.1 moved
    exact .item inside (ih item inside holds)
  | object members ih =>
    rw [sorted, sortedMembers_eq_map] at holds
    obtain _ | _ | ⟨moved, holds⟩ := holds
    obtain ⟨member, inside, rfl⟩ := List.mem_map.1 (mem_of_mem_sortMembers moved)
    exact .member inside (ih member inside holds)

theorem Whole.sorted {value : Value} (whole : value.Whole) : value.sorted.Whole :=
  fun bits holds => whole bits (holds_of_holds_sorted holds)

theorem firstFloat?_sorted (value : Value) (whole : value.firstFloat? = none) :
    value.sorted.firstFloat? = none :=
  firstFloat?_eq_none_iff.2 (firstFloat?_eq_none_iff.1 whole).sorted

/-- A value without floats has a canonical text. -/
theorem canonical_of_whole {value : Value} (whole : value.firstFloat? = none) :
    value.canonical = .ok value.sorted.toText := by
  rw [canonical, firstFloat?_sorted value whole]

end RelayCheck.Json.Value
