import RelayCheck.Proofs.Json.Canonical

/-!
Values that are the same as maps.

The members of an object may stand in any order. Where no object has two members with one name,
putting a value in order leaves it the same, and no other way to write its members down gives
another value in order.
-/

set_option autoImplicit false

namespace RelayCheck.Json.Value

/-- No object in the value has two members with one name, so that every object is a map. -/
inductive Distinct : Value → Prop
  | null : Distinct .null
  | bool (value : Bool) : Distinct (.bool value)
  | number (held : Number) : Distinct (.number held)
  | string (text : String) : Distinct (.string text)
  | array {items : List Value} (each : ∀ item ∈ items, Distinct item) : Distinct (.array items)
  | object {members : List (String × Value)} (once : (names members).Nodup)
      (each : ∀ member ∈ members, Distinct member.2) : Distinct (.object members)

/-- The values are the same: arrays item by item, and objects as maps from names to values. -/
inductive Same : Value → Value → Prop
  | null : Same .null .null
  | bool (value : Bool) : Same (.bool value) (.bool value)
  | number (held : Number) : Same (.number held) (.number held)
  | string (text : String) : Same (.string text) (.string text)
  | array {items others : List Value} (length : items.length = others.length)
      (each : ∀ pair ∈ items.zip others, Same pair.1 pair.2) : Same (.array items) (.array others)
  | object {members others : List (String × Value)} (named : (names members).Perm (names others))
      (each : ∀ name value other, lookup? name members = some value →
        lookup? name others = some other → Same value other) :
      Same (.object members) (.object others)

/-! ## Members by their names -/

theorem mem_of_lookup? {name : String} {value : Value} {members : List (String × Value)}
    (found : lookup? name members = some value) : (name, value) ∈ members := by
  induction members with
  | nil => cases found
  | cons head rest ih =>
    obtain ⟨first, held⟩ := head
    rw [lookup?] at found
    split at found
    · next same =>
      cases same
      cases found
      exact List.mem_cons_self
    · exact List.mem_cons_of_mem _ (ih found)

theorem lookup?_eq_none_iff {name : String} {members : List (String × Value)} :
    lookup? name members = none ↔ name ∉ names members := by
  induction members with
  | nil => simp [lookup?]
  | cons head rest ih =>
    rw [lookup?, names_cons, List.mem_cons, not_or, ← ih]
    split
    · next same => simp [same]
    · next other => simp [Ne.symm other]

theorem lookup?_eq_some_iff {name : String} {value : Value} {members : List (String × Value)}
    (once : (names members).Nodup) :
    lookup? name members = some value ↔ (name, value) ∈ members := by
  refine ⟨mem_of_lookup?, fun inside => ?_⟩
  induction members with
  | nil => cases inside
  | cons head rest ih =>
    obtain ⟨first, held⟩ := head
    obtain ⟨unlike, once⟩ := List.nodup_cons.1 (names_cons _ rest ▸ once)
    rw [lookup?]
    rcases List.mem_cons.1 inside with same | later
    · cases same
      rw [if_pos rfl]
    · have other : first ≠ name := by
        intro same
        exact unlike (List.mem_map.2 ⟨_, later, same.symm⟩)
      rw [if_neg other, ih once later]

theorem lookup?_sortedMembers (name : String) (members : List (String × Value)) :
    lookup? name (sortedMembers members) = (lookup? name members).map sorted := by
  induction members with
  | nil => rfl
  | cons head rest ih =>
    rw [sortedMembers, lookup?, lookup?, ih]
    split <;> rfl

theorem lookup?_insert (name other : String) (value : Value) (members : List (String × Value)) :
    lookup? name (insert other value members) =
      if other = name then some value else lookup? name members := by
  induction members with
  | nil => rfl
  | cons head rest ih =>
    obtain ⟨first, held⟩ := head
    rw [insert]
    split
    · rfl
    · next notBefore =>
      split
      · next after =>
        rw [lookup?, lookup?, ih]
        -- the new name comes after the first one, so it is another
        by_cases same : first = name
        · have different : other ≠ name := by
            intro equal
            rw [same, equal] at after
            exact Std.lt_irrefl after
          rw [if_pos same, if_neg different, if_pos same]
        · rw [if_neg same, if_neg same]
      · next notAfter =>
        rcases Std.lt_trichotomy other first with before | rfl | after
        · exact absurd before notBefore
        · rw [lookup?, lookup?]
          split <;> rfl
        · exact absurd after notAfter

/-- Where a name is given once at most, its member is found in order as well. -/
theorem lookup?_sortMembers {name : String} {members : List (String × Value)}
    (once : (names members).count name ≤ 1) :
    lookup? name (sortMembers members) = lookup? name members := by
  have kept : ∀ (rest done : List (String × Value)), (names rest).count name ≤ 1 →
      lookup? name (rest.foldl (fun sorted entry => insert entry.1 entry.2 sorted) done) =
        (lookup? name rest).or (lookup? name done) := by
    intro rest
    induction rest with
    | nil => exact fun _ _ => rfl
    | cons head rest ih =>
      intro done once
      obtain ⟨first, held⟩ := head
      rw [names_cons, List.count_cons] at once
      rw [List.foldl_cons, ih _ (by omega), lookup?_insert, lookup?]
      by_cases same : first = name
      · have absent : name ∉ names rest := by
          rw [← List.count_eq_zero]
          simp only [same, beq_self_eq_true, ↓reduceIte] at once
          omega
        rw [lookup?_eq_none_iff.2 absent, if_pos same, if_pos same]
        rfl
      · rw [if_neg same, if_neg same]
  rw [sortMembers, kept members [] once]
  exact Option.or_none

theorem nodup_of_names {members : List (String × Value)} (once : (names members).Nodup) :
    members.Nodup :=
  List.Pairwise.of_map _ (fun _ _ different same => different (congrArg Prod.fst same)) once

/-- Members with different names are a map from the names. -/
theorem perm_iff_lookup? {members others : List (String × Value)} (once : (names members).Nodup)
    (onceThere : (names others).Nodup) :
    members.Perm others ↔ ∀ name, lookup? name members = lookup? name others := by
  have memIff : (∀ name, lookup? name members = lookup? name others) ↔
      ∀ name value, (name, value) ∈ members ↔ (name, value) ∈ others := by
    simp only [Option.ext_iff, lookup?_eq_some_iff once, lookup?_eq_some_iff onceThere]
  rw [memIff, List.perm_ext_iff_of_nodup (nodup_of_names once) (nodup_of_names onceThere),
    Prod.forall]

/-- Members with different names stand in one order only once they are in order. -/
theorem sortMembers_inj {members others : List (String × Value)} (once : (names members).Nodup)
    (onceThere : (names others).Nodup) :
    sortMembers members = sortMembers others ↔ members.Perm others := by
  constructor
  · intro same
    have moved := perm_sortMembers once
    rw [same] at moved
    exact moved.symm.trans (perm_sortMembers onceThere)
  · intro same
    have moved := (perm_sortMembers once).trans (same.trans (perm_sortMembers onceThere).symm)
    refine List.Perm.eq_of_pairwise ?_ (List.pairwise_map.1 (increasing_sortMembers members))
      (List.pairwise_map.1 (increasing_sortMembers others)) moved
    intro left right _ _ before after
    exact absurd (Std.lt_trans before after) Std.lt_irrefl

/-! ## Putting in order -/

theorem Distinct.holds_sorted {value : Value} (distinct : value.Distinct) {held : Number}
    (holds : value.Holds held) : value.sorted.Holds held := by
  induction holds with
  | here => exact .here
  | item inside holds ih =>
    obtain _ | _ | _ | _ | ⟨each⟩ := distinct
    rw [sorted, sortedItems_eq_map]
    exact .item (List.mem_map_of_mem inside) (ih (each _ inside))
  | @member members member inside holds ih =>
    obtain _ | _ | _ | _ | _ | ⟨once, each⟩ := distinct
    have kept : (member.1, member.2.sorted) ∈ sortMembers (sortedMembers members) := by
      rw [(perm_sortMembers (names_sortedMembers members ▸ once)).mem_iff, sortedMembers_eq_map]
      exact List.mem_map_of_mem inside
    exact .member kept (ih (each _ inside))

theorem Distinct.whole_sorted_iff {value : Value} (distinct : value.Distinct) :
    value.sorted.Whole ↔ value.Whole :=
  forall_congr' fun _ => not_congr ⟨holds_of_holds_sorted, distinct.holds_sorted⟩

theorem nesting_sorted_le (value : Value) : value.sorted.nesting ≤ value.nesting := by
  induction value using induct with
  | null | bool | number | string => exact Nat.le_refl _
  | array items ih =>
    rw [sorted, sortedItems_eq_map, nesting, nesting, Nat.add_le_add_iff_right,
      nestingItems_le_iff]
    intro item moved
    obtain ⟨written, inside, rfl⟩ := List.mem_map.1 moved
    exact Nat.le_trans (ih written inside) (nestingItems_le_iff.1 (Nat.le_refl _) written inside)
  | object members ih =>
    rw [sorted, sortedMembers_eq_map, nesting, nesting, Nat.add_le_add_iff_right,
      nestingMembers_le_iff]
    intro member moved
    obtain ⟨written, inside, rfl⟩ := List.mem_map.1 (mem_of_mem_sortMembers moved)
    exact Nat.le_trans (ih written inside)
      (nestingMembers_le_iff.1 (Nat.le_refl _) written inside)

/-! ## Values that are the same -/

theorem sorted_array_inj {items others : List Value} :
    (array items).sorted = (array others).sorted ↔
      items.length = others.length ∧ ∀ pair ∈ items.zip others, pair.1.sorted = pair.2.sorted := by
  rw [sorted, sorted, array.injEq]
  induction items generalizing others with
  | nil => cases others <;> simp [sortedItems]
  | cons item rest ih =>
    cases others with
    | nil => simp [sortedItems]
    | cons other others => simp [sortedItems, ih, and_left_comm]

theorem sorted_object_inj {members others : List (String × Value)}
    (once : (names members).Nodup) (onceThere : (names others).Nodup) :
    (object members).sorted = (object others).sorted ↔
      ∀ name, (lookup? name members).map sorted = (lookup? name others).map sorted := by
  rw [← names_sortedMembers] at once onceThere
  rw [sorted, sorted, object.injEq, sortMembers_inj once onceThere,
    perm_iff_lookup? once onceThere]
  simp only [lookup?_sortedMembers]

theorem Same.sorted_eq {left right : Value} (same : left.Same right) (distinct : left.Distinct)
    (distinctThere : right.Distinct) : left.sorted = right.sorted := by
  induction same with
  | null | bool | number | string => rfl
  | array length _ ih =>
    obtain _ | _ | _ | _ | ⟨each⟩ := distinct
    obtain _ | _ | _ | _ | ⟨eachThere⟩ := distinctThere
    refine sorted_array_inj.2 ⟨length, fun pair inside => ?_⟩
    obtain ⟨here, there⟩ := List.of_mem_zip inside
    exact ih pair inside (each _ here) (eachThere _ there)
  | @object members others named _ ih =>
    obtain _ | _ | _ | _ | _ | ⟨once, each⟩ := distinct
    obtain _ | _ | _ | _ | _ | ⟨onceThere, eachThere⟩ := distinctThere
    refine (sorted_object_inj once onceThere).2 fun name => ?_
    cases here : lookup? name members with
    | none =>
      rw [lookup?_eq_none_iff, named.mem_iff, ← lookup?_eq_none_iff] at here
      rw [here]
    | some value =>
      cases there : lookup? name others with
      | none =>
        rw [lookup?_eq_none_iff, ← named.mem_iff] at there
        exact absurd (List.mem_map_of_mem (mem_of_lookup? here)) there
      | some other =>
        exact congrArg some (ih name value other here there
          (each _ (mem_of_lookup? here)) (eachThere _ (mem_of_lookup? there)))

theorem Distinct.same_of_sorted_eq {left right : Value} (distinct : left.Distinct)
    (distinctThere : right.Distinct) (same : left.sorted = right.sorted) : left.Same right := by
  induction left using induct generalizing right with
  | null =>
    cases right <;> cases same
    exact .null
  | bool value =>
    cases right <;> cases same
    exact .bool value
  | number held =>
    cases right <;> cases same
    exact .number held
  | string text =>
    cases right <;> cases same
    exact .string text
  | array items ih =>
    cases distinctThere with
    | array eachThere =>
      obtain _ | _ | _ | _ | ⟨each⟩ := distinct
      obtain ⟨length, sortedSame⟩ := sorted_array_inj.1 same
      refine .array length fun pair inside => ?_
      obtain ⟨here, there⟩ := List.of_mem_zip inside
      exact ih _ here (each _ here) (eachThere _ there) (sortedSame pair inside)
    | _ => cases same
  | object members ih =>
    cases distinctThere with
    | @object others onceThere eachThere =>
      obtain _ | _ | _ | _ | _ | ⟨once, each⟩ := distinct
      have looked := (sorted_object_inj once onceThere).1 same
      refine .object ?named fun name value other here there => ?_
      case named =>
        rw [List.perm_ext_iff_of_nodup once onceThere]
        intro name
        rw [← not_iff_not, ← lookup?_eq_none_iff, ← lookup?_eq_none_iff,
          ← Option.map_eq_none_iff, looked name, Option.map_eq_none_iff]
      have sortedSame := looked name
      rw [here, there] at sortedSame
      exact ih _ (mem_of_lookup? here) (each _ (mem_of_lookup? here))
        (eachThere _ (mem_of_lookup? there)) (Option.some.inj sortedSame)
    | _ => cases same

/-- Values of which no object has two members with one name are the same exactly if they are once
they are in order. -/
theorem Distinct.same_iff {left right : Value} (distinct : left.Distinct)
    (distinctThere : right.Distinct) : left.Same right ↔ left.sorted = right.sorted :=
  ⟨fun same => same.sorted_eq distinct distinctThere, distinct.same_of_sorted_eq distinctThere⟩

theorem Distinct.sorted {value : Value} (distinct : value.Distinct) : value.sorted.Distinct := by
  induction distinct with
  | null => exact .null
  | bool value => exact .bool value
  | number held => exact .number held
  | string text => exact .string text
  | @array items _ ih =>
    refine .array fun item moved => ?_
    rw [sortedItems_eq_map] at moved
    obtain ⟨written, inside, rfl⟩ := List.mem_map.1 moved
    exact ih written inside
  | @object members once _ ih =>
    rw [← names_sortedMembers] at once
    have moved := perm_sortMembers once
    refine .object ((moved.map _).nodup_iff.2 once) fun member there => ?_
    rw [moved.mem_iff, sortedMembers_eq_map] at there
    obtain ⟨written, inside, rfl⟩ := List.mem_map.1 there
    exact ih written inside

end RelayCheck.Json.Value
