import RelayCheck.Proofs.Json.Members
import RelayCheck.Proofs.Json.Printer

/-!
Canonical texts tell values apart.

To put a value in order once is enough, and a value is known, up to the order of its members, from
its text. So two values without floats have one canonical text exactly if they are the same once
they are in order, however deep they are nested.
-/

set_option autoImplicit false

namespace RelayCheck.Json.Value

/-! ## Putting members in order -/

/-- The names come in increasing order, and so each of them once. -/
def Increasing (members : List (String × Value)) : Prop :=
  (names members).Pairwise (· < ·)

theorem mem_names_of_mem_names_insert {name other : String} {value : Value}
    {members : List (String × Value)} (called : other ∈ names (insert name value members)) :
    other = name ∨ other ∈ names members := by
  obtain ⟨member, inserted, rfl⟩ := List.mem_map.1 called
  rcases mem_of_mem_insert inserted with rfl | held
  · exact .inl rfl
  · exact .inr (List.mem_map_of_mem held)

theorem Increasing.insert {members : List (String × Value)} (increasing : Increasing members)
    (name : String) (value : Value) : Increasing (insert name value members) := by
  induction members with
  | nil => exact List.pairwise_singleton _ _
  | cons head rest ih =>
    obtain ⟨first, held⟩ := head
    obtain ⟨least, ordered⟩ := List.pairwise_cons.1 increasing
    rw [Value.insert]
    split
    · next before =>
      refine List.pairwise_cons.2 ⟨?_, List.pairwise_cons.2 ⟨least, ordered⟩⟩
      intro other called
      rcases List.mem_cons.1 called with rfl | later
      · exact before
      · exact Std.lt_trans before (least other later)
    · next notBefore =>
      split
      · next after =>
        refine List.pairwise_cons.2 ⟨?_, ih ordered⟩
        intro other called
        rcases mem_names_of_mem_names_insert called with rfl | later
        · exact after
        · exact least other later
      · next notAfter =>
        -- the two names are the same, and the new member takes the place of the old one
        rcases Std.lt_trichotomy name first with before | rfl | after
        · exact absurd before notBefore
        · exact List.pairwise_cons.2 ⟨least, ordered⟩
        · exact absurd after notAfter

theorem increasing_sortMembers (members : List (String × Value)) :
    Increasing (sortMembers members) := by
  have kept : ∀ (rest done : List (String × Value)), Increasing done →
      Increasing (rest.foldl (fun sorted entry => Value.insert entry.1 entry.2 sorted) done) := by
    intro rest
    induction rest with
    | nil => exact fun _ increasing => increasing
    | cons head rest ih => exact fun done increasing => ih _ (increasing.insert head.1 head.2)
  exact kept members [] .nil

theorem insert_of_greatest {name : String} (value : Value) {members : List (String × Value)}
    (greatest : ∀ other ∈ names members, other < name) :
    Value.insert name value members = members ++ [(name, value)] := by
  induction members with
  | nil => rfl
  | cons head rest ih =>
    obtain ⟨first, held⟩ := head
    obtain ⟨after, greatest⟩ := List.forall_mem_cons.1 greatest
    have notBefore : ¬ name < first := fun before =>
      Std.lt_irrefl (Std.lt_trans before after)
    rw [Value.insert, if_neg notBefore, if_pos after, ih greatest]
    rfl

/-- Members that are in order stay as they are. -/
theorem sortMembers_of_increasing {members : List (String × Value)}
    (increasing : Increasing members) : sortMembers members = members := by
  have kept : ∀ (rest done : List (String × Value)), Increasing (done ++ rest) →
      rest.foldl (fun sorted entry => Value.insert entry.1 entry.2 sorted) done = done ++ rest := by
    intro rest
    induction rest with
    | nil => simp
    | cons head rest ih =>
      intro done increasing
      have greatest : ∀ other ∈ names done, other < head.1 := by
        intro other called
        rw [Increasing, names, List.map_append] at increasing
        exact (List.pairwise_append.1 increasing).2.2 other called head.1 List.mem_cons_self
      rw [List.append_cons] at increasing ⊢
      rw [List.foldl_cons, insert_of_greatest _ greatest]
      exact ih _ increasing
  exact kept members [] increasing

@[simp]
theorem sorted_sorted (value : Value) : value.sorted.sorted = value.sorted := by
  induction value using induct with
  | null | bool | number | string => rfl
  | array items ih =>
    rw [sorted, sortedItems_eq_map, sorted, sortedItems_eq_map, List.map_map]
    exact congrArg array (List.map_congr_left ih)
  | object members ih =>
    have inOrder : ∀ member ∈ sortMembers (sortedMembers members),
        member.2.sorted = member.2 := by
      intro member inside
      rw [sortedMembers_eq_map] at inside
      obtain ⟨written, held, rfl⟩ := List.mem_map.1 (mem_of_mem_sortMembers inside)
      exact ih written held
    rw [sorted, sorted, sortedMembers_of_sorted inOrder,
      sortMembers_of_increasing (increasing_sortMembers _)]

/-! ## Texts -/

/-- A value without floats is known from its text, up to the order of its members. -/
theorem sorted_eq_of_toText_eq {left right : Value} (leftWhole : left.firstFloat? = none)
    (rightWhole : right.firstFloat? = none) (same : left.toText = right.toText) :
    left.sorted = right.sorted := by
  have written := left.writtenAs_toText leftWhole
  rw [same] at written
  exact written.sorted_eq (right.writtenAs_toText rightWhole)

/-- Two values without floats have one canonical text exactly if they are the same in order. -/
theorem toText_sorted_inj {left right : Value} (leftWhole : left.firstFloat? = none)
    (rightWhole : right.firstFloat? = none) :
    left.sorted.toText = right.sorted.toText ↔ left.sorted = right.sorted := by
  refine ⟨fun same => ?_, congrArg toText⟩
  have sorted := sorted_eq_of_toText_eq (firstFloat?_sorted left leftWhole)
    (firstFloat?_sorted right rightWhole) same
  rwa [sorted_sorted, sorted_sorted] at sorted

end RelayCheck.Json.Value
