import RelayCheck.Json.Reading
import RelayCheck.Proofs.Json.Tree

/-!
Texts and the values that they stand for.

A value is written as a text if some tree that stands for the value, member by member as they are
written, has tokens that the text is written as. Blanks and the ways to escape a character do not
matter, and neither does what a name was given before. The reader takes exactly such texts, as far
as they are not nested too deep.
-/

set_option autoImplicit false

namespace RelayCheck.Json

theorem bind_eq_ok_iff {Error Data Result : Type} {step : Except Error Data}
    {next : Data → Except Error Result} {result : Result} :
    step >>= next = .ok result ↔ ∃ data, step = .ok data ∧ next data = .ok result := by
  cases step <;> simp [bind, Except.bind]

theorem orFault_eq_ok_iff {Part : Type} {scanned : Except Fault Part} {part : Part} :
    orFault scanned = .ok part ↔ scanned = .ok part := by
  cases scanned <;> simp [orFault]

namespace Value

mutual

/-- How many arrays and objects stand around one another in a value. -/
def nesting : Value → Nat
  | .null | .bool _ | .number _ | .string _ => 0
  | .array items => nestingItems items + 1
  | .object members => nestingMembers members + 1

def nestingItems : List Value → Nat
  | [] => 0
  | value :: rest => max (nesting value) (nestingItems rest)

def nestingMembers : List (String × Value) → Nat
  | [] => 0
  | (_, value) :: rest => max (nesting value) (nestingMembers rest)

end

theorem nestingMembers_le_iff {members : List (String × Value)} {depth : Nat} :
    nestingMembers members ≤ depth ↔ ∀ member ∈ members, member.2.nesting ≤ depth := by
  induction members with
  | nil => simp [nestingMembers]
  | cons head rest ih => simp only [nestingMembers, Nat.max_le, ih, List.forall_mem_cons]

theorem nestingItems_le_iff {items : List Value} {depth : Nat} :
    nestingItems items ≤ depth ↔ ∀ item ∈ items, item.nesting ≤ depth := by
  induction items with
  | nil => simp [nestingItems]
  | cons head rest ih => simp only [nestingItems, Nat.max_le, ih, List.forall_mem_cons]

end Value

/-! ## What a tree stands for -/

mutual

/-- The tree stands for the value, with the members of objects as they are written. -/
inductive Tree.Means : Tree → Value → Prop
  | null : Means .null .null
  | bool (value : Bool) : Means (.bool value) (.bool value)
  | number {numeral : Numeral} {held : Number} (read : numeral.number = .ok held) :
      Means (.number numeral) (.number held)
  | string {string : StringText} {text : String} (means : string.Means text) :
      Means (.string string) (.string text)
  | array {items : List Tree} {values : List Value} (each : Tree.ItemsMean items values) :
      Means (.array items .closed) (.array values)
  | object {members : List (StringText × Tree)} {values : List (String × Value)}
      (each : Tree.MembersMean members values) : Means (.object members .closed) (.object values)

inductive Tree.ItemsMean : List Tree → List Value → Prop
  | nil : ItemsMean [] []
  | cons {tree : Tree} {value : Value} {items : List Tree} {values : List Value}
      (first : Tree.Means tree value) (rest : Tree.ItemsMean items values) :
      ItemsMean (tree :: items) (value :: values)

inductive Tree.MembersMean : List (StringText × Tree) → List (String × Value) → Prop
  | nil : MembersMean [] []
  | cons {name : StringText} {called : String} {tree : Tree} {value : Value}
      {members : List (StringText × Tree)} {values : List (String × Value)}
      (named : name.Means called) (first : Tree.Means tree value)
      (rest : Tree.MembersMean members values) :
      MembersMean ((name, tree) :: members) ((called, value) :: values)

end

namespace Tree

mutual

theorem Means.complete {tree : Tree} {value : Value} (means : tree.Means value) :
    tree.Complete := by
  match means with
  | .null | .bool _ | .number _ | .string _ => exact trivial
  | .array each => exact ⟨each.complete, rfl⟩
  | .object each => exact ⟨each.complete, rfl⟩

theorem ItemsMean.complete {items : List Tree} {values : List Value}
    (each : ItemsMean items values) : CompleteItems items := by
  match each with
  | .nil => exact trivial
  | .cons first rest => exact ⟨first.complete, rest.complete⟩

theorem MembersMean.complete {members : List (StringText × Tree)}
    {values : List (String × Value)} (each : MembersMean members values) :
    CompleteMembers members := by
  match each with
  | .nil => exact trivial
  | .cons _ first rest => exact ⟨first.complete, rest.complete⟩

end

open Token (Clean)

mutual

theorem Means.clean {tree : Tree} {value : Value} (means : tree.Means value) :
    ∀ token ∈ tree.tokens, token.Clean := by
  match means with
  | .null | .bool _ | .number _ => simp [tokens, Clean]
  | .string means => simpa [tokens, Clean] using means.1
  | .array each => simpa [tokens, Clean, or_imp, forall_and] using each.clean
  | .object each => simpa [tokens, Clean, or_imp, forall_and] using each.clean

theorem ItemsMean.clean {items : List Tree} {values : List Value}
    (each : ItemsMean items values) : ∀ token ∈ itemTokens items, token.Clean := by
  match each with
  | .nil => simp [itemTokens]
  | .cons first .nil => exact first.clean
  | .cons first (.cons second rest) =>
    have later := (ItemsMean.cons second rest).clean
    simpa [itemTokens, Clean, or_imp, forall_and] using ⟨first.clean, later⟩

theorem MembersMean.clean {members : List (StringText × Tree)}
    {values : List (String × Value)} (each : MembersMean members values) :
    ∀ token ∈ memberTokens members, token.Clean := by
  match each with
  | .nil => simp [memberTokens]
  | .cons named first .nil =>
    simpa [memberTokens, Clean, or_imp, forall_and] using ⟨named.1, first.clean⟩
  | .cons named first (.cons called second rest) =>
    have later := (MembersMean.cons called second rest).clean
    simpa [memberTokens, Clean, or_imp, forall_and] using ⟨named.1, first.clean, later⟩

end

mutual

/-- A tree that stands for a value is read as it, with all members in order. -/
theorem Means.value_eq {tree : Tree} {value : Value} (means : tree.Means value) {depth : Nat}
    (shallow : value.nesting ≤ depth) : tree.value depth = .ok value.sorted := by
  match means with
  | .null | .bool _ => rfl
  | .number read =>
    simp only [Tree.value, read]
    rfl
  | .string means =>
    simp only [Tree.value, StringText.decode_eq_ok_iff.2 means]
    rfl
  | .array each =>
    obtain ⟨inner, rfl⟩ : ∃ inner, depth = inner + 1 :=
      ⟨depth - 1, by simp [Value.nesting] at shallow; omega⟩
    simp only [Tree.value, each.values_eq (Nat.le_of_succ_le_succ shallow)]
    rfl
  | .object each =>
    obtain ⟨inner, rfl⟩ : ∃ inner, depth = inner + 1 :=
      ⟨depth - 1, by simp [Value.nesting] at shallow; omega⟩
    simp only [Tree.value, each.values_eq (Nat.le_of_succ_le_succ shallow)]
    rfl

theorem ItemsMean.values_eq {items : List Tree} {values : List Value}
    (each : ItemsMean items values) {depth : Nat} (shallow : Value.nestingItems values ≤ depth) :
    itemValues depth items = .ok (Value.sortedItems values) := by
  match each with
  | .nil => rfl
  | .cons first rest =>
    obtain ⟨head, tail⟩ := Nat.max_le.1 shallow
    simp only [itemValues, first.value_eq head, rest.values_eq tail]
    rfl

theorem MembersMean.values_eq {members : List (StringText × Tree)}
    {values : List (String × Value)} (each : MembersMean members values) {depth : Nat}
    (shallow : Value.nestingMembers values ≤ depth) :
    memberValues depth members = .ok (Value.sortedMembers values) := by
  match each with
  | .nil => rfl
  | .cons named first rest =>
    obtain ⟨head, tail⟩ := Nat.max_le.1 shallow
    simp only [memberValues, StringText.decode_eq_ok_iff.2 named, first.value_eq head,
      rest.values_eq tail]
    rfl

end

theorem refuse_ne_ok {Data : Type} (expected : String) (tree : Tree) (data : Data) :
    tree.refuse expected ≠ .ok data := by
  intro accepted
  obtain ⟨found, -, refused⟩ := bind_eq_ok_iff.1 accepted
  cases refused

theorem check_eq_ok_iff {ending : Ending} {result : Unit} :
    ending.check = .ok result ↔ ending = .closed := by
  cases ending <;> simp [Ending.check]

mutual

/-- A tree that is read stands for a value that is what was read, once it is in order. -/
theorem exists_means_of_value (tree : Tree) {depth : Nat} {read : Value}
    (accepted : tree.value depth = .ok read) :
    ∃ value, tree.Means value ∧ value.nesting ≤ depth ∧ value.sorted = read := by
  match tree with
  | .null =>
    cases accepted
    exact ⟨_, .null, Nat.zero_le _, rfl⟩
  | .bool value =>
    cases accepted
    exact ⟨_, .bool value, Nat.zero_le _, rfl⟩
  | .number numeral =>
    simp only [value] at accepted
    obtain ⟨held, number, rest⟩ := bind_eq_ok_iff.1 accepted
    cases rest
    exact ⟨_, .number (orFault_eq_ok_iff.1 number), Nat.zero_le _, rfl⟩
  | .string text =>
    simp only [value] at accepted
    obtain ⟨called, decoded, rest⟩ := bind_eq_ok_iff.1 accepted
    cases rest
    have means := StringText.decode_eq_ok_iff.1 (orFault_eq_ok_iff.1 decoded)
    exact ⟨_, .string means, Nat.zero_le _, rfl⟩
  | .array items ending =>
    match depth with
    | 0 => cases accepted
    | depth + 1 =>
      simp only [value] at accepted
      obtain ⟨values, each, rest⟩ := bind_eq_ok_iff.1 accepted
      obtain ⟨_, closed, rest⟩ := bind_eq_ok_iff.1 rest
      cases rest
      obtain rfl := check_eq_ok_iff.1 closed
      obtain ⟨written, means, shallow, rfl⟩ := exists_means_of_itemValues items each
      exact ⟨.array written, .array means, Nat.succ_le_succ shallow, rfl⟩
  | .object members ending =>
    match depth with
    | 0 => cases accepted
    | depth + 1 =>
      simp only [value] at accepted
      obtain ⟨values, each, rest⟩ := bind_eq_ok_iff.1 accepted
      obtain ⟨_, closed, rest⟩ := bind_eq_ok_iff.1 rest
      cases rest
      obtain rfl := check_eq_ok_iff.1 closed
      obtain ⟨written, means, shallow, rfl⟩ := exists_means_of_memberValues members each
      exact ⟨.object written, .object means, Nat.succ_le_succ shallow, rfl⟩
  | .damaged _ _ => cases accepted
  | .absent _ => cases accepted

theorem exists_means_of_itemValues (items : List Tree) {depth : Nat} {read : List Value}
    (accepted : itemValues depth items = .ok read) :
    ∃ values, ItemsMean items values ∧ Value.nestingItems values ≤ depth ∧
      Value.sortedItems values = read := by
  match items with
  | [] =>
    cases accepted
    exact ⟨[], .nil, Nat.zero_le _, rfl⟩
  | tree :: rest =>
    simp only [itemValues] at accepted
    obtain ⟨first, firstRead, accepted⟩ := bind_eq_ok_iff.1 accepted
    obtain ⟨others, othersRead, accepted⟩ := bind_eq_ok_iff.1 accepted
    cases accepted
    obtain ⟨value, means, shallow, rfl⟩ := exists_means_of_value tree firstRead
    obtain ⟨values, each, shallowRest, rfl⟩ := exists_means_of_itemValues rest othersRead
    exact ⟨value :: values, .cons means each, Nat.max_le.2 ⟨shallow, shallowRest⟩, rfl⟩

theorem exists_means_of_memberValues (members : List (StringText × Tree)) {depth : Nat}
    {read : List (String × Value)} (accepted : memberValues depth members = .ok read) :
    ∃ values, MembersMean members values ∧ Value.nestingMembers values ≤ depth ∧
      Value.sortedMembers values = read := by
  match members with
  | [] =>
    cases accepted
    exact ⟨[], .nil, Nat.zero_le _, rfl⟩
  | (name, tree) :: rest =>
    simp only [memberValues] at accepted
    obtain ⟨called, named, accepted⟩ := bind_eq_ok_iff.1 accepted
    obtain ⟨first, firstRead, accepted⟩ := bind_eq_ok_iff.1 accepted
    obtain ⟨others, othersRead, accepted⟩ := bind_eq_ok_iff.1 accepted
    cases accepted
    have called := StringText.decode_eq_ok_iff.1 (orFault_eq_ok_iff.1 named)
    obtain ⟨value, means, shallow, rfl⟩ := exists_means_of_value tree firstRead
    obtain ⟨values, each, shallowRest, rfl⟩ := exists_means_of_memberValues rest othersRead
    exact ⟨_ :: values, .cons called means each, Nat.max_le.2 ⟨shallow, shallowRest⟩, rfl⟩

end

end Tree

/-! ## What a text stands for -/

/-- The text is a way to write the tree, in which nothing is wrong. It may stand for no value. -/
def Tree.WrittenAs (tree : Tree) (text : String) : Prop :=
  tree.Complete ∧ Token.ListWritten tree.tokens text.toList

/-- The text is a way to write the value. -/
def Value.WrittenAs (value : Value) (text : String) : Prop :=
  ∃ tree : Tree, tree.Means value ∧ Token.ListWritten tree.tokens text.toList

theorem Document.ofText_of_written {tree : Tree} (complete : tree.Complete) {text : String}
    (written : Token.ListWritten tree.tokens text.toList) :
    Document.ofText text = ⟨tree, false⟩ := by
  have tokens := Token.allFrom_listWritten [] written tree.separated_tokens
  rw [Document.ofText, Token.all, tokens]
  exact Document.ofTokens_tokens complete

theorem Tree.writtenAs_of_all {tree : Tree} {text : String} (complete : tree.Complete)
    (scanned : Token.all text = tree.tokens) (clean : ∀ token ∈ tree.tokens, token.Clean) :
    tree.WrittenAs text :=
  ⟨complete, @Token.listWritten_of_allFrom [] _ _ scanned clean⟩

theorem Tree.WrittenAs.document_eq {tree : Tree} {text : String} (written : tree.WrittenAs text) :
    Document.ofText text = ⟨tree, false⟩ :=
  Document.ofText_of_written written.1 written.2

theorem Document.ofText_eq_iff {tree : Tree} {value : Value} (means : tree.Means value)
    {text : String} :
    Document.ofText text = ⟨tree, false⟩ ↔ Token.ListWritten tree.tokens text.toList := by
  constructor
  · intro built
    have tokens := Document.tokens_of_ofTokens built means.complete
    exact @Token.listWritten_of_allFrom [] _ _ tokens means.clean
  · exact Document.ofText_of_written means.complete

theorem Document.read_eq_ok_iff {Data : Type} {reader : Tree → Except ReadError Data}
    {document : Document} {data : Data} :
    document.read reader = .ok data ↔
      ∃ tree, document = ⟨tree, false⟩ ∧ reader tree = .ok data := by
  obtain ⟨tree, trailing⟩ := document
  cases made : reader tree <;> cases trailing <;> simp [read, made, bind, Except.bind]

/-- What is read from a text is what is read from the tree of the value that it is written for. -/
theorem Value.WrittenAs.exists_tree {value : Value} {text : String}
    (written : value.WrittenAs text) :
    ∃ tree : Tree, tree.Means value ∧
      ∀ {Data : Type} (reader : Tree → Except ReadError Data) (data : Data),
        (Document.ofText text).read reader = .ok data ↔ reader tree = .ok data := by
  obtain ⟨tree, means, tokens⟩ := written
  refine ⟨tree, means, fun reader data => ?_⟩
  rw [(Document.ofText_eq_iff means).2 tokens, Document.read_eq_ok_iff]
  simp

namespace Value

/-- A text is read exactly if it is a way to write some value that is not nested too deep, and then
as that value in order. -/
theorem ofText_eq_ok_iff {text : String} {read : Value} :
    ofText text = .ok read ↔
      ∃ value : Value, value.WrittenAs text ∧ value.nesting ≤ Tree.depthLimit ∧
        value.sorted = read := by
  constructor
  · intro accepted
    obtain ⟨tree, built, accepted⟩ := Document.read_eq_ok_iff.1 accepted
    obtain ⟨value, means, shallow, sorted⟩ := tree.exists_means_of_value accepted
    exact ⟨value, ⟨tree, means, (Document.ofText_eq_iff means).1 built⟩, shallow, sorted⟩
  · rintro ⟨value, ⟨tree, means, written⟩, shallow, rfl⟩
    exact Document.read_eq_ok_iff.2
      ⟨tree, (Document.ofText_eq_iff means).2 written, means.value_eq shallow⟩

theorem listOfText_eq_ok_iff {text : String} {read : List Value} :
    listOfText text = .ok read ↔
      ∃ items : List Value, (array items).WrittenAs text ∧
        (array items).nesting ≤ Tree.depthLimit ∧ sortedItems items = read := by
  constructor
  · intro accepted
    obtain ⟨tree, built, accepted⟩ := Document.read_eq_ok_iff.1 accepted
    cases tree with
    | array trees ending =>
      obtain ⟨values, each, rest⟩ := bind_eq_ok_iff.1 accepted
      obtain ⟨_, closed, rest⟩ := bind_eq_ok_iff.1 rest
      cases rest
      obtain rfl := Tree.check_eq_ok_iff.1 closed
      obtain ⟨items, means, shallow, rfl⟩ := Tree.exists_means_of_itemValues trees each
      exact ⟨items, ⟨_, .array means, (Document.ofText_eq_iff (.array means)).1 built⟩,
        Nat.succ_le_succ shallow, rfl⟩
    | _ => exact absurd accepted (Tree.refuse_ne_ok _ _ _)
  · rintro ⟨items, ⟨tree, means, written⟩, shallow, rfl⟩
    refine Document.read_eq_ok_iff.2 ⟨tree, (Document.ofText_eq_iff means).2 written, ?_⟩
    cases means with
    | array each =>
      simp only [Tree.items, each.values_eq (Nat.le_sub_one_of_lt shallow)]
      rfl

/-- A text is written for one value only, up to the order of the members. -/
theorem WrittenAs.sorted_eq {left right : Value} {text : String} (written : left.WrittenAs text)
    (again : right.WrittenAs text) : left.sorted = right.sorted := by
  obtain ⟨tree, means, tokens⟩ := written
  obtain ⟨other, otherMeans, otherTokens⟩ := again
  have built := (Document.ofText_eq_iff means).2 tokens
  rw [(Document.ofText_eq_iff otherMeans).2 otherTokens] at built
  obtain ⟨rfl, -⟩ := Document.mk.inj built
  have read := means.value_eq (Nat.le_max_left _ right.nesting)
  rw [otherMeans.value_eq (Nat.le_max_right left.nesting _)] at read
  exact (Except.ok.inj read).symm

end Value

end RelayCheck.Json
