import Mathlib.Data.List.Forall2
import RelayCheck.Message.Envelope
import RelayCheck.Proofs.Note.Record

/-!
Texts that are read as an envelope.

These are the texts of arrays that begin with a string and are not nested too deep. Further items
may be put behind the others, before the bracket that closes the array.
-/

set_option autoImplicit false

namespace RelayCheck.Message

open Json (Document Tree Value bind_eq_ok_iff)
open Note (NoteError orUnreadable orUnreadable_eq_ok_iff)

namespace Envelope

theorem ofItems_eq_ok_iff {items : List Value} {envelope : Envelope} :
    ofItems items = .ok envelope ↔ items = .string envelope.label :: envelope.contents := by
  obtain ⟨label, contents⟩ := envelope
  unfold ofItems
  split
  · simp
  · simp
  · next first rest other =>
    simp only [reduceCtorEq, List.cons.injEq, false_iff, not_and]
    intro same
    exact absurd same (other label)

theorem leadingString_eq_ok_iff {role text : String} {contents rest : List Value} :
    leadingString role contents = .ok (text, rest) ↔ contents = .string text :: rest := by
  unfold leadingString
  split
  · simp
  · next other =>
    refine iff_of_false (fun accepted => ?_) fun same => other _ _ same
    cases accepted

theorem toValue_inj {left right : Envelope} : left.toValue = right.toValue ↔ left = right := by
  obtain ⟨label, contents⟩ := left
  obtain ⟨otherLabel, others⟩ := right
  simp [toValue]

/-- An envelope with the members of all objects in it in order. -/
def sorted (envelope : Envelope) : Envelope :=
  ⟨envelope.label, Value.sortedItems envelope.contents⟩

theorem sorted_toValue (envelope : Envelope) :
    envelope.toValue.sorted = envelope.sorted.toValue := rfl

/-- A text is read as an envelope exactly if it is a text of one that is not nested too deep. -/
theorem ofText_eq_ok_iff {text : String} {read : Envelope} :
    ofText text = .ok read ↔
      ∃ envelope : Envelope, envelope.toValue.WrittenAs text ∧
        envelope.toValue.nesting ≤ Tree.depthLimit ∧ envelope.sorted = read := by
  unfold ofText
  constructor
  · intro accepted
    obtain ⟨inOrder, listed, accepted⟩ := bind_eq_ok_iff.1 accepted
    obtain ⟨items, written, shallow, rfl⟩ :=
      Value.listOfText_eq_ok_iff.1 (orUnreadable_eq_ok_iff.1 listed)
    have same := ofItems_eq_ok_iff.1 accepted
    cases items with
    | nil => cases same
    | cons first rest =>
      obtain ⟨label, contents⟩ := read
      obtain ⟨begins, rfl⟩ := List.cons.inj same
      -- to put a value in order does not make a string of it
      cases first <;> cases begins
      exact ⟨⟨label, rest⟩, written, shallow, rfl⟩
  · intro ⟨envelope, written, shallow, inOrder⟩
    have listed := Value.listOfText_eq_ok_iff.2 ⟨_, written, shallow, rfl⟩
    rw [listed, ← inOrder]
    rfl

/-- An envelope is read from the texts of what it holds, put together. -/
theorem ofText_arrayText {envelope : Envelope} {texts : List String}
    (each : List.Forall₂ Value.WrittenAs envelope.contents texts)
    (shallow : Value.nestingItems envelope.contents < Tree.depthLimit) :
    ofText (Value.arrayText ((Value.string envelope.label).toText :: texts)) =
      .ok envelope.sorted := by
  have label := (Value.string envelope.label).writtenAs_toText rfl
  refine ofText_eq_ok_iff.2 ⟨envelope, Value.writtenAs_arrayText (.cons label each), ?_, rfl⟩
  simpa [toValue, Value.nesting, Value.nestingItems] using Nat.succ_le_of_lt shallow

/-- Whatever comes next, an array that is read as an envelope has items that stand for values. -/
theorem exists_means_of_read {Data : Type} {values : List Value} {front : List String}
    (each : List.Forall₂ Value.WrittenAs values front) {tree : Tree} {text : String}
    (written : tree.WrittenAs text) {next : Envelope → Except NoteError Data} {data : Data}
    (read : ofText (Value.arrayText (front ++ [text])) >>= next = .ok data) :
    ∃ value, tree.Means value := by
  obtain ⟨envelope, accepted, -⟩ := bind_eq_ok_iff.1 read
  obtain ⟨items, listed, -⟩ := bind_eq_ok_iff.1 accepted
  obtain ⟨_, ⟨whole, means, tokens⟩, -⟩ :=
    Value.listOfText_eq_ok_iff.1 (orUnreadable_eq_ok_iff.1 listed)
  obtain ⟨trees, -, eachWritten⟩ := Value.exists_trees_of_writtenAs each
  have together := Tree.writtenAs_arrayText (List.rel_append eachWritten (.cons written .nil))
  -- one text has one tree, so the array is made of the trees of its items
  have built := (Document.ofText_eq_iff means).2 tokens
  rw [together.document_eq] at built
  cases built
  cases means with
  | array each => exact each.exists_means (List.mem_append_right _ List.mem_cons_self)

theorem writtenAs_contents {items : List Value} (whole : Value.firstFloatItems? items = none) :
    List.Forall₂ Value.WrittenAs items (items.map Value.toText) := by
  rw [List.forall₂_map_right_iff, List.forall₂_same]
  intro value inside
  exact value.writtenAs_toText (Value.firstFloatItems?_eq_none_iff.1 whole value inside)

/-- An envelope without floats that is not nested too deep is read back from its text, with what it
holds put in order. -/
theorem ofText_toText (envelope : Envelope)
    (whole : Value.firstFloatItems? envelope.contents = none)
    (shallow : Value.nestingItems envelope.contents < Tree.depthLimit) :
    ofText envelope.toValue.toText = .ok envelope.sorted := by
  rw [toValue, Value.toText_array]
  exact ofText_arrayText (writtenAs_contents whole) shallow

/-! ## Further items -/

/-- The text of an array with the texts of further items before the bracket at its end. -/
def appendItems (array : String) (further : List String) : String :=
  String.ofList (array.toList.dropLast ++ further.flatMap (fun item => ',' :: item.toList) ++ [']'])

theorem intercalate_cons (first : List Char) (rest : List (List Char)) :
    [','].intercalate (first :: rest) = first ++ rest.flatMap (',' :: ·) := by
  induction rest generalizing first with
  | nil => simp
  | cons second others ih => simp [List.intercalate_cons_cons, ih]

theorem toList_arrayText (first : String) (rest : List String) :
    (Value.arrayText (first :: rest)).toList =
      '[' :: (first.toList ++ rest.flatMap fun item => ',' :: item.toList) ++ [']'] := by
  simp [Value.arrayText, String.toList_intercalate, intercalate_cons, List.flatMap_map]

theorem appendItems_arrayText (first : String) (rest further : List String) :
    appendItems (Value.arrayText (first :: rest)) further =
      Value.arrayText (first :: (rest ++ further)) := by
  rw [← String.toList_inj, appendItems, String.toList_ofList, toList_arrayText, toList_arrayText,
    List.dropLast_concat]
  simp

theorem exists_values_of_readable {texts : List String}
    (readable : ∀ text ∈ texts, ∃ value : Value,
      value.WrittenAs text ∧ value.nesting < Tree.depthLimit) :
    ∃ values : List Value, List.Forall₂ Value.WrittenAs values texts ∧
      Value.nestingItems values < Tree.depthLimit := by
  induction texts with
  | nil => exact ⟨[], .nil, by decide⟩
  | cons text rest ih =>
    obtain ⟨⟨value, written, shallow⟩, readable⟩ := List.forall_mem_cons.1 readable
    obtain ⟨values, each, bound⟩ := ih readable
    exact ⟨value :: values, .cons written each, Nat.max_lt.2 ⟨shallow, bound⟩⟩

/-- What comes behind an envelope in its text comes behind its contents. -/
theorem ofText_appendItems (envelope : Envelope)
    (whole : Value.firstFloatItems? envelope.contents = none)
    (shallow : Value.nestingItems envelope.contents < Tree.depthLimit) {further : List String}
    (readable : ∀ text ∈ further, ∃ value : Value,
      value.WrittenAs text ∧ value.nesting < Tree.depthLimit) :
    ∃ values, ofText (appendItems envelope.toValue.toText further) =
      .ok (sorted ⟨envelope.label, envelope.contents ++ values⟩) := by
  obtain ⟨values, each, bound⟩ := exists_values_of_readable readable
  have all : List.Forall₂ Value.WrittenAs (envelope.contents ++ values)
      (envelope.contents.map Value.toText ++ further) :=
    List.rel_append (writtenAs_contents whole) each
  have nested : Value.nestingItems (envelope.contents ++ values) < Tree.depthLimit := by
    have items := Value.nestingItems_le_iff.1 (Nat.le_sub_one_of_lt shallow)
    have others := Value.nestingItems_le_iff.1 (Nat.le_sub_one_of_lt bound)
    refine Nat.lt_of_le_sub_one (by decide) (Value.nestingItems_le_iff.2 ?_)
    exact List.forall_mem_append.2 ⟨items, others⟩
  refine ⟨values, ?_⟩
  rw [toValue, Value.toText_array, List.map_cons, appendItems_arrayText]
  exact @ofText_arrayText ⟨envelope.label, envelope.contents ++ values⟩ _ all nested

end Envelope

end RelayCheck.Message
