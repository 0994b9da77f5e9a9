import Mathlib.Data.List.Forall2
import RelayCheck.Proofs.Json.Members
import RelayCheck.Proofs.Json.Text

/-!
Values come back from their texts.

The texts of arrays and objects are put together from the texts of their parts. So what is printed
for a value is one of the texts that it may be written as, and it is read as that value. Numbers
that are not whole are left out, since the fewest digits that name them are not dealt with here.
-/

set_option autoImplicit false

namespace RelayCheck.Json

/-! ## Texts put together -/

/-- The text of an array, put together from the texts of its items. -/
def Value.arrayText (items : List String) : String :=
  "[" ++ ",".intercalate items ++ "]"

namespace Tree

theorem completeItems_of_writtenAs {trees : List Tree} {texts : List String}
    (each : List.Forall₂ WrittenAs trees texts) : CompleteItems trees := by
  induction each with
  | nil => exact trivial
  | cons first _ ih => exact ⟨first.1, ih⟩

theorem listWritten_itemTokens {trees : List Tree} {texts : List String}
    (each : List.Forall₂ WrittenAs trees texts) :
    Token.ListWritten (itemTokens trees) ([','].intercalate (texts.map String.toList)) := by
  induction each with
  | nil => exact .nil blank_nil
  | cons first rest ih =>
    cases rest with
    | nil => simpa [itemTokens] using first.2
    | cons _ _ =>
      have later := first.2.append (Token.Written.comma.single.append ih)
      simpa [itemTokens, List.intercalate_cons_cons] using later

theorem writtenAs_arrayText {trees : List Tree} {texts : List String}
    (each : List.Forall₂ WrittenAs trees texts) :
    (array trees .closed).WrittenAs (Value.arrayText texts) := by
  refine ⟨⟨completeItems_of_writtenAs each, rfl⟩, ?_⟩
  have inside := (listWritten_itemTokens each).append Token.Written.closeArray.single
  have whole := Token.Written.openArray.single.append inside
  simpa [Value.arrayText, String.toList_intercalate, tokens] using whole

end Tree

namespace Value

theorem exists_trees_of_writtenAs {values : List Value} {texts : List String}
    (each : List.Forall₂ WrittenAs values texts) :
    ∃ trees, Tree.ItemsMean trees values ∧ List.Forall₂ Tree.WrittenAs trees texts := by
  induction each with
  | nil => exact ⟨[], .nil, .nil⟩
  | cons first _ ih =>
    obtain ⟨tree, means, written⟩ := first
    obtain ⟨trees, eachMeans, eachWritten⟩ := ih
    exact ⟨tree :: trees, .cons means eachMeans, .cons ⟨means.complete, written⟩ eachWritten⟩

theorem writtenAs_arrayText {values : List Value} {texts : List String}
    (each : List.Forall₂ WrittenAs values texts) : (array values).WrittenAs (arrayText texts) := by
  obtain ⟨trees, means, written⟩ := exists_trees_of_writtenAs each
  exact ⟨_, .array means, (Tree.writtenAs_arrayText written).2⟩

/-- The text is a way to write the member. -/
def MemberWrittenAs (member : String × Value) (text : String) : Prop :=
  ∃ name value, (string member.1).WrittenAs name ∧ member.2.WrittenAs value ∧
    text = name ++ ":" ++ value

/-- The text of an object, put together from the texts of its members. -/
def objectText (members : List String) : String :=
  "\x7b" ++ ",".intercalate members ++ "\x7d"

theorem exists_members_of_writtenAs {members : List (String × Value)} {texts : List String}
    (each : List.Forall₂ MemberWrittenAs members texts) :
    ∃ trees, Tree.MembersMean trees members ∧
      Token.ListWritten (Tree.memberTokens trees)
        ([','].intercalate (texts.map String.toList)) := by
  induction each with
  | nil => exact ⟨[], .nil, .nil blank_nil⟩
  | cons first rest ih =>
    obtain ⟨nameText, valueText, ⟨name, named, nameWritten⟩, ⟨tree, means, written⟩, rfl⟩ := first
    obtain ⟨trees, eachMeans, membersWritten⟩ := ih
    cases named with
    | @string name _ named =>
      have member := nameWritten.append (Token.Written.colon.single.append written)
      refine ⟨(name, tree) :: trees, .cons named means eachMeans, ?_⟩
      cases rest with
      | nil =>
        cases eachMeans
        simpa [Tree.memberTokens, Tree.tokens] using member
      | cons _ _ =>
        cases eachMeans
        have later := member.append (Token.Written.comma.single.append membersWritten)
        simpa [Tree.memberTokens, Tree.tokens, List.intercalate_cons_cons] using later

theorem writtenAs_objectText {members : List (String × Value)} {texts : List String}
    (each : List.Forall₂ MemberWrittenAs members texts) :
    (object members).WrittenAs (objectText texts) := by
  obtain ⟨trees, eachMeans, written⟩ := exists_members_of_writtenAs each
  refine ⟨_, .object eachMeans, ?_⟩
  have inside := written.append Token.Written.closeObject.single
  have whole := Token.Written.openObject.single.append inside
  simpa [objectText, String.toList_intercalate, Tree.tokens] using whole

/-! ## What is printed -/

theorem writeItems_eq_intercalate (items : List Value) :
    writeItems items = [','].intercalate (items.map write) := by
  induction items with
  | nil => rfl
  | cons value rest ih =>
    cases rest with
    | nil => simp [writeItems]
    | cons next others => simp [writeItems, ih, List.intercalate_cons_cons]

theorem writeMembers_eq_intercalate (members : List (String × Value)) :
    writeMembers members =
      [','].intercalate
        (members.map fun member => writeString member.1 ++ ':' :: member.2.write) := by
  induction members with
  | nil => rfl
  | cons member rest ih =>
    cases rest with
    | nil => simp [writeMembers]
    | cons next others => simp [writeMembers, ih, List.intercalate_cons_cons]

/-- The text of an array is put together from the texts of its items. -/
theorem toText_array (items : List Value) :
    (array items).toText = arrayText (items.map toText) := by
  have texts : (items.map toText).map String.toList = items.map write := by
    rw [List.map_map]
    exact List.map_congr_left fun value _ => String.toList_ofList
  rw [← String.toList_inj, toText, String.toList_ofList, write, writeItems_eq_intercalate, ← texts]
  simp [arrayText, String.toList_intercalate]

/-- The text of a member, with the text of its name before the colon. -/
def memberText (member : String × Value) : String :=
  (string member.1).toText ++ ":" ++ member.2.toText

theorem toText_object (members : List (String × Value)) :
    (object members).toText = objectText (members.map memberText) := by
  have texts : (members.map memberText).map String.toList =
      members.map fun member => writeString member.1 ++ ':' :: member.2.write := by
    rw [List.map_map]
    exact List.map_congr_left fun member _ => by simp [memberText, toText, write]
  rw [← String.toList_inj, toText, String.toList_ofList, write, writeMembers_eq_intercalate,
    ← texts]
  simp [objectText, String.toList_intercalate]

open Token (Written)

theorem writtenAs_of_token {value : Value} {tree : Tree} {token : Token} (means : tree.Means value)
    (alone : tree.tokens = [token]) (written : token.Written value.write) :
    value.WrittenAs value.toText := by
  refine ⟨tree, means, ?_⟩
  rw [alone, toText, String.toList_ofList]
  exact written.single

/-- What is printed for a value without floats is one of its texts. -/
theorem writtenAs_toText (value : Value) (whole : value.firstFloat? = none) :
    value.WrittenAs value.toText := by
  induction value using induct with
  | null => exact writtenAs_of_token .null rfl .null
  | bool value =>
    cases value with
    | true => exact writtenAs_of_token (.bool true) rfl .true
    | false => exact writtenAs_of_token (.bool false) rfl .false
  | number held =>
    cases held with
    | whole value least greatest =>
      exact writtenAs_of_token (.number (Numeral.number_ofInt value least greatest)) rfl
        (.number (Numeral.written_writeInt value))
    | float bits => cases whole
  | string text =>
    exact writtenAs_of_token (.string (StringText.means_ofText text)) rfl
      (.string (StringText.written_writeString text))
  | array items ih =>
    rw [toText_array]
    apply writtenAs_arrayText
    rw [List.forall₂_map_right_iff, List.forall₂_same]
    intro item inside
    exact ih item inside (firstFloatItems?_eq_none_iff.1 whole item inside)
  | object members ih =>
    rw [toText_object]
    apply writtenAs_objectText
    rw [List.forall₂_map_right_iff, List.forall₂_same]
    intro member inside
    have named : (string member.1).WrittenAs (string member.1).toText :=
      writtenAs_of_token (.string (StringText.means_ofText member.1)) rfl
        (.string (StringText.written_writeString member.1))
    have held := ih member inside (firstFloatMembers?_eq_none_iff.1 whole member inside)
    exact ⟨_, _, named, held, rfl⟩

/-- A value without floats that is not nested too deep is read back from its text. -/
theorem ofText_toText (value : Value) (whole : value.firstFloat? = none)
    (shallow : value.nesting ≤ Tree.depthLimit) : ofText value.toText = .ok value.sorted :=
  ofText_eq_ok_iff.2 ⟨value, value.writtenAs_toText whole, shallow, rfl⟩

end Value

end RelayCheck.Json
