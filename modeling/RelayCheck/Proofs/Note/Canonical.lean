import RelayCheck.Proofs.Json.Same
import RelayCheck.Proofs.Note.Identifier

/-!
The canonical text of a value is a normal form of all its texts.

A value without floats has one, which is read as the value itself, and no other value has the same.
So whatever text the value is given in, its canonical text comes out.
-/

set_option autoImplicit false

namespace RelayCheck.Note

open Json (StringText Token Tree Value)

theorem canonicalText_eq_ok_iff {value : Value} (distinct : value.Distinct) {text : String} :
    canonicalText value = .ok text ↔ value.Whole ∧ value.sorted.toText = text := by
  constructor
  · intro printed
    rw [canonicalText, Value.canonical] at printed
    cases found : value.sorted.firstFloat? with
    | none =>
      rw [found] at printed
      exact ⟨distinct.whole_sorted_iff.1 (Value.firstFloat?_eq_none_iff.1 found),
        Except.ok.inj printed⟩
    | some bits =>
      rw [found] at printed
      cases printed
  · intro told
    rw [canonicalText_of_whole (Value.firstFloat?_eq_none_iff.2 told.1), told.2]

/-- The refusal names a number that stands in the value. -/
theorem canonicalText_of_not_whole {value : Value} (distinct : value.Distinct)
    (notWhole : ¬ value.Whole) :
    ∃ bits, value.Holds (.float bits) ∧
      canonicalText value = .error (.encoding (Value.NotWhole.message ⟨bits⟩)) := by
  cases found : value.sorted.firstFloat? with
  | none =>
    have whole := Value.firstFloat?_eq_none_iff.1 found
    exact absurd (distinct.whole_sorted_iff.1 whole) notWhole
  | some bits =>
    refine ⟨bits, Value.holds_of_holds_sorted (Value.holds_of_firstFloat? found), ?_⟩
    rw [canonicalText, Value.canonical, found]

/-- What is read from any text of a value has the canonical text of the value. -/
theorem canonicalText_of_writtenAs {value : Value} (whole : value.Whole)
    (shallow : value.nesting ≤ Tree.depthLimit) {text : String} (written : value.WrittenAs text) :
    ∃ read, Value.ofText text = .ok read ∧ canonicalText read = .ok value.sorted.toText := by
  refine ⟨value.sorted, Value.ofText_eq_ok_iff.2 ⟨value, written, shallow, rfl⟩, ?_⟩
  have kept := Value.firstFloat?_sorted value (Value.firstFloat?_eq_none_iff.2 whole)
  rw [canonicalText_of_whole kept, Value.sorted_sorted]

/-- There is a canonical text exactly if all numbers are whole, and a number that is not is named
otherwise. The canonical text is read as the value again, two values that are not the same never
share one, and all texts of values that are the same lead to one canonical text. -/
theorem canonicalText_canonical (value other : Value) (distinct : value.Distinct)
    (otherDistinct : other.Distinct) :
    ((∃ text, canonicalText value = .ok text) ↔ value.Whole) ∧
      (¬ value.Whole → ∃ bits, value.Holds (.float bits) ∧
        canonicalText value = .error (.encoding (Value.NotWhole.message ⟨bits⟩))) ∧
      (∀ text, canonicalText value = .ok text → value.nesting ≤ Tree.depthLimit →
        ∃ read, Value.ofText text = .ok read ∧ read.Distinct ∧ value.Same read) ∧
      (∀ text otherText, canonicalText value = .ok text → canonicalText other = .ok otherText →
        (text = otherText ↔ value.Same other)) ∧
      (∀ text otherText, value.WrittenAs text → other.WrittenAs otherText →
        value.Whole → other.Whole →
        value.nesting ≤ Tree.depthLimit → other.nesting ≤ Tree.depthLimit → value.Same other →
        ∃ canonical, canonicalText value = .ok canonical ∧
          (∃ read, Value.ofText text = .ok read ∧ canonicalText read = .ok canonical) ∧
          ∃ read, Value.ofText otherText = .ok read ∧ canonicalText read = .ok canonical) := by
  refine ⟨?printed, canonicalText_of_not_whole distinct, ?readBack, ?told, ?texts⟩
  case printed =>
    constructor
    · intro ⟨text, printed⟩
      exact ((canonicalText_eq_ok_iff distinct).1 printed).1
    · intro whole
      exact ⟨_, (canonicalText_eq_ok_iff distinct).2 ⟨whole, rfl⟩⟩
  case readBack =>
    intro text printed shallow
    obtain ⟨whole, rfl⟩ := (canonicalText_eq_ok_iff distinct).1 printed
    have kept := Value.firstFloat?_sorted value (Value.firstFloat?_eq_none_iff.2 whole)
    have read := Value.ofText_toText value.sorted kept
      (Nat.le_trans value.nesting_sorted_le shallow)
    rw [Value.sorted_sorted] at read
    have same := (distinct.same_iff distinct.sorted).2 (Value.sorted_sorted value).symm
    exact ⟨value.sorted, read, distinct.sorted, same⟩
  case told =>
    intro text otherText printed otherPrinted
    obtain ⟨whole, rfl⟩ := (canonicalText_eq_ok_iff distinct).1 printed
    obtain ⟨otherWhole, rfl⟩ := (canonicalText_eq_ok_iff otherDistinct).1 otherPrinted
    rw [distinct.same_iff otherDistinct]
    exact Value.toText_sorted_inj (Value.firstFloat?_eq_none_iff.2 whole)
      (Value.firstFloat?_eq_none_iff.2 otherWhole)
  case texts =>
    intro text otherText written otherWritten whole otherWhole shallow otherShallow same
    have inOrder := (distinct.same_iff otherDistinct).1 same
    refine ⟨value.sorted.toText, (canonicalText_eq_ok_iff distinct).2 ⟨whole, rfl⟩,
      canonicalText_of_writtenAs whole shallow written, ?_⟩
    rw [inOrder]
    exact canonicalText_of_writtenAs otherWhole otherShallow otherWritten

theorem least_le_one : (-9223372036854775808 : Int) ≤ 1 := by decide

theorem one_lt_limit : (1 : Int) < 18446744073709551616 := by decide

def pair : Value :=
  .object [("b", .number (.whole 1 least_le_one one_lt_limit)), ("a", .string "x")]

/-- The same pair the other way round. -/
def turnedPair : Value :=
  .object [("a", .string "x"), ("b", .number (.whole 1 least_le_one one_lt_limit))]

theorem distinct_pair : pair.Distinct :=
  .object (by decide) (by simp [Value.Distinct.number, Value.Distinct.string])

theorem distinct_turnedPair : turnedPair.Distinct :=
  .object (by decide) (by simp [Value.Distinct.number, Value.Distinct.string])

theorem pair_writtenAs : pair.WrittenAs "\x7b\"b\":1,\"a\":\"x\"\x7d" :=
  pair.writtenAs_toText (by decide)

/-- There may be blanks between the tokens, and a letter may be escaped. -/
theorem turnedPair_writtenAs :
    turnedPair.WrittenAs " \x7b \"a\" : \"\\u0078\",\n\"b\":1 \x7d" := by
  have means : Tree.Means
      (.object [(.ofText "a", .string ⟨[.unit 0x78], none⟩), (.ofText "b", .number (.ofInt 1))]
        .closed) turnedPair :=
    .object
      (.cons (StringText.means_ofText "a") (.string (StringText.decode_eq_ok_iff.1 (by decide)))
        (.cons (StringText.means_ofText "b") (.number (by decide)) .nil))
  exact ⟨_, means, @Token.listWritten_of_allFrom [] _ _ (by decide +kernel) means.clean⟩

theorem canonicalText_canonical_turned :
    pair.Distinct ∧ turnedPair.Distinct ∧ pair.Same turnedPair ∧
      ∃ canonical, canonicalText pair = .ok canonical ∧
        (∃ read, Value.ofText "\x7b\"b\":1,\"a\":\"x\"\x7d" = .ok read ∧
          canonicalText read = .ok canonical) ∧
        ∃ read, Value.ofText " \x7b \"a\" : \"\\u0078\",\n\"b\":1 \x7d" = .ok read ∧
          canonicalText read = .ok canonical := by
  have same : pair.Same turnedPair :=
    distinct_pair.same_of_sorted_eq distinct_turnedPair (by decide)
  obtain ⟨-, -, -, -, texts⟩ :=
    canonicalText_canonical pair turnedPair distinct_pair distinct_turnedPair
  refine ⟨distinct_pair, distinct_turnedPair, same, ?_⟩
  exact texts _ _ pair_writtenAs turnedPair_writtenAs
    (Value.firstFloat?_eq_none_iff.1 (by decide)) (Value.firstFloat?_eq_none_iff.1 (by decide))
    (by decide) (by decide) same

end RelayCheck.Note
