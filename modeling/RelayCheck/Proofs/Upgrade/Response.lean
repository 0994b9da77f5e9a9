import RelayCheck.Proofs.Text.Utf8
import RelayCheck.Upgrade.Response

/-!
Responses in front of octets that come later.

The end of a head is where it is, whatever follows it. Two things are held to the limit, though: a
head, and octets in which no head ends. The latter may lack no more than a part of the mark at the
end of a head that is itself within the limit. Only then do octets that come later make a
difference to a response or to an error.
-/

set_option autoImplicit false

namespace RelayCheck.Upgrade

/-! ## The end of a head -/

/-- The first end of a head in the octets comes after `size` of them. -/
def EndsAt (octets : Bytes) (size : Nat) : Prop :=
  headEnd <+: octets.drop size ∧ ∀ earlier < size, ¬ headEnd <+: octets.drop earlier

theorem endsAt_zero_iff {octets : Bytes} : EndsAt octets 0 ↔ headEnd <+: octets := by
  refine and_iff_left fun earlier before => ?_
  exact absurd before (Nat.not_lt_zero earlier)

theorem endsAt_succ_iff {octet : UInt8} {rest : Bytes} {size : Nat} :
    EndsAt (octet :: rest) (size + 1) ↔ ¬ headEnd <+: octet :: rest ∧ EndsAt rest size := by
  constructor
  · intro ⟨marked, unmarked⟩
    refine ⟨unmarked 0 (Nat.succ_pos size), marked, fun earlier before => ?_⟩
    exact unmarked (earlier + 1) (Nat.succ_lt_succ before)
  · intro ⟨here, marked, unmarked⟩
    refine ⟨marked, fun earlier before => ?_⟩
    cases earlier with
    | zero => exact here
    | succ earlier => exact unmarked earlier (Nat.lt_of_succ_lt_succ before)

theorem findHeadEnd_of_marked {octet : UInt8} {rest : Bytes} (marked : headEnd <+: octet :: rest)
    (position : Nat) : findHeadEnd position (octet :: rest) = some position :=
  if_pos (List.isPrefixOf_iff_prefix.2 marked)

theorem findHeadEnd_of_unmarked {octet : UInt8} {rest : Bytes}
    (unmarked : ¬ headEnd <+: octet :: rest) (position : Nat) :
    findHeadEnd position (octet :: rest) = findHeadEnd (position + 1) rest :=
  if_neg fun marked => unmarked (List.isPrefixOf_iff_prefix.1 marked)

theorem findHeadEnd_eq_none_iff (position : Nat) (octets : Bytes) :
    findHeadEnd position octets = none ↔ ¬ headEnd <:+: octets := by
  induction octets generalizing position with
  | nil => exact iff_of_true rfl (by decide)
  | cons octet rest ih =>
    rw [List.infix_cons_iff, not_or]
    by_cases marked : headEnd <+: octet :: rest
    · rw [findHeadEnd_of_marked marked]
      exact iff_of_false (Option.some_ne_none _) fun apart => apart.1 marked
    · rw [findHeadEnd_of_unmarked marked, ih]
      exact (and_iff_right marked).symm

theorem le_of_findHeadEnd {position size : Nat} {octets : Bytes}
    (found : findHeadEnd position octets = some size) : position ≤ size := by
  induction octets generalizing position with
  | nil => cases found
  | cons octet rest ih =>
    by_cases marked : headEnd <+: octet :: rest
    · rw [findHeadEnd_of_marked marked] at found
      cases found
      exact Nat.le_refl _
    · rw [findHeadEnd_of_unmarked marked] at found
      exact Nat.le_of_succ_le (ih found)

theorem findHeadEnd_eq_some_add_iff {octets : Bytes} {position size : Nat} :
    findHeadEnd position octets = some (position + size) ↔ EndsAt octets size := by
  induction octets generalizing position size with
  | nil =>
    refine iff_of_false (Option.some_ne_none _).symm fun ends => ?_
    have marked := ends.1
    rw [List.drop_nil] at marked
    exact absurd marked.length_le (by decide)
  | cons octet rest ih =>
    by_cases marked : headEnd <+: octet :: rest
    · rw [findHeadEnd_of_marked marked]
      cases size with
      | zero => exact iff_of_true rfl (endsAt_zero_iff.2 marked)
      | succ size =>
        refine iff_of_false (fun same => ?_) fun ends => (endsAt_succ_iff.1 ends).1 marked
        have shifted := Option.some.inj same
        omega
    · rw [findHeadEnd_of_unmarked marked]
      cases size with
      | zero =>
        refine iff_of_false (fun found => ?_) fun ends => marked (endsAt_zero_iff.1 ends)
        have later := le_of_findHeadEnd found
        omega
      | succ size =>
        rw [show position + (size + 1) = position + 1 + size by omega, ih, endsAt_succ_iff]
        exact (and_iff_right marked).symm

theorem findHeadEnd_eq_some_iff {octets : Bytes} {size : Nat} :
    findHeadEnd 0 octets = some size ↔ EndsAt octets size := by
  rw [← @findHeadEnd_eq_some_add_iff octets 0, Nat.zero_add]

theorem marked_append_iff (position : Nat) (front more : Bytes) :
    headEnd <+: front.drop position ↔
      headEnd <+: (front ++ more).drop position ∧ position + 4 ≤ front.length := by
  constructor
  · intro marked
    have long := marked.length_le
    rw [List.length_drop, show headEnd.length = 4 from rfl] at long
    rw [List.drop_append_of_le_length (by omega)]
    exact ⟨marked.trans (List.prefix_append _ _), by omega⟩
  · intro ⟨marked, long⟩
    rw [List.drop_append_of_le_length (by omega)] at marked
    refine List.prefix_of_prefix_length_le marked (List.prefix_append _ _) ?_
    rw [List.length_drop, show headEnd.length = 4 from rfl]
    omega

/-- A head ends in the front part of some octets if all of its end is there. -/
theorem endsAt_append_iff {size : Nat} (front more : Bytes) :
    EndsAt front size ↔ EndsAt (front ++ more) size ∧ size + 4 ≤ front.length := by
  constructor
  · intro ⟨marked, unmarked⟩
    obtain ⟨present, long⟩ := (marked_append_iff size front more).1 marked
    refine ⟨⟨present, fun earlier before other => ?_⟩, long⟩
    exact unmarked earlier before ((marked_append_iff earlier front more).2 ⟨other, by omega⟩)
  · intro ⟨⟨marked, unmarked⟩, long⟩
    refine ⟨(marked_append_iff size front more).2 ⟨marked, long⟩, fun earlier before other => ?_⟩
    exact unmarked earlier before ((marked_append_iff earlier front more).1 other).1

theorem findHeadEnd_append_iff {size : Nat} (front more : Bytes) :
    findHeadEnd 0 front = some size ↔
      findHeadEnd 0 (front ++ more) = some size ∧ size + 4 ≤ front.length := by
  rw [findHeadEnd_eq_some_iff, findHeadEnd_eq_some_iff]
  exact endsAt_append_iff front more

theorem findHeadEnd_of_short {size : Nat} {front more : Bytes}
    (found : findHeadEnd 0 (front ++ more) = some size) (short : front.length < size + 4) :
    findHeadEnd 0 front = none := by
  cases early : findHeadEnd 0 front with
  | none => rfl
  | some other =>
    obtain ⟨same, long⟩ := (findHeadEnd_append_iff front more).1 early
    cases found.symm.trans same
    omega

/-- In front of a carriage return there is no end of a head. -/
theorem findHeadEnd_append_of_not_mem {octets : Bytes} (plain : 0x0D ∉ octets) (position : Nat)
    (rest : Bytes) :
    findHeadEnd position (octets ++ rest) = findHeadEnd (position + octets.length) rest := by
  induction octets generalizing position with
  | nil => rfl
  | cons octet octets ih =>
    have other : 0x0D ≠ octet := fun same => plain (same ▸ List.mem_cons_self)
    have others : 0x0D ∉ octets := fun member => plain (List.mem_cons_of_mem _ member)
    have unmarked : ¬ headEnd <+: octet :: (octets ++ rest) :=
      fun marked => other (List.cons_prefix_cons.1 marked).1
    rw [List.cons_append, findHeadEnd_of_unmarked unmarked, ih others, List.length_cons,
      Nat.add_right_comm, Nat.add_assoc position]

/-! ## Faults in a head -/

theorem malformed_of_readStatusLine {line : List Char} {why : UpgradeError}
    (failed : readStatusLine line = .error why) : ∃ reason, why = .malformed reason := by
  simp only [readStatusLine] at failed
  split at failed
  · cases failed
    exact ⟨_, rfl⟩
  · split at failed
    · cases failed
      exact ⟨_, rfl⟩
    · split at failed
      · cases failed
        exact ⟨_, rfl⟩
      · cases failed

theorem malformed_of_readHeaders {lines : List (List Char)} {why : UpgradeError}
    (failed : readHeaders lines = .error why) : ∃ reason, why = .malformed reason := by
  induction lines with
  | nil => cases failed
  | cons line lines ih =>
    rw [readHeaders] at failed
    split at failed
    · cases failed
      exact ⟨_, rfl⟩
    · cases others : readHeaders lines with
      | error other =>
        rw [others] at failed
        cases failed
        exact ih others
      | ok headers =>
        rw [others] at failed
        cases failed

namespace Response

theorem malformed_of_ofHead {head : Bytes} {why : UpgradeError}
    (failed : ofHead head = .error why) : ∃ reason, why = .malformed reason := by
  rw [ofHead] at failed
  split at failed
  · cases failed
    exact ⟨_, rfl⟩
  · split at failed
    · cases failed
      exact ⟨_, rfl⟩
    · next first lines _ =>
      cases status : readStatusLine first with
      | error other =>
        rw [status] at failed
        cases failed
        exact malformed_of_readStatusLine status
      | ok statusLine =>
        rw [status] at failed
        cases others : readHeaders lines with
        | error other =>
          simp only [others, bind, Except.bind] at failed
          cases failed
          exact malformed_of_readHeaders others
        | ok headers =>
          simp only [others, bind, Except.bind] at failed
          cases failed

/-! ## Later octets -/

/-- Some octets are over the limit, and all that they hold of the end of a head within the limit is
a part of its mark. -/
def CutsMark (front whole : Bytes) : Prop :=
  ∃ size, findHeadEnd 0 whole = some size ∧ size ≤ maxHead ∧ maxHead < front.length ∧
    front.length < size + 4

/-- Only a head that falls short of the limit by no more than two octets has a mark to cut. -/
theorem CutsMark.size_near {front whole : Bytes} (cut : CutsMark front whole) :
    ∃ size, findHeadEnd 0 whole = some size ∧ maxHead ≤ size + 2 ∧ size ≤ maxHead := by
  obtain ⟨size, found, within, exceeds, short⟩ := cut
  exact ⟨size, found, by omega, within⟩

theorem parse_of_end {octets : Bytes} {size : Nat} (found : findHeadEnd 0 octets = some size)
    (within : size ≤ maxHead) :
    parse octets =
      (ofHead (octets.take size)).map fun response => some (response, size + 4) := by
  rw [parse, found]
  simp only [if_neg (Nat.not_lt.2 within)]
  cases ofHead (octets.take size) <;> rfl

theorem parse_of_long {octets : Bytes} {size : Nat} (found : findHeadEnd 0 octets = some size)
    (long : maxHead < size) : parse octets = .error (.headersTooLarge maxHead) := by
  rw [parse, found]
  exact if_pos long

/-- A head within the limit is not refused as too long, whatever else is wrong with it. -/
theorem parse_ne_headersTooLarge {octets : Bytes} {size : Nat}
    (found : findHeadEnd 0 octets = some size) (within : size ≤ maxHead) :
    parse octets ≠ .error (.headersTooLarge maxHead) := by
  rw [parse_of_end found within]
  cases read : ofHead (octets.take size) with
  | error why =>
    obtain ⟨reason, rfl⟩ := malformed_of_ofHead read
    exact fun same => nomatch same
  | ok response => exact fun same => nomatch same

theorem parse_append_of_end {front more : Bytes} {size : Nat}
    (early : findHeadEnd 0 front = some size) : parse (front ++ more) = parse front := by
  obtain ⟨found, long⟩ := (findHeadEnd_append_iff front more).1 early
  rw [parse, parse, found, early]
  simp only [List.take_append_of_le_length (show size ≤ front.length by omega)]

/-- Octets in which no head ends are refused if there is anything to say of them. -/
theorem parse_of_endless {octets : Bytes} (endless : findHeadEnd 0 octets = none)
    (settled : parse octets ≠ .ok none) :
    maxHead < octets.length ∧ parse octets = .error (.headersTooLarge maxHead) := by
  rw [parse, endless] at settled ⊢
  by_cases long : maxHead < octets.length
  · exact ⟨long, if_pos long⟩
  · exact absurd (if_neg long) settled

/-- What lacks the end of its head is within the limit. -/
theorem length_le_of_parse_eq_none {octets : Bytes} (missing : parse octets = .ok none) :
    octets.length ≤ maxHead := by
  cases found : findHeadEnd 0 octets with
  | none =>
    rw [parse, found] at missing
    by_cases long : maxHead < octets.length
    · simp only [if_pos long] at missing
      cases missing
    · exact Nat.le_of_not_lt long
  | some size =>
    by_cases within : size ≤ maxHead
    · rw [parse_of_end found within] at missing
      cases read : ofHead (octets.take size) <;> rw [read] at missing <;> cases missing
    · cases missing.symm.trans (parse_of_long found (Nat.lt_of_not_le within))

theorem parse_of_short {front more : Bytes} {size : Nat}
    (found : findHeadEnd 0 (front ++ more) = some size) (short : front.length < size + 4)
    (settled : parse front ≠ .ok none) : parse front = .error (.headersTooLarge maxHead) :=
  (parse_of_endless (findHeadEnd_of_short found short) settled).2

/-- What is said of some octets stands when others follow, unless the octets cut the mark at the
end of a head. -/
theorem parse_append_iff {front more : Bytes} (settled : parse front ≠ .ok none) :
    parse (front ++ more) = parse front ↔ ¬ CutsMark front (front ++ more) := by
  cases early : findHeadEnd 0 front with
  | some size =>
    obtain ⟨found, long⟩ := (findHeadEnd_append_iff front more).1 early
    refine iff_of_true (parse_append_of_end early) ?_
    rintro ⟨other, again, -, -, short⟩
    cases found.symm.trans again
    omega
  | none =>
    -- refused for its length alone, which settles the rest only if no head ends within the limit
    obtain ⟨exceeds, refused⟩ := parse_of_endless early settled
    rw [refused]
    cases found : findHeadEnd 0 (front ++ more) with
    | none =>
      have longer : maxHead < (front ++ more).length := by
        rw [List.length_append]
        omega
      refine iff_of_true ?_ ?_
      · rw [parse, found]
        exact if_pos longer
      · rintro ⟨size, again, -⟩
        cases found.symm.trans again
    | some size =>
      have short : front.length < size + 4 := by
        refine Nat.lt_of_not_le fun enough => ?_
        have present := (findHeadEnd_append_iff front more).2 ⟨found, by omega⟩
        cases early.symm.trans present
      by_cases within : size ≤ maxHead
      · refine iff_of_false ?_ (not_not_intro ⟨size, found, within, exceeds, short⟩)
        exact parse_ne_headersTooLarge found within
      · refine iff_of_true (parse_of_long found (Nat.lt_of_not_le within)) ?_
        rintro ⟨other, again, limited, -⟩
        cases found.symm.trans again
        exact within limited

end Response

/-! ## A head of one line -/

theorem splitLines_of_not_mem {characters : List Char} (plain : '\r' ∉ characters)
    (line : List Char) : splitLines line characters = [line.reverse ++ characters] := by
  induction characters generalizing line with
  | nil => rw [splitLines, List.append_nil]
  | cons character characters ih =>
    have other : character ≠ '\r' := fun same => plain (same ▸ List.mem_cons_self)
    have others : '\r' ∉ characters := fun member => plain (List.mem_cons_of_mem _ member)
    rw [splitLines, ih others, List.reverse_cons, List.append_assoc, List.singleton_append]
    rintro rest rfl
    exact absurd rfl other

namespace Response

theorem ofHead_of_reason {reason : List Char} (plain : '\r' ∉ reason) :
    ofHead (Text.Utf8.encode ("HTTP/1.1 101 " ++ String.ofList reason)) =
      .ok ⟨101, String.ofList reason, []⟩ := by
  have line : readStatusLine ("HTTP/1.1 101 ".toList ++ reason) =
      .ok ⟨101, String.ofList reason⟩ := rfl
  have plainLine : '\r' ∉ "HTTP/1.1 101 ".toList ++ reason := by
    rw [List.mem_append, not_or]
    exact ⟨by decide, plain⟩
  rw [ofHead, Text.Utf8.decode?_encode]
  simp only [String.toList_append, String.toList_ofList, splitLines_of_not_mem plainLine,
    List.reverse_nil, List.nil_append, line]
  rfl

/-- A head that is as long as a head may be. -/
def longest : Bytes :=
  Text.Utf8.encode ("HTTP/1.1 101 " ++ String.ofList (List.replicate 16371 'a'))

theorem longest_eq :
    longest = Text.Utf8.encode "HTTP/1.1 101 " ++ List.replicate 16371 0x61 := by
  have repeated : (List.replicate 16371 'a').flatMap String.utf8EncodeChar =
      List.replicate 16371 0x61 := by
    have octet : String.utf8EncodeChar 'a' = [0x61] := by decide
    rw [List.flatMap_replicate, octet, List.flatten_replicate_singleton]
  rw [longest, Text.Utf8.encode, Text.Utf8.encode, String.toList_append, List.flatMap_append,
    ← repeated]
  simp only [String.toList_ofList]

theorem length_longest : longest.length = maxHead := by
  rw [longest_eq, List.length_append, List.length_replicate]
  rfl

theorem findHeadEnd_longest (rest : Bytes) :
    findHeadEnd 0 (longest ++ rest) = findHeadEnd maxHead rest := by
  have plain : 0x0D ∉ longest := by
    rw [longest_eq, List.mem_append, not_or]
    exact ⟨by decide, fun member => absurd (List.eq_of_mem_replicate member) (by decide)⟩
  rw [findHeadEnd_append_of_not_mem plain, Nat.zero_add, length_longest]

theorem cutsMark_longest :
    CutsMark (longest ++ [0x0D]) (longest ++ [0x0D] ++ [0x0A, 0x0D, 0x0A]) := by
  have ended : findHeadEnd 0 (longest ++ ([0x0D] ++ [0x0A, 0x0D, 0x0A])) = some maxHead :=
    findHeadEnd_longest headEnd
  have size : (longest ++ [0x0D]).length = maxHead + 1 := by
    rw [List.length_append, length_longest]
    rfl
  rw [← List.append_assoc] at ended
  exact ⟨maxHead, ended, Nat.le_refl _, by omega, by omega⟩

theorem parse_longest_part :
    parse (longest ++ [0x0D]) = .error (.headersTooLarge maxHead) := by
  have endless : findHeadEnd 0 (longest ++ [0x0D]) = none := findHeadEnd_longest [0x0D]
  obtain ⟨-, -, -, exceeds, -⟩ := cutsMark_longest
  rw [parse, endless]
  exact if_pos exceeds

theorem parse_longest :
    parse (longest ++ [0x0D] ++ [0x0A, 0x0D, 0x0A]) =
      .ok (some (⟨101, String.ofList (List.replicate 16371 'a'), []⟩, maxHead + 4)) := by
  have ended : findHeadEnd 0 (longest ++ headEnd) = some maxHead := findHeadEnd_longest headEnd
  have plain : '\r' ∉ List.replicate 16371 'a' := fun member =>
    absurd (List.eq_of_mem_replicate member) (by decide)
  rw [List.append_assoc]
  show parse (longest ++ headEnd) = _
  rw [parse_of_end ended (Nat.le_refl _), ← length_longest, List.take_left, longest,
    ofHead_of_reason plain]
  rfl

end Response

end RelayCheck.Upgrade
