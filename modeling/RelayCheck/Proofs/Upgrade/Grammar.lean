import Mathlib.Data.Nat.Digits.Defs
import RelayCheck.Proofs.Text.Blank
import RelayCheck.Proofs.Upgrade.Response

/-!
The grammar of responses.

It is told by how the parts of a head are put together: the lines with a carriage return and a line
feed between them, the version and the status in the first line, the names and the values in the
others. What looks for the end of a head, divides it into lines and cuts a line finds these parts.
-/

set_option autoImplicit false

namespace RelayCheck.Upgrade

/-! ## The grammar -/

def lineEnd : List Char := ['\r', '\n']

/-- The characters are those of the lines with the end of a line between one and the next. -/
structure Lines (characters : List Char) (lines : List (List Char)) : Prop where
  nonempty : lines ≠ []
  joined : lineEnd.intercalate lines = characters
  apart : ∀ line ∈ lines, ¬ lineEnd <:+: line

/-- One or more digits for a number, perhaps with a plus sign in front. -/
def Decimal (characters : List Char) (number : Nat) : Prop :=
  ∃ digits, (characters = digits ∨ characters = '+' :: digits) ∧ digits ≠ [] ∧
    (∀ digit ∈ digits, digit.isDigit) ∧
    Nat.ofDigits 10 (digits.reverse.map fun digit => digit.toNat - '0'.toNat) = number

/-- A first line. Its first two spaces stand around the status, and what comes after them is the
reason, which may be absent with its space. -/
inductive FirstLine : List Char → UInt16 → String → Prop
  | bare {version code : List Char} {status : UInt16} (http : "HTTP/1.".toList <+: version)
      (undivided : ' ' ∉ version ∧ ' ' ∉ code) (decimal : Decimal code status.toNat) :
      FirstLine (version ++ ' ' :: code) status ""
  | reasoned {version code reason : List Char} {status : UInt16}
      (http : "HTTP/1.".toList <+: version) (undivided : ' ' ∉ version ∧ ' ' ∉ code)
      (decimal : Decimal code status.toNat) :
      FirstLine (version ++ ' ' :: (code ++ ' ' :: reason)) status (String.ofList reason)

/-- A head with this status, this reason and these lines of headers. -/
inductive Head : Bytes → UInt16 → String → List (List Char) → Prop
  | intro {text reason : String} {first : List Char} {lines : List (List Char)} {status : UInt16}
      (split : Lines text.toList (first :: lines)) (begins : FirstLine first status reason)
      (headers : ∀ line ∈ lines, ':' ∈ line) :
      Head (Text.Utf8.encode text) status reason lines

/-- The line is a header. The first colon stands between the name and the value. -/
inductive HeaderLine : List Char → List Char → List Char → Prop
  | intro {before after name value : List Char} (undivided : ':' ∉ before)
      (named : Text.Trimmed before name) (valued : Text.Trimmed after value) :
      HeaderLine (before ++ ':' :: after) name value

/-- The names are the same but for the case of letters of ASCII. -/
def SameName (name other : List Char) : Prop :=
  name.map Char.toLower = other.map Char.toLower

instance (name other : List Char) : Decidable (SameName name other) :=
  inferInstanceAs (Decidable (_ = _))

/-- Some header has the name, and the last one that has it has the value. -/
def LastValue (lines : List (List Char)) (name value : List Char) : Prop :=
  ∃ earlier line later written, lines = earlier ++ line :: later ∧
    HeaderLine line written value ∧ SameName written name ∧
    ∀ other ∈ later, ∀ written value, HeaderLine other written value → ¬ SameName written name

/-! ## Lines -/

theorem lineEnd_prefix_cons_iff {character : Char} {rest : List Char} :
    lineEnd <+: character :: rest ↔ character = '\r' ∧ rest.head? = some '\n' := by
  cases rest with
  | nil => simp [lineEnd, List.cons_prefix_cons]
  | cons next rest => simp [lineEnd, List.cons_prefix_cons, eq_comm]

theorem splitLines_lineEnd (line rest : List Char) :
    splitLines line (lineEnd ++ rest) = line.reverse :: splitLines [] rest := rfl

theorem splitLines_cons {character : Char} {rest : List Char}
    (plain : ¬ lineEnd <+: character :: rest) (line : List Char) :
    splitLines line (character :: rest) = splitLines (character :: line) rest := by
  refine splitLines.eq_3 line character rest fun after first second => ?_
  rw [first, second] at plain
  exact plain ⟨after, rfl⟩

theorem splitLines_eq_modifyHead (line characters : List Char) :
    splitLines line characters = (splitLines [] characters).modifyHead (line.reverse ++ ·) := by
  induction characters generalizing line with
  | nil => rw [splitLines, splitLines, List.modifyHead_cons, List.reverse_nil, List.append_nil]
  | cons character rest ih =>
    by_cases ended : lineEnd <+: character :: rest
    · obtain ⟨after, same⟩ := ended
      rw [← same, splitLines_lineEnd, splitLines_lineEnd, List.modifyHead_cons, List.reverse_nil,
        List.append_nil]
    · rw [splitLines_cons ended, splitLines_cons ended, ih, ih [character],
        List.modifyHead_modifyHead]
      simp only [Function.comp_def, List.reverse_cons, List.append_assoc, List.reverse_nil,
        List.nil_append]

theorem head?_lineEnd_append (more : List Char) : (lineEnd ++ more).head? ≠ some '\n' := by
  show some '\r' ≠ some '\n'
  decide

/-- What comes in front of the first end of a line, or of the end of the text, is a line. -/
theorem splitLines_append {line more : List Char} (apart : ¬ lineEnd <:+: line)
    (ends : more.head? ≠ some '\n') :
    splitLines [] (line ++ more) = (splitLines [] more).modifyHead (line ++ ·) := by
  induction line with
  | nil =>
    rw [List.nil_append]
    exact splitLines_eq_modifyHead [] more
  | cons character line ih =>
    rw [List.infix_cons_iff, not_or] at apart
    have plain : ¬ lineEnd <+: character :: (line ++ more) := by
      rw [lineEnd_prefix_cons_iff] at apart ⊢
      intro ⟨first, second⟩
      cases line with
      | nil => exact ends second
      | cons next line => exact apart.1 ⟨first, second⟩
    rw [List.cons_append, splitLines_cons plain, splitLines_eq_modifyHead, ih apart.2,
      List.modifyHead_modifyHead]
    rfl

theorem Lines.eq_splitLines {characters : List Char} {lines : List (List Char)}
    (consists : Lines characters lines) : splitLines [] characters = lines := by
  obtain ⟨nonempty, rfl, apart⟩ := consists
  induction lines with
  | nil => exact absurd rfl nonempty
  | cons line lines ih =>
    have here := apart line List.mem_cons_self
    cases lines with
    | nil =>
      have alone := @splitLines_append line [] here (by decide)
      rw [List.append_nil] at alone
      rw [List.intercalate_singleton, alone, splitLines]
      exact congrArg (fun line => [line]) (List.append_nil line)
    | cons next lines =>
      have others := ih (List.cons_ne_nil next lines) fun other member =>
        apart other (List.mem_cons_of_mem line member)
      rw [List.intercalate_cons_cons, List.append_assoc,
        splitLines_append here (head?_lineEnd_append _), splitLines_lineEnd, others,
        List.modifyHead_cons, List.reverse_nil, List.append_nil]

theorem Lines.nil : Lines [] [[]] :=
  ⟨List.cons_ne_nil _ _, rfl, by decide⟩

theorem Lines.ended {characters : List Char} {lines : List (List Char)}
    (consists : Lines characters lines) : Lines (lineEnd ++ characters) ([] :: lines) := by
  obtain ⟨nonempty, joined, apart⟩ := consists
  refine ⟨List.cons_ne_nil _ _, ?_, List.forall_mem_cons.2 ⟨by decide, apart⟩⟩
  cases lines with
  | nil => exact absurd rfl nonempty
  | cons line lines => rw [List.intercalate_cons_cons, joined, List.nil_append]

theorem Lines.longer {character : Char} {characters line : List Char} {lines : List (List Char)}
    (consists : Lines characters (line :: lines)) (plain : ¬ lineEnd <+: character :: characters) :
    Lines (character :: characters) ((character :: line) :: lines) := by
  obtain ⟨-, joined, apart⟩ := consists
  have front : ∃ more, line ++ more = characters ∧
      lineEnd.intercalate ((character :: line) :: lines) = character :: (line ++ more) := by
    cases lines with
    | nil =>
      rw [List.intercalate_singleton] at joined ⊢
      exact ⟨[], by rw [List.append_nil, joined], by rw [List.append_nil]⟩
    | cons next lines =>
      rw [List.intercalate_cons_cons, List.append_assoc] at joined ⊢
      exact ⟨_, joined, rfl⟩
  obtain ⟨more, begins, whole⟩ := front
  rw [List.forall_mem_cons] at apart
  refine ⟨List.cons_ne_nil _ _, whole.trans (congrArg _ begins),
    List.forall_mem_cons.2 ⟨?_, apart.2⟩⟩
  rw [List.infix_cons_iff, not_or]
  refine ⟨fun marked => plain (marked.trans ⟨more, ?_⟩), apart.1⟩
  rw [List.cons_append, begins]

theorem lines_splitLines (characters : List Char) :
    Lines characters (splitLines [] characters) := by
  induction length : characters.length using Nat.strongRecOn generalizing characters with
  | _ size ih =>
    cases characters with
    | nil => exact Lines.nil
    | cons character rest =>
      by_cases ended : lineEnd <+: character :: rest
      · obtain ⟨after, same⟩ := ended
        rw [← same] at length ⊢
        refine (ih _ ?_ after rfl).ended
        rw [← length, List.length_append]
        exact Nat.lt_add_of_pos_left (by decide : 0 < lineEnd.length)
      · have others := ih rest.length (by rw [← length]; exact Nat.lt_succ_self _) rest rfl
        rw [splitLines_cons ended, splitLines_eq_modifyHead]
        match splitLines [] rest, others with
        | line :: lines, others => exact others.longer ended

theorem splitLines_eq_iff {characters : List Char} {lines : List (List Char)} :
    splitLines [] characters = lines ↔ Lines characters lines := by
  constructor
  · intro same
    rw [← same]
    exact lines_splitLines characters
  · exact Lines.eq_splitLines

/-! ## The parts of a line -/

theorem cut_append {mark : Char} {front : List Char} (undivided : mark ∉ front)
    (rest : List Char) : cut mark (front ++ mark :: rest) = (front, some rest) := by
  have others : ∀ character ∈ front, (character != mark) = true := fun character member =>
    bne_iff_ne.2 fun same => undivided (same ▸ member)
  simp [cut, List.takeWhile_append_of_pos others, List.dropWhile_append_of_pos others]

theorem cut_of_not_mem {mark : Char} {front : List Char} (undivided : mark ∉ front) :
    cut mark front = (front, none) := by
  have others : ∀ character ∈ front, (character != mark) = true := fun character member =>
    bne_iff_ne.2 fun same => undivided (same ▸ member)
  rw [cut, List.takeWhile_eq_self_iff.2 others, List.dropWhile_eq_nil_iff.2 others]

theorem readDigits?_eq_some_iff {digits : List Char} {number : Nat} :
    readDigits? digits = some number ↔ digits ≠ [] ∧ (∀ digit ∈ digits, digit.isDigit) ∧
      Nat.ofDigits 10 (digits.reverse.map fun digit => digit.toNat - '0'.toNat) = number := by
  have value : digits.foldl (fun number digit => number * 10 + (digit.toNat - '0'.toNat)) 0 =
      Nat.ofDigits 10 (digits.reverse.map fun digit => digit.toNat - '0'.toNat) := by
    rw [Nat.ofDigits_eq_foldr, List.foldr_map, List.foldl_eq_foldr_reverse]
    congr 1
    funext digit number
    rw [Nat.cast_id, Nat.mul_comm, Nat.add_comm]
  have readable : (digits.isEmpty || !digits.all Char.isDigit) = false ↔
      digits ≠ [] ∧ ∀ digit ∈ digits, digit.isDigit := by
    rw [Bool.or_eq_false_iff, List.isEmpty_eq_false_iff, Bool.not_eq_false', List.all_eq_true]
  rw [readDigits?, value, ← and_assoc, ← readable]
  cases digits.isEmpty || !digits.all Char.isDigit with
  | true => simp
  | false => simp

theorem readStatus?_of_digits {digits : List Char} {status : UInt16} :
    (match readDigits? digits with
      | some number => if number < 65536 then some (UInt16.ofNat number) else none
      | none => none) = some status ↔ readDigits? digits = some status.toNat := by
  cases readDigits? digits with
  | none => exact iff_of_false (fun same => nomatch same) fun same => nomatch same
  | some number =>
    show (if number < 65536 then some (UInt16.ofNat number) else none) = some status ↔ _
    rw [Option.some.injEq]
    by_cases small : number < 65536
    · rw [if_pos small, Option.some.injEq, ← UInt16.toNat_inj, UInt16.toNat_ofNat_of_lt' small]
    · rw [if_neg small]
      refine iff_of_false (fun same => nomatch same) fun same => small ?_
      rw [same]
      exact status.toNat_lt

theorem decimal_iff {code : List Char} {number : Nat} :
    Decimal code number ↔
      readDigits? (match code with | '+' :: digits => digits | digits => digits) = some number := by
  constructor
  · intro ⟨digits, written, nonempty, all, value⟩
    rcases written with rfl | rfl
    · split
      · next digits => exact absurd (all '+' List.mem_cons_self) (by decide)
      · exact readDigits?_eq_some_iff.2 ⟨nonempty, all, value⟩
    · exact readDigits?_eq_some_iff.2 ⟨nonempty, all, value⟩
  · intro read
    split at read
    · next digits => exact ⟨digits, .inr rfl, readDigits?_eq_some_iff.1 read⟩
    · exact ⟨code, .inl rfl, readDigits?_eq_some_iff.1 read⟩

theorem readStatus?_eq_some_iff {code : List Char} {status : UInt16} :
    readStatus? code = some status ↔ Decimal code status.toNat := by
  rw [decimal_iff, ← readStatus?_of_digits]
  rfl

theorem readStatusLine_append {version rest : List Char} (undivided : ' ' ∉ version)
    (found : StatusLine) :
    readStatusLine (version ++ ' ' :: rest) = .ok found ↔
      "HTTP/1.".toList <+: version ∧ Decimal (cut ' ' rest).1 found.status.toNat ∧
        String.ofList ((cut ' ' rest).2.getD []) = found.reason := by
  rw [readStatusLine, cut_append undivided, ← List.isPrefixOf_iff_prefix, ← readStatus?_eq_some_iff]
  dsimp only
  cases "HTTP/1.".toList.isPrefixOf version with
  | false => simp [badLine]
  | true =>
    cases readStatus? (cut ' ' rest).1 with
    | none => simp [badLine]
    | some status =>
      obtain ⟨foundStatus, foundReason⟩ := found
      simp

theorem readStatusLine_ne_ok {line : List Char} (undivided : ' ' ∉ line) (found : StatusLine) :
    readStatusLine line ≠ .ok found := by
  intro read
  rw [readStatusLine, cut_of_not_mem undivided] at read
  dsimp only at read
  split at read
  · cases read
  · cases read

theorem readStatusLine_eq_ok_iff {line : List Char} {found : StatusLine} :
    readStatusLine line = .ok found ↔ FirstLine line found.status found.reason := by
  constructor
  · intro read
    by_cases divided : ' ' ∈ line
    · obtain ⟨version, rest, rfl, undivided⟩ := List.eq_append_cons_of_mem divided
      obtain ⟨http, decimal, reason⟩ := (readStatusLine_append undivided found).1 read
      rw [← reason]
      by_cases again : ' ' ∈ rest
      · obtain ⟨code, reason, rfl, undivided'⟩ := List.eq_append_cons_of_mem again
        rw [cut_append undivided'] at decimal ⊢
        exact .reasoned http ⟨undivided, undivided'⟩ decimal
      · rw [cut_of_not_mem again] at decimal ⊢
        exact .bare http ⟨undivided, again⟩ decimal
    · exact absurd read (readStatusLine_ne_ok divided found)
  · intro begins
    obtain ⟨status, reason⟩ := found
    cases begins with
    | bare http undivided decimal =>
      rw [readStatusLine_append undivided.1, cut_of_not_mem undivided.2]
      exact ⟨http, decimal, rfl⟩
    | reasoned http undivided decimal =>
      rw [readStatusLine_append undivided.1, cut_append undivided.2]
      exact ⟨http, decimal, rfl⟩

end RelayCheck.Upgrade
