import Mathlib.Data.List.Induction
import RelayCheck.Proofs.Text.Utf8
import RelayCheck.Text.Hex

/-!
Octets come back from their hexadecimal digits.

They are read from their digits with letters in either case, and from nothing else. What is written
in small letters is one of these spellings.
-/

set_option autoImplicit false

namespace RelayCheck.Text.Hex

/-- The digits that are written. -/
def smallDigits : List Char :=
  ['0', '1', '2', '3', '4', '5', '6', '7', '8', '9', 'a', 'b', 'c', 'd', 'e', 'f']

theorem digitChar_mem_smallDigits {digit : Nat} (small : digit < 16) :
    digit.digitChar ∈ smallDigits := by
  revert digit
  decide

theorem toNat_div_lt (octet : UInt8) : octet.toNat / 16 < 16 := by
  have := UInt8.toNat_lt octet
  omega

theorem toNat_mod_lt (octet : UInt8) : octet.toNat % 16 < 16 :=
  Nat.mod_lt _ (by decide)

theorem mem_smallDigits_of_mem_encode {octets : Bytes} {digit : Char}
    (written : digit ∈ (encode octets).toList) : digit ∈ smallDigits := by
  rw [encode, String.toList_ofList, List.mem_flatMap] at written
  obtain ⟨octet, -, half⟩ := written
  simp only [pair, List.mem_cons, List.not_mem_nil, or_false] at half
  rcases half with rfl | rfl
  · exact digitChar_mem_smallDigits (toNat_div_lt octet)
  · exact digitChar_mem_smallDigits (toNat_mod_lt octet)

theorem length_toList_encode (octets : Bytes) :
    (encode octets).toList.length = 2 * octets.length := by
  rw [encode, String.toList_ofList]
  induction octets with
  | nil => rfl
  | cons octet rest ih =>
    rw [List.flatMap_cons, List.length_append, ih, List.length_cons, pair]
    simp only [List.length_cons, List.length_nil]
    omega

/-! ## What is read -/

/-- The digits that are read: those that are written, and capital letters. -/
def digits : List Char :=
  smallDigits ++ ['A', 'B', 'C', 'D', 'E', 'F']

/-- The characters are the digits of the octets, with letters in either case. -/
def Spells (characters : List Char) (octets : Bytes) : Prop :=
  characters.map Char.toLower = octets.flatMap pair

theorem toLower_of_beyond {character : Char} (beyond : 0x80 ≤ character.toNat) :
    character.toLower = character := by
  refine dif_neg fun capital => ?_
  have small : character.toNat ≤ 'Z'.toNat := UInt32.le_iff_toNat_le.1 capital.2
  exact absurd (Nat.le_trans beyond small) (by decide)

theorem mem_digits_iff {character : Char} :
    character ∈ digits ↔ character.toLower ∈ smallDigits := by
  by_cases ascii : character.toNat < 0x80
  · have known : ∀ number < 0x80,
        (Char.ofNat number ∈ digits ↔ (Char.ofNat number).toLower ∈ smallDigits) := by
      decide +kernel
    simpa only [Char.ofNat_toNat] using known character.toNat ascii
  · rw [toLower_of_beyond (Nat.le_of_not_lt ascii)]
    have bounded : ∀ digit ∈ digits, digit.toNat < 0x80 := forall_mem_of_all (by decide)
    refine iff_of_false (fun inside => ascii (bounded _ inside)) fun inside => ascii ?_
    exact bounded _ (List.mem_append_left _ inside)

/-- What is written for a digit is read as its value. -/
theorem value?_of_mem_digits {digit : Char} (inside : digit ∈ digits) :
    ∃ octet value, String.utf8EncodeChar digit = [octet] ∧ value? octet = some value ∧
      value < 16 ∧ digit.toLower = value.digitChar := by
  have known : ∀ digit ∈ digits, digit.toNat < 0x80 ∧
      ∃ value < 16, value? (UInt8.ofNat digit.toNat) = some value ∧
        digit.toLower = value.digitChar :=
    forall_mem_of_all (by decide)
  obtain ⟨ascii, value, small, read, lower⟩ := known digit inside
  exact ⟨_, value, Utf8.utf8EncodeChar_of_ascii ascii, read, small, lower⟩

/-- What is written for another character begins with an octet that is not read. -/
theorem value?_of_not_mem_digits {character : Char} (outside : character ∉ digits) :
    ∃ octet more, String.utf8EncodeChar character = octet :: more ∧ value? octet = none := by
  by_cases ascii : character.toNat < 0x80
  · refine ⟨_, [], Utf8.utf8EncodeChar_of_ascii ascii, ?_⟩
    have known : ∀ number < 0x80, Char.ofNat number ∉ digits →
        value? (UInt8.ofNat number) = none := by
      decide +kernel
    refine known character.toNat ascii ?_
    rwa [Char.ofNat_toNat]
  · cases written : String.utf8EncodeChar character with
    | nil => exact absurd written String.utf8EncodeChar_ne_nil
    | cons octet more =>
      have large : 0x80 ≤ octet.toNat :=
        Utf8.le_of_mem_utf8EncodeChar (Nat.le_of_not_lt ascii) (written ▸ List.mem_cons_self)
      have known : ∀ number < 0x100, 0x80 ≤ number → value? (UInt8.ofNat number) = none := by
        decide +kernel
      have unread := known octet.toNat octet.toNat_lt large
      rw [UInt8.ofNat_toNat] at unread
      exact ⟨octet, more, rfl, unread⟩

theorem Spells.mem_digits {characters : List Char} {octets : Bytes}
    (spells : Spells characters octets) : ∀ character ∈ characters, character ∈ digits := by
  intro character inside
  have written : character.toLower ∈ (encode octets).toList := by
    rw [encode, String.toList_ofList, ← spells]
    exact List.mem_map_of_mem inside
  exact mem_digits_iff.2 (mem_smallDigits_of_mem_encode written)

theorem Spells.length {characters : List Char} {octets : Bytes}
    (spells : Spells characters octets) : characters.length = 2 * octets.length := by
  rw [← length_toList_encode, encode, String.toList_ofList, ← spells, List.length_map]

theorem spells_nil_iff {octets : Bytes} : Spells [] octets ↔ octets = [] := by
  constructor
  · intro spells
    have empty : 0 = 2 * octets.length := spells.length
    exact List.eq_nil_of_length_eq_zero (by omega)
  · intro empty
    rw [empty]
    rfl

theorem not_spells_singleton (character : Char) (octets : Bytes) :
    ¬ Spells [character] octets := by
  intro spells
  have odd : 1 = 2 * octets.length := spells.length
  omega

theorem spells_cons_cons_iff {first second : Char} {rest : List Char} {octets : Bytes} :
    Spells (first :: second :: rest) octets ↔
      ∃ octet more, octets = octet :: more ∧ pair octet = [first.toLower, second.toLower] ∧
        Spells rest more := by
  cases octets with
  | nil =>
    refine iff_of_false (fun spells => ?_) fun some => ?_
    · cases spells
    · obtain ⟨_, _, same, _⟩ := some
      cases same
  | cons octet more =>
    constructor
    · intro spells
      have same : [first.toLower, second.toLower] ++ rest.map Char.toLower =
          pair octet ++ more.flatMap pair := spells
      obtain ⟨front, back⟩ := List.append_inj same rfl
      exact ⟨octet, more, rfl, front.symm, back⟩
    · rintro ⟨_, _, ⟨⟩, front, back⟩
      show [first.toLower, second.toLower] ++ rest.map Char.toLower =
        pair octet ++ more.flatMap pair
      rw [front, back]

theorem digitChar_inj : ∀ left < 16, ∀ right < 16, Nat.digitChar left = Nat.digitChar right →
    left = right := by
  decide

theorem pair_eq_iff {octet : UInt8} {upper lower : Nat} (high : upper < 16) (low : lower < 16) :
    pair octet = [upper.digitChar, lower.digitChar] ↔
      octet = UInt8.ofNat (upper * 16 + lower) := by
  constructor
  · intro same
    obtain ⟨first, rest⟩ := List.cons.inj same
    have second := (List.cons.inj rest).1
    have upperPart := digitChar_inj _ (toNat_div_lt octet) _ high first
    have lowerPart := digitChar_inj _ (toNat_mod_lt octet) _ low second
    rw [← upperPart, ← lowerPart, Nat.div_add_mod', UInt8.ofNat_toNat]
  · intro same
    have joined : octet.toNat = upper * 16 + lower := by
      rw [same]
      exact UInt8.toNat_ofNat_of_lt' (show upper * 16 + lower < 256 by omega)
    rw [pair, joined, show (upper * 16 + lower) / 16 = upper by omega,
      show (upper * 16 + lower) % 16 = lower by omega]

theorem decodeFrom_singleton_ne_ok (position : Nat) (done : Bytes) (character : Char)
    (octets : Bytes) :
    decodeFrom position done (String.utf8EncodeChar character) ≠ .ok octets := by
  intro read
  by_cases inside : character ∈ digits
  · obtain ⟨octet, value, written, -⟩ := value?_of_mem_digits inside
    rw [written] at read
    cases read
  · obtain ⟨octet, more, written, unread⟩ := value?_of_not_mem_digits inside
    rw [written] at read
    cases more <;> simp [decodeFrom, unread] at read

theorem decodeFrom_pair_ne_ok (position : Nat) (done : Bytes) {first second : Char}
    (outside : first ∉ digits ∨ second ∉ digits) (rest octets : Bytes) :
    decodeFrom position done
      (String.utf8EncodeChar first ++ (String.utf8EncodeChar second ++ rest)) ≠ .ok octets := by
  by_cases firstDigit : first ∈ digits
  · obtain ⟨high, upper, highWritten, highRead, -⟩ := value?_of_mem_digits firstDigit
    obtain ⟨low, more, lowWritten, lowRead⟩ :=
      value?_of_not_mem_digits (outside.resolve_left (not_not_intro firstDigit))
    simp [highWritten, lowWritten, decodeFrom, highRead, lowRead]
  · obtain ⟨high, more, highWritten, highRead⟩ := value?_of_not_mem_digits firstDigit
    -- the octet beside it comes from the same character or from the next one
    cases more with
    | cons other more => simp [highWritten, decodeFrom, highRead]
    | nil =>
      cases next : String.utf8EncodeChar second with
      | nil => exact absurd next String.utf8EncodeChar_ne_nil
      | cons other more => simp [highWritten, decodeFrom, highRead]

theorem decodeFrom_eq_ok_iff {position : Nat} {done : Bytes} {characters : List Char}
    {octets : Bytes} :
    decodeFrom position done (characters.flatMap String.utf8EncodeChar) = .ok octets ↔
      ∃ read, done.reverse ++ read = octets ∧ Spells characters read := by
  induction characters using List.twoStepInduction generalizing position done with
  | nil =>
    simp only [List.flatMap_nil, decodeFrom, Except.ok.injEq, spells_nil_iff, exists_eq_right,
      List.append_nil]
  | singleton character =>
    rw [List.flatMap_singleton]
    refine iff_of_false (decodeFrom_singleton_ne_ok position done character octets) ?_
    rintro ⟨read, -, spells⟩
    exact not_spells_singleton character read spells
  | cons_cons first second rest ih _ =>
    rw [List.flatMap_cons, List.flatMap_cons]
    by_cases both : first ∈ digits ∧ second ∈ digits
    · obtain ⟨high, upper, highWritten, highRead, upperSmall, upperLower⟩ :=
        value?_of_mem_digits both.1
      obtain ⟨low, lower, lowWritten, lowRead, lowerSmall, lowerLower⟩ :=
        value?_of_mem_digits both.2
      simp only [highWritten, lowWritten, List.singleton_append, decodeFrom, highRead, lowRead, ih,
        spells_cons_cons_iff, upperLower, lowerLower, pair_eq_iff upperSmall lowerSmall,
        List.reverse_cons, List.append_assoc]
      constructor
      · rintro ⟨more, same, spells⟩
        exact ⟨_, same, _, _, rfl, rfl, spells⟩
      · rintro ⟨_, same, _, more, rfl, rfl, spells⟩
        exact ⟨more, same, spells⟩
    · refine iff_of_false (decodeFrom_pair_ne_ok position done (not_and_or.1 both) _ octets) ?_
      rintro ⟨read, -, spells⟩
      exact both ⟨spells.mem_digits _ (by simp), spells.mem_digits _ (by simp)⟩

/-- Octets are read from the texts that spell them, and from no others. -/
theorem decode_eq_ok_iff {text : String} {octets : Bytes} :
    decode text = .ok octets ↔ Spells text.toList octets := by
  have read := @decodeFrom_eq_ok_iff 0 [] text.toList octets
  simp only [List.reverse_nil, List.nil_append, exists_eq_left] at read
  rw [decode, Utf8.encode]
  split
  · next odd =>
    have single (spells : Spells text.toList octets) :
        ∀ digit ∈ text.toList, (String.utf8EncodeChar digit).length = 1 := by
      intro digit inside
      obtain ⟨octet, -, written, -⟩ := value?_of_mem_digits (spells.mem_digits digit inside)
      rw [written]
      rfl
    refine iff_of_false (by simp) fun spells => ?_
    have length : (text.toList.flatMap String.utf8EncodeChar).length = 2 * octets.length := by
      rw [← spells.length, List.length_flatMap, List.map_congr_left (single spells),
        List.map_const', List.sum_replicate_nat, Nat.mul_one]
    rw [beq_iff_eq, length] at odd
    omega
  · exact read

/-- Digits in either case, in an even number. -/
def Paired (characters : List Char) : Prop :=
  characters.length % 2 = 0 ∧ ∀ character ∈ characters, character ∈ digits

theorem exists_spells_iff {characters : List Char} :
    (∃ octets, Spells characters octets) ↔ Paired characters := by
  constructor
  · intro ⟨octets, spells⟩
    refine ⟨?_, spells.mem_digits⟩
    rw [spells.length, Nat.mul_mod_right]
  · intro ⟨even, all⟩
    induction characters using List.twoStepInduction with
    | nil => exact ⟨[], rfl⟩
    | singleton character => cases even
    | cons_cons first second rest ih _ =>
      rw [List.length_cons, List.length_cons, Nat.add_assoc, Nat.add_mod_right] at even
      rw [List.forall_mem_cons, List.forall_mem_cons] at all
      obtain ⟨octets, spells⟩ := ih even all.2.2
      obtain ⟨_, upper, _, _, upperSmall, upperLower⟩ := value?_of_mem_digits all.1
      obtain ⟨_, lower, _, _, lowerSmall, lowerLower⟩ := value?_of_mem_digits all.2.1
      refine ⟨UInt8.ofNat (upper * 16 + lower) :: octets, spells_cons_cons_iff.2 ?_⟩
      rw [upperLower, lowerLower]
      exact ⟨_, _, rfl, (pair_eq_iff upperSmall lowerSmall).2 rfl, spells⟩

theorem spells_encode (octets : Bytes) : Spells (encode octets).toList octets := by
  have small : ∀ digit ∈ smallDigits, digit.toLower = digit := forall_mem_of_all (by decide)
  have kept : ∀ digit ∈ (encode octets).toList, digit.toLower = id digit := fun digit written =>
    small digit (mem_smallDigits_of_mem_encode written)
  rw [Spells, List.map_congr_left kept, List.map_id, encode, String.toList_ofList]

/-- Octets are read back from what they are written as. -/
@[simp]
theorem decode_encode (octets : Bytes) : decode (encode octets) = .ok octets :=
  decode_eq_ok_iff.2 (spells_encode octets)

theorem encode_inj {left right : Bytes} : encode left = encode right ↔ left = right := by
  refine ⟨fun same => ?_, congrArg encode⟩
  have read := decode_encode left
  rw [same, decode_encode] at read
  exact (Except.ok.inj read).symm

end RelayCheck.Text.Hex
