import RelayCheck.Text.Utf8

/-!
Texts come back from their octets.

The machine that decodes is followed through the octets of one character, for each of the four
lengths that a character can have. Whatever stands behind the character is kept, so the statement
passes along a whole text. The other way round, the machine comes through no other octets, since the
bounds that it keeps leave one way to write a character.
-/

set_option autoImplicit false

namespace RelayCheck.Text

/-- What holds of the characters of a list is seen by going through them. -/
theorem forall_mem_of_all {characters : List Char} {Holds : Char → Prop} [DecidablePred Holds]
    (all : characters.all fun character => decide (Holds character)) :
    ∀ character ∈ characters, Holds character :=
  fun character inside => of_decide_eq_true (List.all_eq_true.1 all character inside)

namespace Utf8

private theorem toNat_octet {value : Nat} (small : value < 256) :
    (UInt8.ofNat value).toNat = value :=
  UInt8.toNat_ofNat_of_lt' small

theorem decodeFrom_ascii (position : Nat) (done : List Char) (rest : Bytes) {value : Nat}
    (small : value < 0x80) :
    decodeFrom position done none (UInt8.ofNat value :: rest) =
      decodeFrom (position + 1) (Char.ofNat value :: done) none rest := by
  have below : UInt8.ofNat value < 0x80 := by
    rw [UInt8.lt_iff_toNat_lt, toNat_octet (by omega)]
    exact small
  rw [decodeFrom, if_pos below, toNat_octet (by omega)]

theorem decodeFrom_lead (position : Nat) (done : List Char) (rest : Bytes) {octet : UInt8}
    {pending : Pending} (large : 0x80 ≤ octet.toNat)
    (begun : Pending.ofLead position octet = some pending) :
    decodeFrom position done none (octet :: rest) =
      decodeFrom (position + 1) done (some pending) rest := by
  have above : ¬ octet < 0x80 := by
    rw [UInt8.lt_iff_toNat_lt]
    exact Nat.not_lt.2 large
  rw [decodeFrom, if_neg above, begun]

/-- A further octet of a character adds six bits, where the bounds allow it. -/
theorem decodeFrom_continue (position : Nat) (done : List Char) (rest : Bytes) (pending : Pending)
    {bits : Nat} (small : bits < 64) (low : pending.low.toNat ≤ bits + 0x80)
    (high : bits + 0x80 ≤ pending.high.toNat) :
    decodeFrom position done (some pending) (UInt8.ofNat (bits + 0x80) :: rest) =
      match pending.further with
      | 0 =>
        decodeFrom (position + 1) (Char.ofNat (pending.value * 64 + bits) :: done) none rest
      | further + 1 =>
        decodeFrom (position + 1) done
          (some ⟨pending.start, pending.value * 64 + bits, further, 0x80, 0xBF⟩) rest := by
  have octet : (UInt8.ofNat (bits + 0x80)).toNat = bits + 0x80 := toNat_octet (by omega)
  have within : (pending.low ≤ UInt8.ofNat (bits + 0x80) &&
      UInt8.ofNat (bits + 0x80) ≤ pending.high) = true := by
    simp only [Bool.and_eq_true, decide_eq_true_eq, UInt8.le_iff_toNat_le, octet]
    exact ⟨low, high⟩
  cases ahead : pending.further with
  | zero => simp only [decodeFrom, within, octet, ahead, Nat.add_sub_cancel, ↓reduceIte]
  | succ further => simp only [decodeFrom, within, octet, ahead, Nat.add_sub_cancel, ↓reduceIte]

theorem ofLead_two (start : Nat) {bits : Nat} (least : 2 ≤ bits) (greatest : bits < 32) :
    Pending.ofLead start (UInt8.ofNat (bits + 0xC0)) = some ⟨start, bits, 0, 0x80, 0xBF⟩ := by
  have octet : (UInt8.ofNat (bits + 0xC0)).toNat = bits + 0xC0 := toNat_octet (by omega)
  simp only [Pending.ofLead, UInt8.lt_iff_toNat_lt, octet, UInt8.reduceToNat]
  rw [if_neg (by omega), if_pos (by omega), Nat.add_sub_cancel]

/-- The bounds for the octet that follows leave out overlong forms and surrogates. -/
theorem ofLead_three (start : Nat) {bits : Nat} (greatest : bits < 16) :
    Pending.ofLead start (UInt8.ofNat (bits + 0xE0)) =
      some ⟨start, bits, 1, if bits = 0 then 0xA0 else 0x80, if bits = 13 then 0x9F else 0xBF⟩ := by
  have octet : (UInt8.ofNat (bits + 0xE0)).toNat = bits + 0xE0 := toNat_octet (by omega)
  simp only [Pending.ofLead, beq_iff_eq, UInt8.lt_iff_toNat_lt, ← UInt8.toNat_inj, octet,
    UInt8.reduceToNat, Nat.add_sub_cancel, Nat.add_eq_right]
  rw [if_neg (by omega), if_neg (by omega)]
  by_cases zero : bits = 0
  · simp [zero]
  · by_cases thirteen : bits = 13
    · simp [thirteen]
    · rw [if_neg (by omega), if_neg (by omega), if_pos (by omega), if_neg zero, if_neg thirteen]

/-- The bounds for the octet that follows leave out overlong forms and code points beyond the
last. -/
theorem ofLead_four (start : Nat) {bits : Nat} (greatest : bits < 5) :
    Pending.ofLead start (UInt8.ofNat (bits + 0xF0)) =
      some ⟨start, bits, 2, if bits = 0 then 0x90 else 0x80, if bits = 4 then 0x8F else 0xBF⟩ := by
  have octet : (UInt8.ofNat (bits + 0xF0)).toNat = bits + 0xF0 := toNat_octet (by omega)
  simp only [Pending.ofLead, beq_iff_eq, UInt8.lt_iff_toNat_lt, ← UInt8.toNat_inj, octet,
    UInt8.reduceToNat, Nat.add_sub_cancel, Nat.add_eq_right]
  rw [if_neg (by omega), if_neg (by omega), if_neg (by omega), if_neg (by omega),
    if_neg (by omega)]
  by_cases zero : bits = 0
  · simp [zero]
  · by_cases four : bits = 4
    · simp [four]
    · rw [if_neg zero, if_pos (by omega), if_neg zero, if_neg four]

/-- The octets of a character are read as that character, whatever follows them. -/
theorem decodeFrom_encodeChar (position : Nat) (done : List Char) (character : Char)
    (rest : Bytes) :
    decodeFrom position done none (String.utf8EncodeChar character ++ rest) =
      decodeFrom (position + (String.utf8EncodeChar character).length) (character :: done) none
        rest := by
  have whole : Char.ofNat character.val.toNat = character := Char.ofNat_toNat character
  have bound : character.val.toNat < 0xD800 ∨
      0xDFFF < character.val.toNat ∧ character.val.toNat < 0x110000 := character.valid
  have least : (0x80 : UInt8).toNat = 0x80 := rfl
  have greatest : (0xBF : UInt8).toNat = 0xBF := rfl
  fun_cases String.utf8EncodeChar character with
  | case1 value one =>
    simp only [List.cons_append, List.nil_append, List.length_cons, List.length_nil]
    rw [decodeFrom_ascii _ _ _ (by omega), whole]
  | case2 value more two =>
    have joined : value / 64 % 32 * 64 + value % 64 = value := by omega
    simp only [List.cons_append, List.nil_append, List.length_cons, List.length_nil]
    rw [decodeFrom_lead _ _ _ (by rw [toNat_octet (by omega)]; omega)
        (ofLead_two _ (by omega) (by omega)),
      decodeFrom_continue _ _ _ _ (by omega) (by simp only [least]; omega)
        (by simp only [greatest]; omega)]
    simp only [joined]
    rw [whole]
  | case3 value more others three =>
    have joined : (value / 4096 % 16 * 64 + value / 64 % 64) * 64 + value % 64 = value := by omega
    simp only [List.cons_append, List.nil_append, List.length_cons, List.length_nil]
    rw [decodeFrom_lead _ _ _ (by rw [toNat_octet (by omega)]; omega)
        (ofLead_three _ (by omega)),
      decodeFrom_continue _ _ _ _ (by omega)
        (by dsimp only; split <;> simp only [UInt8.reduceToNat] <;> omega)
        (by dsimp only; split <;> simp only [UInt8.reduceToNat] <;> omega)]
    simp only
    rw [decodeFrom_continue _ _ _ _ (by omega) (by simp only [least]; omega)
        (by simp only [greatest]; omega)]
    simp only [joined]
    rw [whole]
  | case4 value more others further =>
    have joined : ((value / 262144 % 8 * 64 + value / 4096 % 64) * 64 + value / 64 % 64) * 64
        + value % 64 = value := by omega
    simp only [List.cons_append, List.nil_append, List.length_cons, List.length_nil]
    rw [decodeFrom_lead _ _ _ (by rw [toNat_octet (by omega)]; omega)
        (ofLead_four _ (by omega)),
      decodeFrom_continue _ _ _ _ (by omega)
        (by dsimp only; split <;> simp only [UInt8.reduceToNat] <;> omega)
        (by dsimp only; split <;> simp only [UInt8.reduceToNat] <;> omega)]
    simp only
    rw [decodeFrom_continue _ _ _ _ (by omega) (by simp only [least]; omega)
        (by simp only [greatest]; omega)]
    simp only
    rw [decodeFrom_continue _ _ _ _ (by omega) (by simp only [least]; omega)
        (by simp only [greatest]; omega)]
    simp only [joined]
    rw [whole]

theorem decodeFrom_encodeChars (position : Nat) (done characters : List Char) :
    decodeFrom position done none (characters.flatMap String.utf8EncodeChar) =
      .ok (done.reverse ++ characters) := by
  induction characters generalizing position done with
  | nil => simp [decodeFrom]
  | cons character characters ih =>
    rw [List.flatMap_cons, decodeFrom_encodeChar, ih]
    simp

@[simp]
theorem decode_encode (text : String) : decode (encode text) = .ok text := by
  rw [decode, encode, decodeFrom_encodeChars]
  simp [Except.map]

theorem encode_inj {left right : String} : encode left = encode right ↔ left = right := by
  refine ⟨fun same => ?_, congrArg encode⟩
  have read := decode_encode left
  rw [same, decode_encode] at read
  exact (Except.ok.inj read).symm

@[simp]
theorem decode?_encode (text : String) : decode? (encode text) = some text := by
  simp [decode?, Except.toOption]

/-! ## Octets that are read -/

theorem toNat_ofNat_of_valid {value : Nat}
    (valid : value < 0xD800 ∨ 0xDFFF < value ∧ value < 0x110000) :
    (Char.ofNat value).val.toNat = value := by
  rw [Char.ofNat, dif_pos valid]
  rfl

theorem utf8EncodeChar_one {value : Nat} (small : value < 0x80) :
    String.utf8EncodeChar (Char.ofNat value) = [UInt8.ofNat value] := by
  rw [String.utf8EncodeChar, toNat_ofNat_of_valid (by omega), if_pos (by omega)]

theorem utf8EncodeChar_two {lead last : Nat} (least : 2 ≤ lead) (greatest : lead < 32)
    (lastBound : last < 64) :
    String.utf8EncodeChar (Char.ofNat (lead * 64 + last)) =
      [UInt8.ofNat (lead + 0xC0), UInt8.ofNat (last + 0x80)] := by
  have high : (lead * 64 + last) / 64 % 32 = lead := by omega
  have low : (lead * 64 + last) % 64 = last := by omega
  rw [String.utf8EncodeChar, toNat_ofNat_of_valid (by omega), if_neg (by omega), if_pos (by omega),
    high, low]

theorem utf8EncodeChar_three {lead middle last : Nat} (greatest : lead < 16)
    (middleBound : middle < 64) (lastBound : last < 64) (notOverlong : lead = 0 → 32 ≤ middle)
    (notSurrogate : lead = 13 → middle < 32) :
    String.utf8EncodeChar (Char.ofNat ((lead * 64 + middle) * 64 + last)) =
      [UInt8.ofNat (lead + 0xE0), UInt8.ofNat (middle + 0x80), UInt8.ofNat (last + 0x80)] := by
  have high : ((lead * 64 + middle) * 64 + last) / 4096 % 16 = lead := by omega
  have inner : ((lead * 64 + middle) * 64 + last) / 64 % 64 = middle := by omega
  have low : ((lead * 64 + middle) * 64 + last) % 64 = last := by omega
  rw [String.utf8EncodeChar, toNat_ofNat_of_valid (by omega), if_neg (by omega),
    if_neg (by omega), if_pos (by omega), high, inner, low]

theorem utf8EncodeChar_four {lead second third last : Nat} (greatest : lead < 5)
    (secondBound : second < 64) (thirdBound : third < 64) (lastBound : last < 64)
    (notOverlong : lead = 0 → 16 ≤ second) (notBeyond : lead = 4 → second < 16) :
    String.utf8EncodeChar (Char.ofNat (((lead * 64 + second) * 64 + third) * 64 + last)) =
      [UInt8.ofNat (lead + 0xF0), UInt8.ofNat (second + 0x80), UInt8.ofNat (third + 0x80),
        UInt8.ofNat (last + 0x80)] := by
  have high : (((lead * 64 + second) * 64 + third) * 64 + last) / 262144 % 8 = lead := by omega
  have upper : (((lead * 64 + second) * 64 + third) * 64 + last) / 4096 % 64 = second := by omega
  have lower : (((lead * 64 + second) * 64 + third) * 64 + last) / 64 % 64 = third := by omega
  have low : (((lead * 64 + second) * 64 + third) * 64 + last) % 64 = last := by omega
  rw [String.utf8EncodeChar, toNat_ofNat_of_valid (by omega), if_neg (by omega),
    if_neg (by omega), if_neg (by omega), high, upper, lower, low]

theorem utf8EncodeChar_of_ascii {character : Char} (ascii : character.toNat < 0x80) :
    String.utf8EncodeChar character = [UInt8.ofNat character.toNat] := by
  have same := utf8EncodeChar_one ascii
  rwa [Char.ofNat_toNat] at same

/-- Characters beyond ASCII are written without the octets of ASCII. -/
theorem le_of_mem_utf8EncodeChar {character : Char} {octet : UInt8}
    (beyond : 0x80 ≤ character.toNat) (inside : octet ∈ String.utf8EncodeChar character) :
    0x80 ≤ octet.toNat := by
  have large : ¬ character.val.toNat ≤ 0x7F := Nat.not_le.2 beyond
  have part : ∃ low < 0x80, octet = UInt8.ofNat (low + 0x80) := by
    simp only [String.utf8EncodeChar, if_neg large] at inside
    split at inside
    · simp only [List.mem_cons, List.not_mem_nil, or_false] at inside
      rcases inside with rfl | rfl
      · exact ⟨_ + 0x40, by omega, rfl⟩
      · exact ⟨_, by omega, rfl⟩
    · split at inside
      · simp only [List.mem_cons, List.not_mem_nil, or_false] at inside
        rcases inside with rfl | rfl | rfl
        · exact ⟨_ + 0x60, by omega, rfl⟩
        · exact ⟨_, by omega, rfl⟩
        · exact ⟨_, by omega, rfl⟩
      · simp only [List.mem_cons, List.not_mem_nil, or_false] at inside
        rcases inside with rfl | rfl | rfl | rfl
        · exact ⟨_ + 0x70, by omega, rfl⟩
        · exact ⟨_, by omega, rfl⟩
        · exact ⟨_, by omega, rfl⟩
        · exact ⟨_, by omega, rfl⟩
  obtain ⟨low, small, rfl⟩ := part
  rw [toNat_octet (by omega)]
  exact Nat.le_add_left _ _

theorem lead_of_ofLead {start : Nat} {octet : UInt8} {pending : Pending}
    (begun : Pending.ofLead start octet = some pending) :
    (∃ bits, 2 ≤ bits ∧ bits < 32 ∧ octet = UInt8.ofNat (bits + 0xC0)) ∨
      (∃ bits, bits < 16 ∧ octet = UInt8.ofNat (bits + 0xE0)) ∨
        ∃ bits, bits < 5 ∧ octet = UInt8.ofNat (bits + 0xF0) := by
  have written : ∀ base, base ≤ octet.toNat → octet = UInt8.ofNat (octet.toNat - base + base) := by
    intro base bound
    rw [Nat.sub_add_cancel bound, UInt8.ofNat_toNat]
  simp only [Pending.ofLead, beq_iff_eq, UInt8.lt_iff_toNat_lt, ← UInt8.toNat_inj,
    UInt8.reduceToNat] at begun
  by_cases two : octet.toNat < 0xE0
  · have large : 0xC2 ≤ octet.toNat := by
      refine Nat.le_of_not_lt fun small => ?_
      rw [if_pos small] at begun
      cases begun
    exact .inl ⟨octet.toNat - 0xC0, by omega, by omega, written 0xC0 (by omega)⟩
  · by_cases three : octet.toNat < 0xF0
    · exact .inr (.inl ⟨octet.toNat - 0xE0, by omega, written 0xE0 (by omega)⟩)
    · have small : octet.toNat < 0xF5 := by
        refine Nat.lt_of_not_le fun large => ?_
        rw [if_neg (by omega), if_neg (by omega), if_neg (by omega), if_neg (by omega),
          if_neg (by omega), if_neg (by omega), if_neg (by omega), if_neg (by omega)] at begun
        cases begun
      exact .inr (.inr ⟨octet.toNat - 0xF0, by omega, written 0xF0 (by omega)⟩)

/-- In the middle of a character only an octet within the bounds is read, and it adds six bits. -/
theorem last_of_decodeFrom {position start value further : Nat} {low high : UInt8}
    {done characters : List Char} {octets : Bytes} (least : 0x80 ≤ low.toNat)
    (greatest : high.toNat ≤ 0xBF)
    (read : decodeFrom position done (some ⟨start, value, further, low, high⟩) octets =
      .ok characters) :
    ∃ bits rest, octets = UInt8.ofNat (bits + 0x80) :: rest ∧ bits < 64 ∧
      low.toNat ≤ bits + 0x80 ∧ bits + 0x80 ≤ high.toNat := by
  cases octets with
  | nil => cases read
  | cons octet rest =>
    rw [decodeFrom] at read
    split at read
    · next within =>
      simp only [Bool.and_eq_true, decide_eq_true_eq, UInt8.le_iff_toNat_le] at within
      refine ⟨octet.toNat - 0x80, rest, ?_, by omega, by omega, by omega⟩
      rw [Nat.sub_add_cancel (by omega), UInt8.ofNat_toNat]
    · cases read

theorem further_of_decodeFrom {position start value further : Nat} {low high : UInt8}
    {done characters : List Char} {octets : Bytes} (least : 0x80 ≤ low.toNat)
    (greatest : high.toNat ≤ 0xBF)
    (read : decodeFrom position done (some ⟨start, value, further + 1, low, high⟩) octets =
      .ok characters) :
    ∃ bits rest, octets = UInt8.ofNat (bits + 0x80) :: rest ∧ bits < 64 ∧
      low.toNat ≤ bits + 0x80 ∧ bits + 0x80 ≤ high.toNat ∧
      decodeFrom (position + 1) done (some ⟨start, value * 64 + bits, further, 0x80, 0xBF⟩) rest =
        .ok characters := by
  obtain ⟨bits, rest, rfl, bound, above, below⟩ := last_of_decodeFrom least greatest read
  rw [decodeFrom_continue _ _ _ _ bound above below] at read
  exact ⟨bits, rest, rfl, bound, above, below, read⟩

/-- What is read begins with the octets of a character. -/
theorem exists_char_of_decodeFrom {position : Nat} {done characters : List Char} {octet : UInt8}
    {rest : Bytes} (read : decodeFrom position done none (octet :: rest) = .ok characters) :
    ∃ character later, octet :: rest = String.utf8EncodeChar character ++ later := by
  rw [decodeFrom] at read
  split at read
  · next ascii =>
    rw [UInt8.lt_iff_toNat_lt] at ascii
    refine ⟨Char.ofNat octet.toNat, rest, ?_⟩
    rw [utf8EncodeChar_one ascii, UInt8.ofNat_toNat, List.singleton_append]
  · split at read
    · cases read
    · next pending begun =>
      -- the octet that leads says how many others there are
      rcases lead_of_ofLead begun with two | three | four
      · obtain ⟨lead, least, greatest, rfl⟩ := two
        obtain rfl := Option.some.inj (begun.symm.trans (ofLead_two _ least greatest))
        obtain ⟨last, later, rfl, bound, -, -⟩ :=
          last_of_decodeFrom (Nat.le_refl _) (Nat.le_refl _) read
        refine ⟨Char.ofNat (lead * 64 + last), later, ?_⟩
        rw [utf8EncodeChar_two least greatest bound]
        rfl
      · obtain ⟨lead, greatest, rfl⟩ := three
        obtain rfl := Option.some.inj (begun.symm.trans (ofLead_three _ greatest))
        obtain ⟨middle, others, rfl, bound, least, most, read⟩ := further_of_decodeFrom
          (by split <;> decide) (by split <;> decide) read
        obtain ⟨last, later, rfl, lastBound, -, -⟩ :=
          last_of_decodeFrom (Nat.le_refl _) (Nat.le_refl _) read
        refine ⟨Char.ofNat ((lead * 64 + middle) * 64 + last), later, ?_⟩
        rw [utf8EncodeChar_three greatest bound lastBound]
        · rfl
        · intro zero
          simp only [if_pos zero, UInt8.reduceToNat] at least
          omega
        · intro thirteen
          simp only [if_pos thirteen, UInt8.reduceToNat] at most
          omega
      · obtain ⟨lead, greatest, rfl⟩ := four
        obtain rfl := Option.some.inj (begun.symm.trans (ofLead_four _ greatest))
        obtain ⟨second, others, rfl, bound, least, most, read⟩ := further_of_decodeFrom
          (by split <;> decide) (by split <;> decide) read
        obtain ⟨third, others, rfl, thirdBound, -, -, read⟩ :=
          further_of_decodeFrom (Nat.le_refl _) (Nat.le_refl _) read
        obtain ⟨last, later, rfl, lastBound, -, -⟩ :=
          last_of_decodeFrom (Nat.le_refl _) (Nat.le_refl _) read
        refine ⟨Char.ofNat (((lead * 64 + second) * 64 + third) * 64 + last), later, ?_⟩
        rw [utf8EncodeChar_four greatest bound thirdBound lastBound]
        · rfl
        · intro zero
          simp only [if_pos zero, UInt8.reduceToNat] at least
          omega
        · intro four
          simp only [if_pos four, UInt8.reduceToNat] at most
          omega

theorem exists_chars_of_decodeFrom {position : Nat} {done characters : List Char} {octets : Bytes}
    (read : decodeFrom position done none octets = .ok characters) :
    ∃ others, octets = others.flatMap String.utf8EncodeChar ∧
      characters = done.reverse ++ others := by
  match octets with
  | [] =>
    cases read
    exact ⟨[], rfl, (List.append_nil _).symm⟩
  | octet :: rest =>
    obtain ⟨character, later, split⟩ := exists_char_of_decodeFrom read
    have shorter : later.length < (octet :: rest).length := by
      have long := List.length_pos_iff.2 (@String.utf8EncodeChar_ne_nil character)
      rw [split, List.length_append]
      omega
    rw [split, decodeFrom_encodeChar] at read
    obtain ⟨others, rfl, rfl⟩ := exists_chars_of_decodeFrom read
    exact ⟨character :: others, split, by simp⟩
termination_by octets.length
decreasing_by exact shorter

/-- The octets that are read as a text are the octets of that text and no others. -/
theorem decode?_eq_some_iff {octets : Bytes} {text : String} :
    decode? octets = some text ↔ octets = encode text := by
  constructor
  · intro read
    cases found : decodeFrom 0 [] none octets with
    | error why => simp [decode?, decode, found, Except.map, Except.toOption] at read
    | ok characters =>
      obtain ⟨others, rfl, rfl⟩ := exists_chars_of_decodeFrom found
      simp only [decode?, decode, found, Except.map, Except.toOption, Option.some.injEq] at read
      rw [← read, encode]
      simp
  · intro same
    rw [same]
    exact decode?_encode text

theorem exists_fault_iff {octets : Bytes} :
    (∃ fault, decode octets = .error fault) ↔ ∀ text, octets ≠ encode text := by
  constructor
  · intro ⟨fault, failed⟩ text same
    rw [same, decode_encode] at failed
    cases failed
  · intro garbled
    cases decoded : decode octets with
    | error fault => exact ⟨fault, rfl⟩
    | ok text =>
      refine absurd (decode?_eq_some_iff.1 ?_) (garbled text)
      rw [decode?, decoded]
      rfl

end Utf8

end RelayCheck.Text
