import RelayCheck.Json.Numeral

/-!
Numbers as they are written.

The grammar of a number is told without the scanner: digits without a zero in front, and a point
with digits and an exponent after them if there are any. The scanner takes just what is written,
and whole numbers come back from their decimal digits.
-/

set_option autoImplicit false

namespace RelayCheck.Json

namespace Numeral

/-! ## What is written -/

/-- One or more digits. -/
def Digits (digits : List Char) : Prop :=
  digits ≠ [] ∧ ∀ digit ∈ digits, digit.isDigit

inductive FractionWritten : List Char → List Char → Prop
  | absent : FractionWritten [] []
  | present {digits : List Char} (isDigits : Digits digits) : FractionWritten digits ('.' :: digits)

inductive SignWritten : Bool → List Char → Prop
  | absent : SignWritten false []
  | plus : SignWritten false ['+']
  | minus : SignWritten true ['-']

inductive ExponentWritten : Option Exponent → List Char → Prop
  | absent : ExponentWritten none []
  | present {mark : Char} {negative : Bool} {sign digits : List Char}
      (marks : mark = 'e' ∨ mark = 'E') (signed : SignWritten negative sign)
      (isDigits : Digits digits) :
      ExponentWritten (some ⟨negative, digits⟩) (mark :: (sign ++ digits))

/-- The numeral may be written as these characters. -/
inductive Written : Numeral → List Char → Prop
  | intro {negative : Bool} {whole fraction fractionText exponentText : List Char}
      {exponent : Option Exponent} (isDigits : Digits whole)
      (unpadded : whole.head? = some '0' → whole.tail = [])
      (fractional : FractionWritten fraction fractionText)
      (scaled : ExponentWritten exponent exponentText) :
      Written ⟨negative, whole, fraction, exponent⟩
        ((if negative then ['-'] else []) ++ (whole ++ (fractionText ++ exponentText)))

/-- What follows cannot be taken for a part of a whole number. -/
def Stops (rest : List Char) : Prop :=
  ∀ character ∈ rest.head?,
    character.isDigit = false ∧ character ≠ '.' ∧ character ≠ 'e' ∧ character ≠ 'E'

theorem stops_nil : Stops [] := by
  simp [Stops]

theorem stops_cons {character : Char} (rest : List Char)
    (other : character.isDigit = false ∧ character ≠ '.' ∧ character ≠ 'e' ∧ character ≠ 'E') :
    Stops (character :: rest) := by
  simpa [Stops] using other

/-! ## Scanning what is written -/

/-- No digit follows. -/
def Undigited (rest : List Char) : Prop :=
  ∀ character ∈ rest.head?, character.isDigit = false

theorem Stops.undigited {rest : List Char} (stops : Stops rest) : Undigited rest :=
  fun character first => (stops character first).1

theorem scanDigits_append {digits rest : List Char} (isDigits : Digits digits)
    (ends : Undigited rest) : scanDigits (digits ++ rest) = .ok (digits, rest) := by
  obtain ⟨nonempty, all⟩ := isDigits
  have taken : rest.takeWhile Char.isDigit = [] := by
    cases rest with
    | nil => rfl
    | cons character rest => simp [ends character rfl]
  have kept : rest.dropWhile Char.isDigit = rest := by
    cases rest with
    | nil => rfl
    | cons character rest => simp [ends character rfl]
  simp only [scanDigits, List.takeWhile_append_of_pos all, List.dropWhile_append_of_pos all, taken,
    kept, List.append_nil, List.isEmpty_iff, nonempty, ↓reduceIte]

theorem scanWhole_append {whole rest : List Char} (isDigits : Digits whole)
    (unpadded : whole.head? = some '0' → whole.tail = []) (ends : Undigited rest) :
    scanWhole (whole ++ rest) = .ok (whole, rest) := by
  have padding : (whole.head? == some '0' && whole.tail.length != 0) = false := by
    by_cases zero : whole.head? = some '0'
    · simp [unpadded zero]
    · simp [zero]
  rw [scanWhole, scanDigits_append isDigits ends]
  simp only [bind, Except.bind, padding]
  rfl

theorem undigited_exponent {exponent : Option Exponent} {exponentText rest : List Char}
    (scaled : ExponentWritten exponent exponentText) (stops : Stops rest) :
    Undigited (exponentText ++ rest) ∧ ∀ after, exponentText ++ rest ≠ '.' :: after := by
  cases scaled with
  | absent =>
    refine ⟨stops.undigited, ?_⟩
    rintro after rfl
    exact (stops '.' rfl).2.1 rfl
  | present marks signed isDigits =>
    obtain rfl | rfl := marks <;> exact ⟨by simp [Undigited], by simp⟩

theorem scanFraction_append {fraction fractionText rest : List Char}
    (fractional : FractionWritten fraction fractionText) (ends : Undigited rest)
    (pointless : ∀ after, rest ≠ '.' :: after) :
    scanFraction (fractionText ++ rest) = .ok (fraction, rest) := by
  cases fractional with
  | absent => simp only [List.nil_append, scanFraction]
  | present isDigits => exact scanDigits_append isDigits ends

theorem undigited_fraction {fraction fractionText rest : List Char}
    (fractional : FractionWritten fraction fractionText) (ends : Undigited rest) :
    Undigited (fractionText ++ rest) := by
  cases fractional with
  | absent => exact ends
  | present isDigits => simp [Undigited]

theorem scanSign_append {negative : Bool} {sign digits : List Char}
    (signed : SignWritten negative sign) (isDigits : Digits digits) (rest : List Char) :
    scanSign (sign ++ (digits ++ rest)) = (negative, digits ++ rest) := by
  cases signed with
  | plus => rfl
  | minus => rfl
  | absent =>
    obtain ⟨nonempty, all⟩ := isDigits
    cases digits with
    | nil => exact absurd rfl nonempty
    | cons digit digits =>
      have isDigit := all digit List.mem_cons_self
      simp only [List.nil_append, List.cons_append]
      unfold scanSign
      split
      · next same => rw [(List.cons.inj same).1] at isDigit; exact absurd isDigit (by decide)
      · next same => rw [(List.cons.inj same).1] at isDigit; exact absurd isDigit (by decide)
      · rfl

theorem scanExponent_append {exponent : Option Exponent} {exponentText rest : List Char}
    (scaled : ExponentWritten exponent exponentText) (stops : Stops rest) :
    scanExponent (exponentText ++ rest) = .ok (exponent, rest) := by
  cases scaled with
  | absent =>
    cases rest with
    | nil => rfl
    | cons character rest =>
      obtain ⟨-, -, lower, upper⟩ := stops character rfl
      simp [scanExponent, lower, upper]
  | @present mark negative sign digits marks signed isDigits =>
    have marked : (mark == 'e' || mark == 'E') = true := by
      simpa using marks
    simp only [List.cons_append, List.append_assoc, scanExponent, marked, ↓reduceIte,
      scanSign_append signed isDigits, scanDigits_append isDigits stops.undigited]
    rfl

/-- What is written for a numeral is scanned as it, up to what follows. -/
theorem scan_append {numeral : Numeral} {characters rest : List Char}
    (written : numeral.Written characters) (stops : Stops rest) :
    scan (characters ++ rest) = .ok (numeral, rest) := by
  obtain @⟨negative, whole, fraction, fractionText, exponentText, exponent, isDigits, unpadded,
    fractional, scaled⟩ := written
  obtain ⟨ends, pointless⟩ := undigited_exponent scaled stops
  have unsigned : ∀ negative,
      scanUnsigned negative (whole ++ (fractionText ++ (exponentText ++ rest))) =
        .ok (⟨negative, whole, fraction, exponent⟩, rest) := by
    intro negative
    have scanned := scanWhole_append isDigits unpadded (undigited_fraction fractional ends)
    simp only [scanUnsigned, scanned, scanFraction_append fractional ends pointless,
      scanExponent_append scaled stops, bind,
      Except.bind, pure, Except.pure]
  cases negative with
  | true =>
    simp only [↓reduceIte, List.append_assoc, List.cons_append, List.nil_append]
    exact unsigned true
  | false =>
    obtain ⟨nonempty, all⟩ := isDigits
    cases whole with
    | nil => exact absurd rfl nonempty
    | cons digit whole =>
      have isDigit := all digit List.mem_cons_self
      simp only [Bool.false_eq_true, ↓reduceIte, List.append_assoc, List.nil_append,
        List.cons_append] at unsigned ⊢
      unfold scan
      split
      · next same => rw [(List.cons.inj same).1] at isDigit; exact absurd isDigit (by decide)
      · exact unsigned false

/-! ## Nothing else is scanned -/

theorem digits_of_scanDigits {characters digits rest : List Char}
    (scanned : scanDigits characters = .ok (digits, rest)) :
    characters = digits ++ rest ∧ Digits digits := by
  unfold scanDigits at scanned
  simp only at scanned
  split at scanned
  · cases scanned
  · next nonempty =>
    cases scanned
    refine ⟨List.takeWhile_append_dropWhile.symm, mt List.isEmpty_iff.2 nonempty, ?_⟩
    exact List.all_eq_true.1 List.all_takeWhile

theorem digits_of_scanWhole {characters whole rest : List Char}
    (scanned : scanWhole characters = .ok (whole, rest)) :
    characters = whole ++ rest ∧ Digits whole ∧ (whole.head? = some '0' → whole.tail = []) := by
  unfold scanWhole at scanned
  cases found : scanDigits characters with
  | error why => simp [found, bind, Except.bind] at scanned
  | ok parts =>
    simp only [found, bind, Except.bind] at scanned
    split at scanned
    · cases scanned
    · next unpadded =>
      cases scanned
      obtain ⟨same, isDigits⟩ := digits_of_scanDigits found
      exact ⟨same, isDigits,
        fun zero => List.eq_nil_of_length_eq_zero (by simpa [zero] using unpadded)⟩

theorem written_of_scanFraction {characters fraction rest : List Char}
    (scanned : scanFraction characters = .ok (fraction, rest)) :
    ∃ text, characters = text ++ rest ∧ FractionWritten fraction text := by
  unfold scanFraction at scanned
  split at scanned
  · obtain ⟨rfl, isDigits⟩ := digits_of_scanDigits scanned
    exact ⟨_, rfl, .present isDigits⟩
  · cases scanned
    exact ⟨[], rfl, .absent⟩

theorem written_of_scanSign (characters : List Char) :
    ∃ text, characters = text ++ (scanSign characters).2 ∧
      SignWritten (scanSign characters).1 text := by
  unfold scanSign
  split
  · exact ⟨['+'], rfl, .plus⟩
  · exact ⟨['-'], rfl, .minus⟩
  · exact ⟨[], rfl, .absent⟩

theorem written_of_scanExponent {characters rest : List Char} {exponent : Option Exponent}
    (scanned : scanExponent characters = .ok (exponent, rest)) :
    ∃ text, characters = text ++ rest ∧ ExponentWritten exponent text := by
  unfold scanExponent at scanned
  split at scanned
  · cases scanned
    exact ⟨[], rfl, .absent⟩
  · next mark unmarked =>
    split at scanned
    · next marks =>
      obtain ⟨sign, signSame, signed⟩ := written_of_scanSign unmarked
      cases found : scanDigits (scanSign unmarked).2 with
      | error why => simp [found, bind, Except.bind] at scanned
      | ok parts =>
        simp only [found, bind, Except.bind, pure, Except.pure] at scanned
        cases scanned
        obtain ⟨same, isDigits⟩ := digits_of_scanDigits found
        refine ⟨mark :: (sign ++ parts.1), ?_, .present (by simpa using marks) signed isDigits⟩
        rw [List.cons_append, List.append_assoc, ← same, ← signSame]
    · cases scanned
      exact ⟨[], rfl, .absent⟩

theorem written_of_scan {numeral : Numeral} {characters rest : List Char}
    (scanned : scan characters = .ok (numeral, rest)) :
    ∃ text, characters = text ++ rest ∧ numeral.Written text := by
  have unsigned : ∀ negative digits, scanUnsigned negative digits = .ok (numeral, rest) →
      ∃ text, digits = text ++ rest ∧
        numeral.Written ((if negative then ['-'] else []) ++ text) := by
    intro negative digits scanned
    unfold scanUnsigned at scanned
    cases whole : scanWhole digits with
    | error why => simp [whole, bind, Except.bind] at scanned
    | ok wholeParts =>
      cases fraction : scanFraction wholeParts.2 with
      | error why => simp [whole, fraction, bind, Except.bind] at scanned
      | ok fractionParts =>
        cases exponent : scanExponent fractionParts.2 with
        | error why => simp [whole, fraction, exponent, bind, Except.bind] at scanned
        | ok exponentParts =>
          simp only [whole, fraction, exponent, bind, Except.bind, pure, Except.pure,
            Except.ok.injEq, Prod.mk.injEq] at scanned
          obtain ⟨rfl, rfl⟩ := scanned
          obtain ⟨wholeSame, isDigits, unpadded⟩ := digits_of_scanWhole whole
          obtain ⟨fractionText, fractionSame, fractional⟩ := written_of_scanFraction fraction
          obtain ⟨exponentText, exponentSame, scaled⟩ := written_of_scanExponent exponent
          refine ⟨wholeParts.1 ++ (fractionText ++ exponentText), ?_,
            .intro isDigits unpadded fractional scaled⟩
          rw [wholeSame, fractionSame, exponentSame]
          simp only [List.append_assoc]
  unfold scan at scanned
  split at scanned
  · obtain ⟨text, rfl, written⟩ := unsigned true _ scanned
    exact ⟨'-' :: text, rfl, written⟩
  · obtain ⟨text, rfl, written⟩ := unsigned false _ scanned
    exact ⟨text, rfl, written⟩

/-! ## Whole numbers -/

/-- A whole number as it is scanned once it has been written. -/
def ofInt (value : Int) : Numeral :=
  ⟨decide (value < 0), Nat.toDigits 10 value.natAbs, [], none⟩

theorem isDigit_of_mem_toDigits {number : Nat} {digit : Char}
    (member : digit ∈ Nat.toDigits 10 number) : digit.isDigit :=
  Nat.isDigit_of_mem_toDigits (by decide) (by decide) member

theorem digitChar_ne_zero {digit : Nat} (small : digit < 10) (positive : 0 < digit) :
    digit.digitChar ≠ '0' := by
  revert digit
  decide

theorem head?_toDigits_ne {number : Nat} (positive : 0 < number) :
    (Nat.toDigits 10 number).head? ≠ some '0' := by
  induction number using Nat.strongRecOn with
  | ind number ih =>
    by_cases small : number < 10
    · rw [Nat.toDigits_of_lt_base small]
      simpa using digitChar_ne_zero small positive
    · rw [Nat.toDigits_of_base_le (by decide) (by omega), List.head?_append]
      have earlier := ih (number / 10) (by omega) (by omega)
      cases front : Nat.toDigits 10 (number / 10) with
      | nil => exact absurd front Nat.toDigits_ne_nil
      | cons digit digits => simpa [front] using earlier

theorem written_writeInt (value : Int) : (ofInt value).Written (writeInt value) := by
  have isDigits : Digits (Nat.toDigits 10 value.natAbs) :=
    ⟨Nat.toDigits_ne_nil, fun digit member => isDigit_of_mem_toDigits member⟩
  have unpadded : (Nat.toDigits 10 value.natAbs).head? = some '0' →
      (Nat.toDigits 10 value.natAbs).tail = [] := by
    intro zero
    cases size : value.natAbs with
    | zero => rfl
    | succ smaller =>
      rw [size] at zero
      exact absurd zero (head?_toDigits_ne (Nat.succ_pos smaller))
  have written := @Written.intro (decide (value < 0)) _ _ _ _ _ isDigits unpadded .absent .absent
  by_cases negative : value < 0 <;> simpa [ofInt, writeInt, negative] using written

theorem digitsValue_toDigits (number : Nat) :
    digitsValue (Nat.toDigits 10 number) = number := by
  have read := @Nat.ofDigitChars_toDigits 10 number (by decide) (by decide)
  rw [Nat.ofDigitChars_eq_foldl] at read
  simpa only [digitsValue, digitValue, Nat.mul_comm] using read

theorem number_ofInt (value : Int) (least : -9223372036854775808 ≤ value)
    (greatest : value < 18446744073709551616) :
    (ofInt value).number = .ok (.whole value least greatest) := by
  have held : Number.ofInt? value = some (.whole value least greatest) := by
    rw [Number.ofInt?, dif_pos ⟨least, greatest⟩]
  by_cases negative : value < 0
  · have size : -(value.natAbs : Int) = value := by omega
    have nonzero : (value.natAbs == 0) = false := beq_eq_false_iff_ne.2 (by omega)
    have sign : decide (value < 0) = true := decide_eq_true negative
    simp only [number, wholeNumber?, ofInt, digitsValue_toDigits, sign, nonzero, size, held]
    rfl
  · have size : (value.natAbs : Int) = value := by omega
    have sign : decide (value < 0) = false := decide_eq_false negative
    simp only [number, wholeNumber?, ofInt, digitsValue_toDigits, sign, size, held]
    rfl

end Numeral

end RelayCheck.Json
