import RelayCheck.Json.Fault

/-!
Numbers as they are written, and the numbers they stand for.
-/

set_option autoImplicit false

namespace RelayCheck.Json

structure Exponent where
  negative : Bool
  digits : List Char
deriving DecidableEq, Repr

/-- A number as written: its sign, the digits before and after the point, and its exponent. A
numeral without a point has no digits after it. -/
structure Numeral where
  negative : Bool
  whole : List Char
  fraction : List Char
  exponent : Option Exponent
deriving DecidableEq, Repr

namespace Numeral

/-- Reads the digits at the front, at least one of them, and gives what follows. -/
def scanDigits (characters : List Char) : Except Fault (List Char × List Char) :=
  let digits := characters.takeWhile Char.isDigit
  let rest := characters.dropWhile Char.isDigit
  if digits.isEmpty then .error (if rest.isEmpty then .endOfText else .malformed)
  else .ok (digits, rest)

/-- Reads the digits before the point. A zero stands alone. -/
def scanWhole (characters : List Char) : Except Fault (List Char × List Char) := do
  let (digits, rest) ← scanDigits characters
  if digits.head? == some '0' && digits.tail.length != 0 then .error .malformed
  else .ok (digits, rest)

/-- Reads a point and the digits after it, if a point follows. -/
def scanFraction : List Char → Except Fault (List Char × List Char)
  | '.' :: rest => scanDigits rest
  | characters => .ok ([], characters)

def scanSign : List Char → Bool × List Char
  | '+' :: rest => (false, rest)
  | '-' :: rest => (true, rest)
  | characters => (false, characters)

def scanExponent : List Char → Except Fault (Option Exponent × List Char)
  | [] => .ok (none, [])
  | mark :: rest =>
    if mark == 'e' || mark == 'E' then do
      let (negative, unsigned) := scanSign rest
      let (digits, after) ← scanDigits unsigned
      return (some ⟨negative, digits⟩, after)
    else .ok (none, mark :: rest)

/-- Reads a numeral whose sign has been read, and gives what follows it. -/
def scanUnsigned (negative : Bool) (characters : List Char) :
    Except Fault (Numeral × List Char) := do
  let (whole, afterWhole) ← scanWhole characters
  let (fraction, afterFraction) ← scanFraction afterWhole
  let (exponent, rest) ← scanExponent afterFraction
  return (⟨negative, whole, fraction, exponent⟩, rest)

def scan : List Char → Except Fault (Numeral × List Char)
  | '-' :: rest => scanUnsigned true rest
  | characters => scanUnsigned false characters

theorem length_lt_of_scanDigits {characters : List Char} {parts : List Char × List Char}
    (scanned : scanDigits characters = .ok parts) : parts.2.length < characters.length := by
  have joined := congrArg List.length
    (List.takeWhile_append_dropWhile (p := Char.isDigit) (l := characters))
  unfold scanDigits at scanned
  simp only at scanned
  split at scanned
  · simp at scanned
  · next nonempty =>
    simp only [Except.ok.injEq] at scanned
    subst scanned
    have := List.length_pos_iff.2 (mt List.isEmpty_iff.2 nonempty)
    simp only [List.length_append] at joined ⊢
    omega

theorem length_lt_of_scanWhole {characters : List Char} {parts : List Char × List Char}
    (scanned : scanWhole characters = .ok parts) : parts.2.length < characters.length := by
  unfold scanWhole at scanned
  cases digits : scanDigits characters with
  | error why => simp [digits, bind, Except.bind] at scanned
  | ok found =>
    simp only [digits, bind, Except.bind] at scanned
    split at scanned
    · simp at scanned
    · simp only [Except.ok.injEq] at scanned
      subst scanned
      exact length_lt_of_scanDigits digits

theorem length_le_of_scanFraction {characters : List Char} {parts : List Char × List Char}
    (scanned : scanFraction characters = .ok parts) : parts.2.length ≤ characters.length := by
  unfold scanFraction at scanned
  split at scanned
  · have := length_lt_of_scanDigits scanned
    simp only [List.length_cons]
    omega
  · simp only [Except.ok.injEq] at scanned
    simp [← scanned]

theorem scanSign_length_le (characters : List Char) :
    (scanSign characters).2.length ≤ characters.length := by
  unfold scanSign
  split <;> simp

theorem length_le_of_scanExponent {characters : List Char}
    {parts : Option Exponent × List Char} (scanned : scanExponent characters = .ok parts) :
    parts.2.length ≤ characters.length := by
  unfold scanExponent at scanned
  split at scanned
  · simp only [Except.ok.injEq] at scanned
    simp [← scanned]
  · next mark rest =>
    split at scanned
    · cases digits : scanDigits (scanSign rest).2 with
      | error why => simp [digits, bind, Except.bind] at scanned
      | ok found =>
        simp [digits, bind, Except.bind, pure, Except.pure] at scanned
        have := length_lt_of_scanDigits digits
        have := scanSign_length_le rest
        simp only [← scanned, List.length_cons]
        omega
    · simp only [Except.ok.injEq] at scanned
      simp [← scanned]

theorem length_lt_of_scanUnsigned {negative : Bool} {characters : List Char}
    {parts : Numeral × List Char} (scanned : scanUnsigned negative characters = .ok parts) :
    parts.2.length < characters.length := by
  unfold scanUnsigned at scanned
  cases whole : scanWhole characters with
  | error why => simp [whole, bind, Except.bind] at scanned
  | ok wholeParts =>
    cases fraction : scanFraction wholeParts.2 with
    | error why => simp [whole, fraction, bind, Except.bind] at scanned
    | ok fractionParts =>
      cases exponent : scanExponent fractionParts.2 with
      | error why => simp [whole, fraction, exponent, bind, Except.bind] at scanned
      | ok exponentParts =>
        simp [whole, fraction, exponent, bind, Except.bind, pure, Except.pure] at scanned
        have := length_lt_of_scanWhole whole
        have := length_le_of_scanFraction fraction
        have := length_le_of_scanExponent exponent
        simp only [← scanned]
        omega

theorem length_lt_of_scan {characters : List Char} {parts : Numeral × List Char}
    (scanned : scan characters = .ok parts) : parts.2.length < characters.length := by
  unfold scan at scanned
  split at scanned
  · exact Nat.lt_succ_of_lt (length_lt_of_scanUnsigned scanned)
  · exact length_lt_of_scanUnsigned scanned

def digitValue (digit : Char) : Nat :=
  digit.toNat - '0'.toNat

def digitsValue (digits : List Char) : Nat :=
  digits.foldl (fun number digit => number * 10 + digitValue digit) 0

/-- Appends digits to a significand for as long as it stays below `2 ^ 64`, and gives the digits
that were left over. -/
def gather (significand : Nat) : List Char → Nat × List Char
  | [] => (significand, [])
  | digit :: rest =>
    let longer := significand * 10 + digitValue digit
    if longer < 18446744073709551616 then gather longer rest else (significand, digit :: rest)

def power (exponent : Nat) : Float :=
  Float.ofScientific 1 false exponent

/-- `significand * 10 ^ exponent` in floating point: one multiplication or division by a power of
ten that binary64 has, and below those a division by the greatest of them first. A result that is
too large is a fault. -/
def scale (significand : Nat) (exponent : Int) : Except Fault Float :=
  let start := (UInt64.ofNat significand).toFloat
  if 308 < exponent then
    if significand == 0 then .ok start else .error .malformed
  else if 0 ≤ exponent then
    let result := start * power exponent.toNat
    if result.isInf then .error .malformed else .ok result
  else if -308 ≤ exponent then .ok (start / power (-exponent).toNat)
  else
    let lower := start / power 308
    if -616 ≤ exponent then .ok (lower / power (-exponent - 308).toNat) else .ok (lower / power 308)

/-- The number that a numeral stands for as a binary64. Digits beyond the first `2 ^ 64` of the
significand count for the exponent if they stand before the point and for nothing after it. An
exponent of more than 31 bits gives zero or a fault. -/
def floatSize (numeral : Numeral) : Except Fault Float :=
  let (leading, skipped) := gather 0 numeral.whole
  let (significand, dropped) := gather leading numeral.fraction
  let places : Int := skipped.length - (numeral.fraction.length - dropped.length : Nat)
  match numeral.exponent with
  | none => scale significand places
  | some exponent =>
    let size := digitsValue exponent.digits
    if size < 2147483648 then
      scale significand (if exponent.negative then places - size else places + size)
    else if significand == 0 || exponent.negative then .ok 0
    else .error .malformed

/-- The number that a numeral stands for as a binary64, with its sign. -/
def float (numeral : Numeral) : Except Fault Number := do
  let size ← numeral.floatSize
  return .float (if numeral.negative then -size else size).toBits

/-- The whole number that a numeral stands for, if it has neither point nor exponent and fits. A
zero with a minus sign is not whole. -/
def wholeNumber? (numeral : Numeral) : Option Number :=
  if numeral.fraction.isEmpty && numeral.exponent.isNone then
    let size := digitsValue numeral.whole
    if numeral.negative then if size == 0 then none else Number.ofInt? (-size)
    else Number.ofInt? size
  else none

/-- The number that a numeral stands for. It is a fault if it is too large for a binary64. -/
def number (numeral : Numeral) : Except Fault Number :=
  match numeral.wholeNumber? with
  | some number => .ok number
  | none => numeral.float

end Numeral

end RelayCheck.Json
