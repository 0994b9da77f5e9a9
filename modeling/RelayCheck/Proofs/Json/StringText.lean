import RelayCheck.Json.Printer
import RelayCheck.Json.StringText

/-!
Strings as they are written, and the texts that they stand for.

A character may stand for itself, or be given by a letter or by number after a backslash; beyond
sixteen bits it takes two numbers. The scanner takes just what is written, and its pieces are read
as the characters that they stand for.
-/

set_option autoImplicit false

namespace RelayCheck.Json

/-! ## What is written -/

/-- The piece may be written as these characters. -/
inductive Piece.Written : Piece → List Char → Prop
  | plain {character : Char} (quote : character ≠ '"') (backslash : character ≠ '\\')
      (control : ¬ character.toNat < 0x20) : Written (.plain character) [character]
  | short {letter character : Char} (short : StringText.shortEscape? letter = some character) :
      Written (.plain character) ['\\', letter]
  | unit {first second third fourth : Char} {value : Nat}
      (digits : StringText.unitValue? first second third fourth = some value) :
      Written (.unit value) ['\\', 'u', first, second, third, fourth]

inductive Piece.ListWritten : List Piece → List Char → Prop
  | nil : ListWritten [] []
  | cons {piece : Piece} {pieces : List Piece} {characters others : List Char}
      (first : piece.Written characters) (rest : ListWritten pieces others) :
      ListWritten (piece :: pieces) (characters ++ others)

/-- A unit of UTF-16 that is no character by itself. -/
def Surrogate (unit : Nat) : Prop :=
  0xD800 ≤ unit ∧ unit < 0xE000

/-- The pieces stand for these characters. -/
inductive Piece.ListMeans : List Piece → List Char → Prop
  | nil : ListMeans [] []
  | plain {character : Char} {pieces : List Piece} {characters : List Char}
      (rest : ListMeans pieces characters) :
      ListMeans (.plain character :: pieces) (character :: characters)
  | unit {value : Nat} {pieces : List Piece} {characters : List Char}
      (single : ¬ Surrogate value) (rest : ListMeans pieces characters) :
      ListMeans (.unit value :: pieces) (Char.ofNat value :: characters)
  | pair {high low : Nat} {pieces : List Piece} {characters : List Char}
      (first : 0xD800 ≤ high ∧ high < 0xDC00) (second : 0xDC00 ≤ low ∧ low < 0xE000)
      (rest : ListMeans pieces characters) :
      ListMeans (.unit high :: .unit low :: pieces)
        (Char.ofNat ((high - 0xD800) * 0x400 + (low - 0xDC00) + 0x10000) :: characters)

theorem Piece.ListMeans.prepend {done : List Char} {character : Char} {characters : List Char}
    {pieces others : List Piece}
    (first : ∀ {rest}, Piece.ListMeans pieces rest → Piece.ListMeans others (character :: rest))
    (decoded : ∃ rest, characters = (character :: done).reverse ++ rest ∧
      Piece.ListMeans pieces rest) :
    ∃ rest, characters = done.reverse ++ rest ∧ Piece.ListMeans others rest := by
  obtain ⟨rest, same, means⟩ := decoded
  exact ⟨character :: rest, by simp [same], first means⟩

def lettered : List Char := ['"', '\\', '\x08', '\x0c', '\n', '\r', '\t']

/-- The piece that a character is scanned as once it has been written. -/
def Piece.ofChar (character : Char) : Piece :=
  if character.toNat < 0x20 ∧ character ∉ lettered then .unit character.toNat
  else .plain character

namespace StringText

def ofText (text : String) : StringText :=
  ⟨text.toList.map Piece.ofChar, none⟩

/-- The string may be written as these characters, its quotes included. -/
inductive Written : StringText → List Char → Prop
  | intro {pieces : List Piece} {characters : List Char}
      (inside : Piece.ListWritten pieces characters) :
      Written ⟨pieces, none⟩ ('"' :: (characters ++ ['"']))

/-! ## Scanning -/

theorem scan_plain (done : List Piece) {character : Char} (rest : List Char)
    (quote : character ≠ '"') (backslash : character ≠ '\\') (control : ¬ character.toNat < 0x20) :
    scan done (character :: rest) = scan (.plain character :: done) rest := by
  rw [scan, if_neg control]
  · exact quote
  · exact fun same _ => backslash same
  · exact fun _ _ _ _ _ same _ => backslash same
  · exact fun _ same _ => backslash same
  · exact fun _ _ same _ => backslash same

theorem scan_short (done : List Piece) {letter character : Char} (rest : List Char)
    (short : shortEscape? letter = some character) :
    scan done ('\\' :: letter :: rest) = scan (.plain character :: done) rest := by
  have other : letter ≠ 'u' := by
    rintro rfl
    simp [shortEscape?] at short
  rw [scan, short]
  · exact fun _ _ _ _ _ same _ => other same
  · exact other

theorem scan_unit (done : List Piece) {first second third fourth : Char} {value : Nat}
    (rest : List Char) (digits : unitValue? first second third fourth = some value) :
    scan done ('\\' :: 'u' :: first :: second :: third :: fourth :: rest) =
      scan (.unit value :: done) rest := by
  rw [scan, digits]

theorem scan_append (done : List Piece) {pieces : List Piece} {characters : List Char}
    (written : Piece.ListWritten pieces characters) (rest : List Char) :
    scan done (characters ++ '"' :: rest) = (⟨done.reverse ++ pieces, none⟩, rest) := by
  induction written generalizing done with
  | nil => simp [scan]
  | @cons piece pieces characters others first written ih =>
    have step : scan done (characters ++ (others ++ '"' :: rest)) =
        scan (piece :: done) (others ++ '"' :: rest) := by
      cases first with
      | plain quote backslash control => exact scan_plain done _ quote backslash control
      | short short => exact scan_short done _ short
      | unit digits => exact scan_unit done _ digits
    rw [List.append_assoc, step, ih]
    simp

/-- The scanner has come from its opening quote, with `done` behind it, to the closing one. -/
def Scanned (done : List Piece) (characters rest : List Char) (text : StringText) : Prop :=
  ∃ pieces inside, text = ⟨done.reverse ++ pieces, none⟩ ∧ characters = inside ++ '"' :: rest ∧
    Piece.ListWritten pieces inside

theorem Scanned.cons {done : List Piece} {piece : Piece} {front characters rest : List Char}
    {text : StringText} (first : piece.Written front)
    (scanned : Scanned (piece :: done) characters rest text) :
    Scanned done (front ++ characters) rest text := by
  obtain ⟨pieces, inside, same, rfl, written⟩ := scanned
  exact ⟨piece :: pieces, front ++ inside, by simp [same], by simp, .cons first written⟩

theorem scanned_of_scan {done : List Piece} {characters rest : List Char} {text : StringText}
    (scanned : scan done characters = (text, rest)) (ended : text.ending = none) :
    Scanned done characters rest text := by
  fun_induction scan done characters with
  | case2 done rest =>
    cases scanned
    exact ⟨[], [], by simp, rfl, .nil⟩
  | case4 done first second third fourth others value digits ih =>
    exact .cons (.unit digits) (ih scanned)
  | case7 done letter others _ _ character short ih =>
    exact .cons (.short short) (ih scanned)
  | case10 done character others quote alone _ _ escape control ih =>
    have backslash : character ≠ '\\' := by
      intro same
      cases others with
      | nil => exact alone same rfl
      | cons letter others => exact escape letter others same rfl
    exact .cons (.plain quote backslash control) (ih scanned)
  | _ => cases scanned; cases ended

/-! ## Reading -/

theorem decodeFrom_unit (done : List Char) {value : Nat} (rest : List Piece)
    (single : ¬ Surrogate value) :
    decodeFrom none done (.unit value :: rest) =
      decodeFrom none (Char.ofNat value :: done) rest := by
  have high : (0xD800 ≤ value && value < 0xDC00) = false := by
    simp only [Bool.and_eq_false_iff, decide_eq_false_iff_not]
    simp only [Surrogate] at single
    omega
  have low : (0xDC00 ≤ value && value < 0xE000) = false := by
    simp only [Bool.and_eq_false_iff, decide_eq_false_iff_not]
    simp only [Surrogate] at single
    omega
  cases rest with
  | nil => simp [decodeFrom, high, low]
  | cons piece rest => cases piece <;> simp [decodeFrom, high, low]

theorem decodeFrom_of_means {pieces : List Piece} {characters : List Char}
    (means : Piece.ListMeans pieces characters) (done : List Char) :
    decodeFrom none done pieces = .ok (done.reverse ++ characters) := by
  induction means generalizing done with
  | nil => simp [decodeFrom]
  | plain rest ih => simp [decodeFrom, ih]
  | unit single rest ih => simp [decodeFrom_unit _ _ single, ih]
  | pair first second rest ih => simp [decodeFrom, first, second, ih]

theorem means_of_decodeFrom {ending : Option Fault} {done : List Char} {pieces : List Piece}
    {characters : List Char} (decoded : decodeFrom ending done pieces = .ok characters) :
    ending = none ∧ ∃ rest, characters = done.reverse ++ rest ∧ Piece.ListMeans pieces rest := by
  fun_induction decodeFrom ending done pieces with
  | case1 done ended =>
    cases decoded
    exact ⟨ended, [], by simp, .nil⟩
  | case3 done character pieces ih => exact (ih decoded).imp_right (Piece.ListMeans.prepend .plain)
  | case4 done high low pieces first second value ih =>
    simp only [Bool.and_eq_true, decide_eq_true_eq] at first second
    exact (ih decoded).imp_right (Piece.ListMeans.prepend (.pair first second))
  | case7 done high low pieces notFirst notSecond ih =>
    simp only [Bool.and_eq_true, decide_eq_true_eq] at notFirst notSecond
    have single : ¬ Surrogate high := by
      simp only [Surrogate]
      omega
    exact (ih decoded).imp_right (Piece.ListMeans.prepend (.unit single))
  | case10 done value pieces _ notFirst notSecond ih =>
    simp only [Bool.and_eq_true, decide_eq_true_eq] at notFirst notSecond
    have single : ¬ Surrogate value := by
      simp only [Surrogate]
      omega
    exact (ih decoded).imp_right (Piece.ListMeans.prepend (.unit single))
  | _ => cases decoded

/-- The string ends with its closing quote and stands for a text. -/
def Means (string : StringText) (text : String) : Prop :=
  string.ending = none ∧ Piece.ListMeans string.pieces text.toList

theorem decode_eq_ok_iff {string : StringText} {text : String} :
    string.decode = .ok text ↔ string.Means text := by
  obtain ⟨pieces, ending⟩ := string
  constructor
  · intro decoded
    cases found : decodeFrom ending [] pieces with
    | error why => simp [decode, found, Except.map] at decoded
    | ok characters =>
      obtain ⟨ended, rest, rfl, means⟩ := means_of_decodeFrom found
      simp only [decode, found, Except.map, Except.ok.injEq] at decoded
      exact ⟨ended, by simpa [← decoded] using means⟩
  · rintro ⟨rfl, means⟩
    simp [decode, decodeFrom_of_means means, Except.map]

/-! ## What is written for a text -/

theorem unitValue?_control {value : Nat} (small : value < 0x20) :
    unitValue? '0' '0' (value / 16).digitChar (value % 16).digitChar = some value := by
  revert value
  decide

theorem written_escapeChar (character : Char) :
    (Piece.ofChar character).Written (escapeChar character) := by
  by_cases short : character ∈ lettered
  · simp only [lettered, List.mem_cons, List.not_mem_nil, or_false] at short
    obtain rfl | rfl | rfl | rfl | rfl | rfl | rfl := short <;> exact .short rfl
  · have others := short
    simp only [lettered, List.mem_cons, List.not_mem_nil, or_false, not_or] at others
    obtain ⟨quote, backslash, backspace, formFeed, newline, carriageReturn, tab⟩ := others
    by_cases control : character.toNat < 0x20
    · rw [Piece.ofChar, if_pos ⟨control, short⟩]
      simp only [escapeChar, beq_iff_eq, quote, backslash, backspace, formFeed, newline,
        carriageReturn, tab, control, ↓reduceIte]
      exact .unit (unitValue?_control control)
    · rw [Piece.ofChar, if_neg fun numbered => control numbered.1]
      simp only [escapeChar, beq_iff_eq, quote, backslash, backspace, formFeed, newline,
        carriageReturn, tab, control, ↓reduceIte]
      exact .plain quote backslash control

theorem listWritten_escapeChars (characters : List Char) :
    Piece.ListWritten (characters.map Piece.ofChar) (characters.flatMap escapeChar) := by
  induction characters with
  | nil => exact .nil
  | cons character characters ih => exact .cons (written_escapeChar character) ih

theorem written_writeString (text : String) : (ofText text).Written (writeString text) :=
  .intro (listWritten_escapeChars text.toList)

theorem listMeans_ofChars (characters : List Char) :
    Piece.ListMeans (characters.map Piece.ofChar) characters := by
  induction characters with
  | nil => exact .nil
  | cons character characters ih =>
    by_cases numbered : character.toNat < 0x20 ∧ character ∉ lettered
    · have single : ¬ Surrogate character.toNat := by
        obtain ⟨control, -⟩ := numbered
        simp only [Surrogate]
        omega
      simpa [Piece.ofChar, numbered] using Piece.ListMeans.unit single ih
    · simpa [Piece.ofChar, numbered] using @Piece.ListMeans.plain character _ _ ih

theorem means_ofText (text : String) : (ofText text).Means text :=
  ⟨rfl, listMeans_ofChars text.toList⟩

end StringText

end RelayCheck.Json
