import Mathlib.Data.List.Chain
import RelayCheck.Json.Token
import RelayCheck.Proofs.Json.Numeral
import RelayCheck.Proofs.Json.StringText

/-!
Tokens as they are written.

There may be blanks before each token and after the last one. The tokens of what is written are
those that were written, if no number stands right before something that could belong to it; and a
text whose tokens are all in order has been written as them.
-/

set_option autoImplicit false

namespace RelayCheck.Json

/-- Characters that may stand between two tokens. -/
def Blank (characters : List Char) : Prop :=
  ∀ character ∈ characters, Token.isSpace character

theorem blank_nil : Blank [] := by
  simp [Blank]

theorem Blank.append {left right : List Char} (first : Blank left) (second : Blank right) :
    Blank (left ++ right) := by
  intro character member
  cases List.mem_append.1 member with
  | inl member => exact first character member
  | inr member => exact second character member

theorem Numeral.Written.begins {numeral : Numeral} {characters : List Char}
    (written : numeral.Written characters) :
    ∃ first rest, characters = first :: rest ∧ (first = '-' ∨ first.isDigit) := by
  obtain @⟨negative, whole, fraction, fractionText, exponentText, exponent, isDigits, -, -, -⟩ :=
    written
  cases negative with
  | true => exact ⟨'-', _, rfl, .inl rfl⟩
  | false =>
    obtain ⟨nonempty, all⟩ := isDigits
    cases whole with
    | nil => exact absurd rfl nonempty
    | cons digit digits => exact ⟨digit, _, rfl, .inr (all digit List.mem_cons_self)⟩

namespace Token

/-! ## What is written -/

/-- The token may be written as these characters. -/
inductive Written : Token → List Char → Prop
  | openArray : Written .openArray ['[']
  | closeArray : Written .closeArray [']']
  | openObject : Written .openObject ['{']
  | closeObject : Written .closeObject ['}']
  | comma : Written .comma [',']
  | colon : Written .colon [':']
  | null : Written .null ['n', 'u', 'l', 'l']
  | true : Written (.bool true) ['t', 'r', 'u', 'e']
  | false : Written (.bool false) ['f', 'a', 'l', 's', 'e']
  | number {numeral : Numeral} {characters : List Char} (written : numeral.Written characters) :
      Written (.number numeral) characters
  | string {text : StringText} {characters : List Char} (written : text.Written characters) :
      Written (.string text) characters

inductive ListWritten : List Token → List Char → Prop
  | nil {blank : List Char} (isBlank : Blank blank) : ListWritten [] blank
  | cons {token : Token} {tokens : List Token} {blank characters others : List Char}
      (isBlank : Blank blank) (first : token.Written characters)
      (rest : ListWritten tokens others) :
      ListWritten (token :: tokens) (blank ++ (characters ++ others))

theorem ListWritten.blank_append {tokens : List Token} {blank characters : List Char}
    (isBlank : Blank blank) (written : ListWritten tokens characters) :
    ListWritten tokens (blank ++ characters) := by
  cases written with
  | nil other => exact .nil (isBlank.append other)
  | cons other first rest =>
    rw [← List.append_assoc]
    exact .cons (isBlank.append other) first rest

theorem ListWritten.append {tokens others : List Token} {characters further : List Char}
    (written : ListWritten tokens characters) (next : ListWritten others further) :
    ListWritten (tokens ++ others) (characters ++ further) := by
  induction written with
  | nil isBlank => exact next.blank_append isBlank
  | cons isBlank first _ ih =>
    simp only [List.append_assoc]
    exact .cons isBlank first ih

theorem Written.single {token : Token} {characters : List Char}
    (written : token.Written characters) : ListWritten [token] characters := by
  simpa using ListWritten.cons blank_nil written (.nil blank_nil)

/-! ## Scanning what is written -/

/-- A token that ends a number in front of it. -/
def Ends (token : Token) : Prop :=
  token = .comma ∨ token = .closeArray ∨ token = .closeObject

/-- Every number has the end of a value behind it. -/
def Separated (tokens : List Token) : Prop :=
  tokens.IsChain fun token next => (∃ numeral, token = .number numeral) → next.Ends

theorem allFrom_blank (found : List Token) {blank : List Char} (isBlank : Blank blank)
    (rest : List Char) : allFrom found (blank ++ rest) = allFrom found rest := by
  induction blank with
  | nil => rfl
  | cons character blank ih =>
    obtain ⟨space, isBlank⟩ := List.forall_mem_cons.1 isBlank
    rw [List.cons_append, allFrom, if_pos space]
    exact ih isBlank

theorem allFrom_cons (found : List Token) (token : Token) {first : Char}
    {characters rest : List Char} (other : isSpace first = false)
    (scanned : scan first characters = (token, rest)) :
    allFrom found (first :: characters) = allFrom (token :: found) rest := by
  rw [allFrom, other, scanned]
  rfl

/-- The characters that a number can begin with begin nothing else. -/
theorem scan_eq_scanNumeral {first : Char} (begins : first = '-' ∨ first.isDigit)
    (rest : List Char) : scan first rest = scanNumeral (first :: rest) := by
  have unspecial : (first == '-' || first.isDigit) = true := by
    simpa using begins
  rw [scan, if_pos unspecial]
  all_goals
    rintro rfl
    exact absurd begins (by decide)

theorem isSpace_eq_false {first : Char} (begins : first = '-' ∨ first.isDigit) :
    isSpace first = false := by
  simp only [isSpace, Bool.or_eq_false_iff, beq_eq_false_iff_ne]
  refine ⟨⟨⟨?_, ?_⟩, ?_⟩, ?_⟩
  all_goals
    rintro rfl
    exact absurd begins (by decide)

/-- Scanning takes a written token off the front of any characters that cannot belong to it. -/
theorem allFrom_append (found : List Token) {token : Token} {characters rest : List Char}
    (written : token.Written characters)
    (stops : (∃ numeral, token = .number numeral) → Numeral.Stops rest) :
    allFrom found (characters ++ rest) = allFrom (token :: found) rest := by
  cases written with
  | number written =>
    obtain ⟨first, others, rfl, begins⟩ := written.begins
    have scanned := Numeral.scan_append written (stops ⟨_, rfl⟩)
    rw [List.cons_append] at scanned ⊢
    apply allFrom_cons found _ (isSpace_eq_false begins)
    rw [scan_eq_scanNumeral begins, scanNumeral, scanned]
  | string written =>
    cases written with
    | intro inside =>
      have scanned := StringText.scan_append [] inside rest
      simp only [List.cons_append, List.append_assoc, List.nil_append]
      apply allFrom_cons found _ rfl
      rw [scan, scanString, scanned]
      rfl
  | _ => exact allFrom_cons found _ rfl rfl

theorem ListWritten.stops {tokens : List Token} {characters : List Char}
    (written : ListWritten tokens characters) (ends : ∀ next ∈ tokens.head?, next.Ends) :
    Numeral.Stops characters := by
  have space : ∀ {blank : List Char} (others : List Char), Blank blank → blank ≠ [] →
      Numeral.Stops (blank ++ others) := by
    intro blank others isBlank nonempty
    cases blank with
    | nil => exact absurd rfl nonempty
    | cons character blank =>
      have isSpace := isBlank character List.mem_cons_self
      simp only [Token.isSpace, Bool.or_eq_true, beq_iff_eq] at isSpace
      obtain ((rfl | rfl) | rfl) | rfl := isSpace <;> exact Numeral.stops_cons _ (by decide)
  cases written with
  | nil isBlank =>
    by_cases nonempty : characters = []
    · subst nonempty
      exact Numeral.stops_nil
    · simpa using space [] isBlank nonempty
  | @cons token tokens blank characters others isBlank first rest =>
    by_cases nonempty : blank = []
    · subst nonempty
      obtain rfl | rfl | rfl := ends token rfl <;> cases first <;>
        exact Numeral.stops_cons _ (by decide)
    · exact space _ isBlank nonempty

/-- The tokens of what is written are those that were written. -/
theorem allFrom_listWritten (found : List Token) {tokens : List Token} {characters : List Char}
    (written : ListWritten tokens characters) (separated : Separated tokens) :
    allFrom found characters = found.reverse ++ tokens := by
  induction written generalizing found with
  | @nil blank isBlank =>
    have blanks := allFrom_blank found isBlank []
    rw [List.append_nil] at blanks
    rw [blanks, allFrom, List.append_nil]
  | @cons token tokens blank characters others isBlank first rest ih =>
    obtain ⟨next, separated⟩ := List.isChain_cons.1 separated
    have stops : (∃ numeral, token = .number numeral) → Numeral.Stops others :=
      fun isNumber => rest.stops fun after head => next after head isNumber
    rw [allFrom_blank found isBlank, allFrom_append found first stops, ih _ separated]
    simp

/-! ## Texts whose tokens are in order -/

/-- Nothing is wrong in a token. -/
def Clean : Token → Prop
  | .string text => text.ending = none
  | .damaged _ _ | .stray => False
  | _ => True

theorem Written.clean {token : Token} {characters : List Char}
    (written : token.Written characters) : token.Clean := by
  cases written with
  | string inside =>
    cases inside
    rfl
  | _ => exact trivial

theorem ListWritten.clean {tokens : List Token} {characters : List Char}
    (written : ListWritten tokens characters) : ∀ token ∈ tokens, token.Clean := by
  induction written with
  | nil => exact List.forall_mem_nil _
  | cons _ first _ ih => exact List.forall_mem_cons.2 ⟨first.clean, ih⟩

theorem scanWord_eq_self {token : Token} {letters characters rest : List Char}
    {scanned : Token} (clean : scanned.Clean)
    (found : scanWord token letters characters = (scanned, rest)) :
    scanned = token ∧ characters = letters ++ rest := by
  induction letters generalizing characters with
  | nil =>
    simp only [scanWord, Prod.mk.injEq] at found
    exact ⟨found.1.symm, found.2⟩
  | cons letter letters ih =>
    cases characters with
    | nil =>
      simp only [scanWord, Prod.mk.injEq] at found
      rw [← found.1] at clean
      exact clean.elim
    | cons character characters =>
      simp only [scanWord] at found
      split at found
      · next same =>
        obtain ⟨isToken, others⟩ := ih found
        rw [beq_iff_eq] at same
        exact ⟨isToken, by rw [same, others, List.cons_append]⟩
      · cases found
        exact clean.elim

/-- A token in which nothing is wrong has been written where it was scanned. -/
theorem written_of_scan {first : Char} {rest after : List Char} {token : Token}
    (clean : token.Clean) (scanned : scan first rest = (token, after)) :
    ∃ characters, first :: rest = characters ++ after ∧ token.Written characters := by
  unfold scan at scanned
  split at scanned
  case h_7 =>
    cases found : StringText.scan [] rest with
    | mk text others =>
      simp only [scanString, found] at scanned
      cases scanned
      obtain ⟨pieces, inside, rfl, rfl, written⟩ := StringText.scanned_of_scan found clean
      exact ⟨_, by simp, .string (.intro written)⟩
  case h_8 =>
    obtain ⟨rfl, rfl⟩ := scanWord_eq_self clean scanned
    exact ⟨_, rfl, .null⟩
  case h_9 =>
    obtain ⟨rfl, rfl⟩ := scanWord_eq_self clean scanned
    exact ⟨_, rfl, .true⟩
  case h_10 =>
    obtain ⟨rfl, rfl⟩ := scanWord_eq_self clean scanned
    exact ⟨_, rfl, .false⟩
  case h_11 =>
    split at scanned
    · unfold scanNumeral at scanned
      split at scanned
      · next found =>
        cases scanned
        obtain ⟨text, same, written⟩ := Numeral.written_of_scan found
        exact ⟨text, same, .number written⟩
      · cases scanned
        exact clean.elim
    · cases scanned
      exact clean.elim
  all_goals
    cases scanned
    exact ⟨[_], rfl, by constructor⟩

theorem allFrom_eq_append (found : List Token) (characters : List Char) :
    allFrom found characters = found.reverse ++ allFrom [] characters := by
  have general : ∀ found earlier, allFrom (found ++ earlier) characters =
      earlier.reverse ++ allFrom found characters := by
    intro found earlier
    fun_induction allFrom found characters with
    | case1 found => simp [allFrom]
    | case2 found first rest space ih =>
      rw [allFrom, if_pos space]
      exact ih
    | case3 found first rest other ih =>
      rw [allFrom, if_neg other]
      exact ih
  simpa using general [] found

/-- A text whose tokens are all in order has been written as these tokens. -/
theorem listWritten_of_allFrom {found tokens : List Token} {characters : List Char}
    (scanned : allFrom found characters = found.reverse ++ tokens)
    (clean : ∀ token ∈ tokens, token.Clean) : ListWritten tokens characters := by
  fun_induction allFrom found characters generalizing tokens with
  | case1 found =>
    obtain rfl : tokens = [] := by simpa using scanned
    exact .nil blank_nil
  | case2 found first rest space ih =>
    have isBlank : Blank [first] := by simpa [Blank] using space
    exact (ih scanned clean).blank_append isBlank
  | case3 found first rest other ih =>
    have later := allFrom_eq_append ((scan first rest).1 :: found) (scan first rest).2
    rw [scanned, List.reverse_cons, List.append_assoc, List.append_cancel_left_eq] at later
    subst later
    obtain ⟨cleanFirst, cleanLater⟩ := List.forall_mem_cons.1 clean
    have written := ih (allFrom_eq_append _ _) cleanLater
    obtain ⟨characters, same, first_written⟩ := written_of_scan cleanFirst rfl
    rw [same]
    exact .cons blank_nil first_written written

end Token

end RelayCheck.Json
