import Mathlib.Data.List.Forall2
import RelayCheck.Proofs.Text.Mark
import RelayCheck.Proofs.Upgrade.Grammar
import RelayCheck.Upgrade.Request

/-!
Requests as the other side takes them apart.

Host and path are written into a request as they are. So a request comes apart into what it was put
together from exactly where host and path hold nothing that is taken for the end of a line, for the
end of the head or for the next word of a line.
-/

set_option autoImplicit false

namespace RelayCheck.Text.Base64

theorem isDigit_digit (number : Nat) : isDigit (digit number) := by
  by_cases small : number < 64
  · have known : ∀ number < 64, isDigit (digit number) := by decide
    exact known number small
  · have last : digit number = '/' := by
      rw [digit, if_neg (by omega), if_neg (by omega), if_neg (by omega), if_neg]
      rw [beq_iff_eq]
      omega
    rw [last]
    rfl

theorem isDigit_of_mem_encode (octets : Bytes) :
    ∀ character ∈ (encode octets).toList, isDigit character := by
  have padding : isDigit '=' := rfl
  rw [encode, String.toList_ofList]
  induction octets using encodeChars.induct with
  | case1 => exact List.forall_mem_nil _
  | case2 first => simp [encodeChars, isDigit_digit, padding]
  | case3 first second => simp [encodeChars, isDigit_digit, padding]
  | case4 first second third rest ih =>
    simp only [encodeChars, List.forall_mem_cons, isDigit_digit, true_and]
    exact ih

end RelayCheck.Text.Base64

namespace RelayCheck.Upgrade

open Text (infix_append_cons_iff infix_append_iff_of_not_mem)

/-- The octets end with the end of a head, which stands nowhere else in them. -/
def EndsOnce (octets : Bytes) : Prop :=
  headEnd <:+ octets ∧ ∀ before after, octets = before ++ headEnd ++ after → after = []

/-- The characters of the end of a head. -/
def headMark : List Char := lineEnd ++ lineEnd

/-- The line is a name, a colon, a space and a value. The name has no colon. -/
def Names (line : List Char) (header : String × String) : Prop :=
  ':' ∉ header.1.toList ∧ line = header.1.toList ++ ':' :: ' ' :: header.2.toList

theorem endsOnce_concat_iff {front : Bytes} {last : UInt8} (ends : headEnd <:+ front ++ [last]) :
    EndsOnce (front ++ [last]) ↔ ¬ headEnd <:+: front := by
  constructor
  · rintro ⟨-, once⟩ ⟨before, after, same⟩
    have longer : front ++ [last] = before ++ headEnd ++ (after ++ [last]) := by
      rw [← same, List.append_assoc]
    exact List.append_ne_nil_of_right_ne_nil after (List.cons_ne_nil last [])
      (once before (after ++ [last]) longer)
  · intro absent
    refine ⟨ends, fun before after same => ?_⟩
    rcases List.eq_nil_or_concat after with empty | ⟨between, other, rfl⟩
    · exact empty
    · rw [List.concat_eq_append, ← List.append_assoc] at same
      obtain ⟨earlier, -⟩ := List.append_inj' same rfl
      exact absurd ⟨before, between, earlier.symm⟩ absent

namespace Request

variable {request : Request}

/-! ## The parts of a request -/

/-- The headers of a request with their values. -/
def headers (request : Request) : List (String × String) :=
  [("Host", request.host ++ ":" ++ toString request.port.toNat), ("Upgrade", "websocket"),
   ("Connection", "Upgrade"), ("Sec-WebSocket-Key", request.key), ("Sec-WebSocket-Version", "13")]

def words (request : Request) : List (List Char) :=
  ["GET".toList, request.path.toList, "HTTP/1.1".toList]

def firstLine (request : Request) : List Char :=
  "GET".toList ++ ' ' :: (request.path.toList ++ ' ' :: "HTTP/1.1".toList)

def headerLine (header : String × String) : List Char :=
  header.1.toList ++ ':' :: ' ' :: header.2.toList

theorem intercalate_words (request : Request) :
    [' '].intercalate request.words = request.firstLine := by
  simp [words, firstLine, List.intercalate_cons_cons]

theorem toList_toText (request : Request) : request.toText.toList =
    lineEnd.intercalate (request.firstLine :: (request.headers.map headerLine ++ [[], []])) := by
  simp [toText, lines, String.join, firstLine, headers, headerLine, lineEnd,
    List.intercalate_cons_cons]

theorem forall₂_names_iff {fields : List (List Char)} {headers : List (String × String)}
    (plain : ∀ header ∈ headers, ':' ∉ header.1.toList) :
    List.Forall₂ Names fields headers ↔ fields = headers.map headerLine := by
  induction headers generalizing fields with
  | nil => rw [List.forall₂_nil_right_iff, List.map_nil]
  | cons header headers ih =>
    rw [List.forall_mem_cons] at plain
    rw [List.forall₂_cons_right_iff, List.map_cons]
    constructor
    · rintro ⟨line, others, ⟨-, rfl⟩, rest, rfl⟩
      rw [(ih plain.2).1 rest]
      rfl
    · rintro rfl
      exact ⟨_, _, ⟨plain.1, rfl⟩, (ih plain.2).2 rfl, rfl⟩

theorem names_iff {fields : List (List Char)} :
    List.Forall₂ Names fields request.headers ↔ fields = request.headers.map headerLine := by
  refine forall₂_names_iff ?_
  simp only [headers, List.forall_mem_cons, List.not_mem_nil, false_implies, implies_true, and_true]
  decide

theorem digits_plain (number : Nat) : '\r' ∉ (toString number).toList := by
  intro inside
  rw [Nat.toString_eq_ofList_toDigits, String.toList_ofList] at inside
  exact absurd (Nat.isDigit_of_mem_toDigits (by decide) (by decide) inside) (by decide)

/-- No end of a line stands in a text of base 64. -/
theorem base64_plain {text : String}
    (base64 : ∀ character ∈ text.toList, Text.Base64.isDigit character) : '\r' ∉ text.toList :=
  fun inside => absurd (base64 '\r' inside) (by decide)

/-! ## Lines -/

theorem not_infix_of_plain {piece : List Char} (plain : '\r' ∉ piece) : ¬ lineEnd <:+: piece :=
  fun inside => plain (inside.subset List.mem_cons_self)

theorem lineEnd_infix_firstLine_iff :
    lineEnd <:+: request.firstLine ↔ lineEnd <:+: request.path.toList := by
  have foreign : ' ' ∉ lineEnd := by decide
  have front : '\r' ∉ "GET".toList := by decide
  have back : '\r' ∉ "HTTP/1.1".toList := by decide
  rw [firstLine, infix_append_cons_iff foreign, infix_append_cons_iff foreign,
    or_iff_right (not_infix_of_plain front), or_iff_left (not_infix_of_plain back)]

theorem lineEnd_infix_headerLine_iff {header : String × String} (plain : '\r' ∉ header.1.toList) :
    lineEnd <:+: headerLine header ↔ lineEnd <:+: header.2.toList := by
  have foreign : ':' ∉ lineEnd := by decide
  have spaced : lineEnd <:+: [' '] ++ header.2.toList ↔ lineEnd <:+: header.2.toList :=
    infix_append_iff_of_not_mem (by decide)
  rw [headerLine, infix_append_cons_iff foreign, or_iff_right (not_infix_of_plain plain)]
  exact spaced

theorem apart_headerLine_iff
    (base64 : ∀ character ∈ request.key.toList, Text.Base64.isDigit character) :
    (∀ line ∈ request.headers.map headerLine, ¬ lineEnd <:+: line) ↔
      ¬ lineEnd <:+: request.host.toList := by
  have names : ∀ header ∈ request.headers, '\r' ∉ header.1.toList := by
    simp only [headers, List.forall_mem_cons, List.not_mem_nil, false_implies, implies_true,
      and_true]
    decide
  have address : lineEnd <:+: (request.host ++ ":" ++ toString request.port.toNat).toList ↔
      lineEnd <:+: request.host.toList := by
    have foreign : ':' ∉ lineEnd := by decide
    have digits := not_infix_of_plain (digits_plain request.port.toNat)
    rw [String.toList_append, String.toList_append, List.append_assoc]
    exact (infix_append_cons_iff foreign).trans (or_iff_left digits)
  have others : ¬ lineEnd <:+: request.key.toList := not_infix_of_plain (base64_plain base64)
  rw [List.forall_mem_map]
  constructor
  · intro apart
    have host := apart _ List.mem_cons_self
    rwa [lineEnd_infix_headerLine_iff (names _ List.mem_cons_self), address] at host
  · intro host header inside
    rw [lineEnd_infix_headerLine_iff (names header inside)]
    have fixed : '\r' ∉ "websocket".toList ∧ '\r' ∉ "Upgrade".toList ∧ '\r' ∉ "13".toList := by
      decide
    simp only [headers, List.mem_cons, List.not_mem_nil, or_false] at inside
    rcases inside with rfl | rfl | rfl | rfl | rfl
    · exact fun inside => host (address.1 inside)
    · exact not_infix_of_plain fixed.1
    · exact not_infix_of_plain fixed.2.1
    · exact others
    · exact not_infix_of_plain fixed.2.2

theorem lines_tail_ne_nil (fields : List (List Char)) : fields ++ [[], []] ≠ [] :=
  List.append_ne_nil_of_right_ne_nil _ (List.cons_ne_nil _ _)

theorem intercalate_lineEnd_cons {line : List Char} {rest : List (List Char)} (more : rest ≠ []) :
    lineEnd.intercalate (line :: rest) = line ++ (lineEnd ++ lineEnd.intercalate rest) := by
  cases rest with
  | nil => exact absurd rfl more
  | cons next rest => rw [List.intercalate_cons_cons, List.append_assoc]

/-- Cut at the ends of lines, a request is a first line, the headers with their values, and two
empty pieces around the empty line, where host and path are free of ends of lines. -/
theorem exists_lines_iff
    (base64 : ∀ character ∈ request.key.toList, Text.Base64.isDigit character) :
    (∃ first fields, Lines request.toText.toList (first :: (fields ++ [[], []])) ∧
      List.Forall₂ Names fields request.headers) ↔
        ¬ lineEnd <:+: request.host.toList ∧ ¬ lineEnd <:+: request.path.toList := by
  rw [← apart_headerLine_iff base64, ← lineEnd_infix_firstLine_iff]
  constructor
  · rintro ⟨first, fields, ⟨-, joined, apart⟩, named⟩
    rw [names_iff] at named
    rw [toList_toText, named, intercalate_lineEnd_cons (lines_tail_ne_nil _),
      intercalate_lineEnd_cons (lines_tail_ne_nil _), List.append_cancel_right_eq] at joined
    rw [List.forall_mem_cons, List.forall_mem_append, joined, named] at apart
    exact ⟨apart.2.1, apart.1⟩
  · intro ⟨fields, first⟩
    refine ⟨request.firstLine, _, ⟨List.cons_ne_nil _ _, request.toList_toText.symm, ?_⟩,
      names_iff.2 rfl⟩
    rw [List.forall_mem_cons, List.forall_mem_append]
    exact ⟨first, fields, by decide⟩

/-- Cut at spaces, the first line is the three words where the path is free of spaces and of ends of
lines. -/
theorem splitOn_first_iff {first : List Char} {later : List (List Char)}
    (consists : Lines request.toText.toList (first :: later)) :
    first.splitOn ' ' = request.words ↔
      ¬ lineEnd <:+: request.path.toList ∧ ' ' ∉ request.path.toList := by
  constructor
  · intro divided
    have path : request.path.toList ∈ first.splitOn ' ' := by
      rw [divided]
      exact List.mem_cons_of_mem _ List.mem_cons_self
    refine ⟨?_, Text.not_mem_of_mem_splitOn path⟩
    have whole : first = request.firstLine := by
      rw [← request.intercalate_words, ← divided, List.intercalate_splitOn]
    rw [← lineEnd_infix_firstLine_iff, ← whole]
    exact consists.apart first List.mem_cons_self
  · intro ⟨apart, undivided⟩
    have whole : first = request.firstLine := by
      have split := consists.eq_splitLines
      rw [toList_toText, intercalate_lineEnd_cons (lines_tail_ne_nil _)] at split
      rw [splitLines_append (lineEnd_infix_firstLine_iff.not.2 apart) (head?_lineEnd_append _),
        splitLines_lineEnd, List.modifyHead_cons, List.reverse_nil, List.append_nil] at split
      exact (List.cons.inj split).1.symm
    have words : ∀ word ∈ request.words, ' ' ∉ word := by
      rw [words, List.forall_mem_cons, List.forall_mem_cons]
      exact ⟨by decide, undivided, by decide⟩
    rw [whole, ← request.intercalate_words]
    exact List.splitOn_intercalate ' ' words (List.cons_ne_nil _ _)

/-! ## The end of the head -/

/-- The request without the end of its head. -/
def body (request : Request) : List Char :=
  "GET".toList ++ ' ' :: (request.path.toList ++ ' ' :: ("HTTP/1.1\r\nHost:".toList ++
    ' ' :: (request.host.toList ++ ':' :: ((toString request.port.toNat).toList ++
      ("\r\nUpgrade: websocket\r\nConnection: Upgrade\r\nSec-WebSocket-Key:".toList ++
        ' ' :: (request.key.toList ++ "\r\nSec-WebSocket-Version: 13".toList))))))

theorem toList_toText_eq_body (request : Request) :
    request.toText.toList = request.body ++ headMark := by
  simp [toText, lines, String.join, body, headMark, lineEnd]

/-- What could be an end of the head too early ends before the last character. -/
theorem headMark_infix_iff
    (base64 : ∀ character ∈ request.key.toList, Text.Base64.isDigit character) :
    headMark <:+: request.body ++ ['\r', '\n', '\r'] ↔
      headMark <:+: request.host.toList ∨ headMark <:+: request.path.toList := by
  have space : ' ' ∉ headMark := by decide
  have colon : ':' ∉ headMark := by decide
  have digits (rest : List Char) : headMark <:+: (toString request.port.toNat).toList ++ rest ↔
      headMark <:+: rest :=
    infix_append_iff_of_not_mem (digits_plain request.port.toNat)
  have key (rest : List Char) : headMark <:+: request.key.toList ++ rest ↔ headMark <:+: rest :=
    infix_append_iff_of_not_mem (base64_plain base64)
  have fixed : ¬ headMark <:+: "GET".toList ∧ ¬ headMark <:+: "HTTP/1.1\r\nHost:".toList ∧
      ¬ headMark <:+:
        "\r\nUpgrade: websocket\r\nConnection: Upgrade\r\nSec-WebSocket-Key:".toList ∧
      ¬ headMark <:+: "\r\nSec-WebSocket-Version: 13".toList ++ ['\r', '\n', '\r'] := by
    decide +kernel
  simp only [body, List.append_assoc, List.cons_append]
  rw [infix_append_cons_iff space, infix_append_cons_iff space, infix_append_cons_iff space,
    infix_append_cons_iff colon, digits, infix_append_cons_iff space, key]
  simp only [fixed, false_or, or_false]
  exact or_comm

theorem endsOnce_iff
    (base64 : ∀ character ∈ request.key.toList, Text.Base64.isDigit character) :
    EndsOnce request.toBytes ↔
      ¬ headMark <:+: request.host.toList ∧ ¬ headMark <:+: request.path.toList := by
  let octets := request.body.flatMap String.utf8EncodeChar
  have whole : request.toBytes = octets ++ [0x0D, 0x0A, 0x0D] ++ [0x0A] := by
    rw [toBytes, Text.Utf8.encode, toList_toText_eq_body, List.flatMap_append, List.append_assoc]
    rfl
  have front : octets ++ [0x0D, 0x0A, 0x0D] =
      (request.body ++ ['\r', '\n', '\r']).flatMap String.utf8EncodeChar := by
    rw [List.flatMap_append]
    rfl
  have ends : headEnd <:+ octets ++ [0x0D, 0x0A, 0x0D] ++ [0x0A] := ⟨octets, by simp [headEnd]⟩
  have ascii : ∀ character ∈ headMark, character.toNat < 0x80 :=
    Text.forall_mem_of_all (by decide)
  have mark : headMark.flatMap String.utf8EncodeChar = headEnd := by decide
  rw [whole, endsOnce_concat_iff ends, front, ← mark, Text.Utf8.infix_flatMap_iff ascii,
    headMark_infix_iff base64, not_or]

end Request

end RelayCheck.Upgrade
