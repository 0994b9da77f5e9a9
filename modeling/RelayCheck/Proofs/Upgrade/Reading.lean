import RelayCheck.Proofs.Upgrade.Grammar

/-!
What is read of a response.

A head that has the grammar is read, whatever follows it, and no other head is. Of its headers the
last one with a name counts.
-/

set_option autoImplicit false

namespace RelayCheck.Upgrade

/-! ## Headers -/

/-- The name and the value that are read of a line. -/
def headerOf (line : List Char) : List Char × List Char :=
  let parts := cut ':' line
  (Text.trimChars parts.1, Text.trimChars (parts.2.getD []))

theorem headerLine_iff {line name value : List Char} :
    HeaderLine line name value ↔ ':' ∈ line ∧ headerOf line = (name, value) := by
  constructor
  · intro header
    cases header with
    | intro undivided named valued =>
      rw [headerOf, cut_append undivided, Text.trimmed_iff.1 named]
      exact ⟨by simp, congrArg _ (Text.trimmed_iff.1 valued)⟩
  · intro ⟨divided, same⟩
    obtain ⟨before, after, rfl, undivided⟩ := List.eq_append_cons_of_mem divided
    rw [headerOf, cut_append undivided, Prod.mk.injEq] at same
    exact .intro undivided (Text.trimmed_iff.2 same.1) (Text.trimmed_iff.2 same.2)

def headersOf (lines : List (List Char)) : List (String × String) :=
  lines.map fun line => (foldName (headerOf line).1, String.ofList (headerOf line).2)

theorem readHeaders_of_divided {lines : List (List Char)} (divided : ∀ line ∈ lines, ':' ∈ line) :
    readHeaders lines = .ok (headersOf lines) := by
  induction lines with
  | nil => rfl
  | cons line lines ih =>
    rw [List.forall_mem_cons] at divided
    obtain ⟨before, after, same, undivided⟩ := List.eq_append_cons_of_mem divided.1
    rw [readHeaders, headersOf, List.map_cons, headerOf, ih divided.2, same, cut_append undivided]
    rfl

theorem divided_of_readHeaders {lines : List (List Char)} {headers : List (String × String)}
    (read : readHeaders lines = .ok headers) : ∀ line ∈ lines, ':' ∈ line := by
  induction lines generalizing headers with
  | nil => exact List.forall_mem_nil _
  | cons line lines ih =>
    by_cases divided : ':' ∈ line
    · obtain ⟨before, after, same, undivided⟩ := List.eq_append_cons_of_mem divided
      rw [readHeaders, same, cut_append undivided] at read
      cases others : readHeaders lines with
      | error why =>
        rw [others] at read
        cases read
      | ok others' => exact List.forall_mem_cons.2 ⟨divided, ih others⟩
    · rw [readHeaders, cut_of_not_mem divided] at read
      cases read

theorem readHeaders_eq_ok_iff {lines : List (List Char)} {headers : List (String × String)} :
    readHeaders lines = .ok headers ↔ (∀ line ∈ lines, ':' ∈ line) ∧ headersOf lines = headers := by
  constructor
  · intro read
    have divided := divided_of_readHeaders read
    exact ⟨divided, Except.ok.inj ((readHeaders_of_divided divided).symm.trans read)⟩
  · intro ⟨divided, same⟩
    rw [readHeaders_of_divided divided, same]

theorem Head.divided {head : Bytes} {status : UInt16} {reason : String} {lines : List (List Char)}
    (grammar : Head head status reason lines) : ∀ line ∈ lines, ':' ∈ line := by
  cases grammar with
  | intro _ _ divided => exact divided

namespace Response

theorem ofHead_of_lines {text : String} {first : List Char} {lines : List (List Char)}
    (split : Lines text.toList (first :: lines)) :
    ofHead (Text.Utf8.encode text) = (readStatusLine first).bind fun statusLine =>
      (readHeaders lines).map fun headers => ⟨statusLine.status, statusLine.reason, headers⟩ := by
  simp only [ofHead, Text.Utf8.decode?_encode, split.eq_splitLines]
  rfl

theorem exists_lines_of_ofHead {head : Bytes} {response : Response}
    (read : ofHead head = .ok response) :
    ∃ text first lines, head = Text.Utf8.encode text ∧ Lines text.toList (first :: lines) := by
  cases decoded : Text.Utf8.decode? head with
  | none =>
    rw [ofHead, decoded] at read
    cases read
  | some text =>
    have split := lines_splitLines text.toList
    obtain ⟨first, lines, same⟩ := List.exists_cons_of_ne_nil split.nonempty
    rw [same] at split
    exact ⟨text, first, lines, Text.Utf8.decode?_eq_some_iff.1 decoded, split⟩

theorem ofHead_eq_ok_iff {head : Bytes} {response : Response} :
    ofHead head = .ok response ↔ ∃ lines, Head head response.status response.reason lines ∧
      headersOf lines = response.headers := by
  constructor
  · intro read
    obtain ⟨text, first, lines, rfl, split⟩ := exists_lines_of_ofHead read
    rw [ofHead_of_lines split] at read
    cases begins : readStatusLine first with
    | error why =>
      rw [begins] at read
      cases read
    | ok statusLine =>
      cases others : readHeaders lines with
      | error why =>
        rw [begins, others] at read
        cases read
      | ok headers =>
        rw [begins, others] at read
        cases read
        obtain ⟨divided, same⟩ := readHeaders_eq_ok_iff.1 others
        exact ⟨lines, .intro split (readStatusLine_eq_ok_iff.1 begins) divided, same⟩
  · intro ⟨lines, grammar, same⟩
    obtain ⟨status, reason, headers⟩ := response
    cases grammar with
    | intro split begins divided =>
      have statusLine := (@readStatusLine_eq_ok_iff _ ⟨status, reason⟩).2 begins
      rw [ofHead_of_lines split, statusLine, readHeaders_eq_ok_iff.2 ⟨divided, same⟩]
      rfl

/-! ## Headers that are looked up -/

theorem foldName_beq_iff {name other : List Char} :
    (foldName name == foldName other) = true ↔ SameName name other := by
  rw [beq_iff_eq, foldName, foldName, String.ofList_inj]
  rfl

theorem header?_eq {response : Response} {lines : List (List Char)}
    (same : headersOf lines = response.headers) (name : String) :
    response.header? name =
      (lines.reverse.find? fun line => foldName (headerOf line).1 == foldName name.toList).map
        fun line => String.ofList (headerOf line).2 := by
  rw [header?, ← same, headersOf, ← List.map_reverse, List.find?_map, Option.map_map]
  rfl

/-- Only lines with a colon are told by the lines of a head. -/
theorem header?_eq_some_iff {response : Response} {lines : List (List Char)}
    (divided : ∀ line ∈ lines, ':' ∈ line) (same : headersOf lines = response.headers)
    {name value : String} :
    response.header? name = some value ↔ LastValue lines name.toList value.toList := by
  rw [header?_eq same, Option.map_eq_some_iff]
  simp only [List.find?_eq_some_iff_append, foldName_beq_iff, Bool.not_eq_true',
    ← Bool.not_eq_true]
  constructor
  · intro ⟨line, ⟨named, later, earlier, parts, others⟩, valued⟩
    rw [List.reverse_eq_append_iff, List.reverse_cons, List.append_assoc,
      List.singleton_append] at parts
    refine ⟨earlier.reverse, line, later.reverse, (headerOf line).1, parts, ?_, named, ?_⟩
    · rw [headerLine_iff, ← valued, String.toList_ofList]
      refine ⟨divided line ?_, rfl⟩
      rw [parts]
      exact List.mem_append_right _ List.mem_cons_self
    · intro other member written _ header sameName
      rw [headerLine_iff] at header
      refine others other (List.mem_reverse.1 member) ?_
      rw [header.2]
      exact sameName
  · intro ⟨earlier, line, later, written, parts, header, named, others⟩
    rw [headerLine_iff] at header
    refine ⟨line, ⟨?_, later.reverse, earlier.reverse, ?_, fun other member sameName => ?_⟩, ?_⟩
    · rw [header.2]
      exact named
    · rw [parts, List.reverse_append, List.reverse_cons, List.append_assoc, List.singleton_append]
    · rw [List.mem_reverse] at member
      have colon : ':' ∈ other := divided other (by simp [parts, member])
      exact others other member _ _ (headerLine_iff.2 ⟨colon, rfl⟩) sameName
    · rw [header.2, String.ofList_toList]

theorem header?_eq_none_iff {response : Response} {lines : List (List Char)}
    (divided : ∀ line ∈ lines, ':' ∈ line) (same : headersOf lines = response.headers)
    {name : String} :
    response.header? name = none ↔
      ∀ line ∈ lines, ∀ written value, HeaderLine line written value →
        ¬ SameName written name.toList := by
  rw [header?_eq same, Option.map_eq_none_iff, List.find?_eq_none]
  simp only [foldName_beq_iff, List.mem_reverse]
  refine forall₂_congr fun line member => ⟨fun other written value header => ?_, fun others => ?_⟩
  · rw [headerLine_iff] at header
    rw [header.2] at other
    exact other
  · exact others _ _ (headerLine_iff.2 ⟨divided line member, rfl⟩)

theorem nodup_eraseDups (names : List String) : names.eraseDups.Nodup := by
  induction length : names.length using Nat.strongRecOn generalizing names with
  | _ size ih =>
    cases names with
    | nil => exact List.nodup_nil
    | cons name names =>
      rw [List.eraseDups_cons, List.nodup_cons]
      refine ⟨fun member => ?_, ih _ ?_ _ rfl⟩
      · rw [List.mem_eraseDups, List.mem_filter, beq_self_eq_true] at member
        exact absurd member.2 (by decide)
      · rw [← length]
        exact Nat.lt_succ_of_le (List.length_filter_le _ _)

theorem exists_names {response : Response} {lines : List (List Char)}
    (divided : ∀ line ∈ lines, ':' ∈ line) (same : headersOf lines = response.headers) :
    ∃ names : List (List Char), names.Nodup ∧
      (∀ name, name ∈ names ↔ ∃ line ∈ lines, ∃ written value,
        HeaderLine line written value ∧ written.map Char.toLower = name) ∧
      response.headerCount = names.length := by
  refine ⟨(response.headers.map (·.1)).eraseDups.map String.toList, ?_, fun name => ?_, ?_⟩
  · refine List.Pairwise.map String.toList (fun _ _ other same => ?_) (nodup_eraseDups _)
    exact other (String.toList_inj.1 same)
  · rw [List.mem_map, ← same]
    simp only [List.mem_eraseDups, headersOf, List.map_map, List.mem_map, Function.comp_apply]
    constructor
    · rintro ⟨_, ⟨line, member, rfl⟩, rfl⟩
      exact ⟨line, member, _, _, headerLine_iff.2 ⟨divided line member, rfl⟩,
        String.toList_ofList.symm⟩
    · rintro ⟨line, member, written, value, header, rfl⟩
      rw [headerLine_iff] at header
      exact ⟨_, ⟨line, member, rfl⟩, by rw [header.2, foldName, String.toList_ofList]⟩
  · rw [headerCount, List.length_map]

/-- The headers of a response are those that its lines tell. The names that are counted are in lower
case. -/
structure Tells (response : Response) (lines : List (List Char)) : Prop where
  found : ∀ name value, response.header? name = some value ↔
    LastValue lines name.toList value.toList
  missing : ∀ name, response.header? name = none ↔ ∀ line ∈ lines, ∀ written value,
    HeaderLine line written value → ¬ SameName written name.toList
  counted : ∃ names : List (List Char), names.Nodup ∧
    (∀ name, name ∈ names ↔ ∃ line ∈ lines, ∃ written value,
      HeaderLine line written value ∧ written.map Char.toLower = name) ∧
    response.headerCount = names.length

theorem tells_of_headersOf {response : Response} {lines : List (List Char)}
    (divided : ∀ line ∈ lines, ':' ∈ line) (same : headersOf lines = response.headers) :
    Tells response lines :=
  ⟨fun _ _ => header?_eq_some_iff divided same, fun _ => header?_eq_none_iff divided same,
    exists_names divided same⟩

/-! ## What is read -/

theorem parse_of_endsAt {octets : Bytes} {size : Nat} (ends : EndsAt octets size) (more : Bytes) :
    parse (octets.take (size + 4) ++ more) = parse octets := by
  have long : size + 4 ≤ octets.length := ((endsAt_append_iff octets []).1 ends).2
  rw [← List.take_append_drop (size + 4) octets] at ends
  have early := (endsAt_append_iff _ _).2 ⟨ends, by rw [List.length_take]; omega⟩
  rw [parse_append_of_end (findHeadEnd_eq_some_iff.2 early),
    ← parse_append_of_end (findHeadEnd_eq_some_iff.2 early), List.take_append_drop]

/-- Octets in which no head ends are too few or too many. A head that ends within the limit is read,
whatever follows, if it has the grammar, and then the response says what is in its lines. Other
heads are malformed or too long. -/
theorem parse_settles (octets : Bytes) :
    (¬ headEnd <:+: octets → parse octets =
      if octets.length ≤ 16384 then .ok none else .error (.headersTooLarge 16384)) ∧
    ∀ size, EndsAt octets size →
      (16384 < size → parse octets = .error (.headersTooLarge 16384)) ∧
      (size ≤ 16384 →
        (∀ status reason lines, Head (octets.take size) status reason lines →
          ∃ response, response.status = status ∧ response.reason = reason ∧ Tells response lines ∧
            ∀ more, parse (octets.take (size + 4) ++ more) = .ok (some (response, size + 4))) ∧
        (∀ response used, parse octets = .ok (some (response, used)) →
          used = size + 4 ∧ ∃ lines,
            Head (octets.take size) response.status response.reason lines ∧ Tells response lines) ∧
        ((∀ status reason lines, ¬ Head (octets.take size) status reason lines) →
          ∃ why, parse octets = .error (.malformed why))) := by
  refine ⟨fun endless => ?endless, fun size ends => ?ended⟩
  case endless =>
    rw [parse, (findHeadEnd_eq_none_iff 0 octets).2 endless]
    by_cases short : octets.length ≤ 16384
    · rw [if_pos short]
      exact if_neg (Nat.not_lt.2 short)
    · rw [if_neg short]
      exact if_pos (Nat.lt_of_not_le short)
  case ended =>
    have found := findHeadEnd_eq_some_iff.2 ends
    refine ⟨parse_of_long found, fun within => ?_⟩
    have read := parse_of_end found within
    refine ⟨fun status reason lines grammar => ?_, fun response used present => ?_, fun other => ?_⟩
    · have head := (@ofHead_eq_ok_iff _ ⟨status, reason, headersOf lines⟩).2
        ⟨lines, grammar, rfl⟩
      rw [head] at read
      refine ⟨_, rfl, rfl, ?_, fun more => (parse_of_endsAt ends more).trans read⟩
      exact tells_of_headersOf grammar.divided rfl
    · rw [read] at present
      cases head : ofHead (octets.take size) with
      | error why =>
        rw [head] at present
        cases present
      | ok known =>
        rw [head] at present
        cases present
        obtain ⟨lines, grammar, same⟩ := ofHead_eq_ok_iff.1 head
        exact ⟨rfl, lines, grammar, tells_of_headersOf grammar.divided same⟩
    · cases head : ofHead (octets.take size) with
      | error why =>
        obtain ⟨reason, rfl⟩ := malformed_of_ofHead head
        rw [head] at read
        exact ⟨reason, read⟩
      | ok response =>
        obtain ⟨lines, grammar, -⟩ := ofHead_eq_ok_iff.1 head
        exact absurd grammar (other _ _ _)

/-- A head with a name that comes twice and a line that ends with a carriage return of its own. -/
def oddHead : String :=
  "HTTP/1. +0101  x\r\nA:1\r\na : 2 :\r\nB:\r"

theorem parse_settles_odd :
    EndsAt (Text.Utf8.encode oddHead ++ headEnd) 35 ∧
      Head (Text.Utf8.encode oddHead) 101 " x" ["A:1".toList, "a : 2 :".toList, "B:\r".toList] ∧
      ∃ response, response.status = 101 ∧ response.reason = " x" ∧
        response.header? "A" = some "2 :" ∧
        ∀ more, parse (Text.Utf8.encode oddHead ++ headEnd ++ more) =
          .ok (some (response, 39)) := by
  have ends : EndsAt (Text.Utf8.encode oddHead ++ headEnd) 35 := by
    rw [← findHeadEnd_eq_some_iff]
    decide +kernel
  have split : splitLines [] oddHead.toList = ["HTTP/1. +0101  x".toList, "A:1".toList,
      "a : 2 :".toList, "B:\r".toList] := by
    decide +kernel
  have begins : readStatusLine "HTTP/1. +0101  x".toList = .ok ⟨101, " x"⟩ := by
    decide +kernel
  have grammar : Head (Text.Utf8.encode oddHead) 101 " x"
      ["A:1".toList, "a : 2 :".toList, "B:\r".toList] :=
    .intro (splitLines_eq_iff.1 split) (readStatusLine_eq_ok_iff.1 begins) (by decide)
  have front : (Text.Utf8.encode oddHead ++ headEnd).take 35 = Text.Utf8.encode oddHead := by
    decide +kernel
  have whole : (Text.Utf8.encode oddHead ++ headEnd).take 39 =
      Text.Utf8.encode oddHead ++ headEnd := by
    decide +kernel
  have settled := parse_settles (Text.Utf8.encode oddHead ++ headEnd)
  obtain ⟨read, -⟩ := (settled.2 35 ends).2 (by decide)
  rw [front] at read
  obtain ⟨response, status, reason, tells, present⟩ := read _ _ _ grammar
  rw [whole] at present
  refine ⟨ends, grammar, response, status, reason, ?_, present⟩
  refine (tells.found "A" "2 :").2 ⟨["A:1".toList], "a : 2 :".toList, ["B:\r".toList], ['a'], rfl,
    headerLine_iff.2 (by decide), by decide, ?_⟩
  intro other member written value header
  rw [List.mem_singleton.1 member, headerLine_iff] at header
  have named : written = ['B'] := (congrArg Prod.fst header.2).symm
  rw [named]
  decide

end Response

end RelayCheck.Upgrade
