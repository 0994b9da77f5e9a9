import RelayCheck.Proofs.Probe.Wait
import RelayCheck.Proofs.Text.Utf8
import RelayCheck.Proofs.Upgrade.Response

/-!
A response however its octets arrive.

A wait looks at its buffer at the ends of chunks only. Where the chunks end makes no difference to
what comes of an upgrade, unless one of them ends inside of the mark at the end of a head that is
almost as long as a head may be. Such a response is refused as too long, although it is accepted
when it arrives at once.
-/

set_option autoImplicit false

namespace RelayCheck.Probe

open Upgrade (Request Response UpgradeError findHeadEnd headEnd maxHead)

/-! ## Waits over chunks -/

/-- How a wait ends with a look, if it does. -/
def WaitEnd.ofLook? {Data Fault : Type} :
    Except Fault (Option (Data × Bytes)) → Option (WaitEnd Data Fault)
  | .error fault => some (.refused fault)
  | .ok none => none
  | .ok (some (data, _)) => some (.found data)

theorem WaitEnd.ofLook?_eq_none_iff {Data Fault : Type}
    {result : Except Fault (Option (Data × Bytes))} :
    WaitEnd.ofLook? result = none ↔ result = .ok none := by
  constructor
  · intro undecided
    cases result with
    | error fault => cases undecided
    | ok parts =>
      cases parts with
      | none => rfl
      | some parts => cases undecided
  · rintro rfl
    rfl

theorem Wait.of_ofLook? {Data Fault : Type} {look : Look Data Fault} {buffer : Bytes}
    {ending : WaitEnd Data Fault} (ended : WaitEnd.ofLook? (look buffer) = some ending)
    (arrivals : List Arrival) : ∃ rest, Wait look buffer arrivals ending rest arrivals := by
  cases seen : look buffer with
  | error fault =>
    rw [seen] at ended
    cases ended
    exact ⟨buffer, .refused seen⟩
  | ok parts =>
    rw [seen] at ended
    cases parts with
    | none => cases ended
    | some parts =>
      cases ended
      exact ⟨parts.2, .found seen⟩

/-- A wait ends with one of the chunks that arrive, or it goes on when they are all in its
buffer. -/
theorem Wait.of_chunks {Data Fault : Type} {look : Look Data Fault} {buffer rest : Bytes}
    {chunks : List Bytes} {tail later : List Arrival} {ending : WaitEnd Data Fault}
    (filled : [] ∉ chunks)
    (wait : Wait look buffer (chunks.map .octets ++ tail) ending rest later) :
    (∃ seen unseen, chunks = seen ++ unseen ∧
        WaitEnd.ofLook? (look (buffer ++ seen.flatten)) = some ending) ∨
      look (buffer ++ chunks.flatten) = .ok none ∧
        Wait look (buffer ++ chunks.flatten) tail ending rest later := by
  induction chunks generalizing buffer with
  | nil =>
    rw [List.flatten_nil, List.append_nil]
    cases ended : WaitEnd.ofLook? (look buffer) with
    | none => exact .inr ⟨WaitEnd.ofLook?_eq_none_iff.1 ended, wait⟩
    | some other =>
      obtain ⟨_, wait'⟩ := Wait.of_ofLook? ended tail
      obtain ⟨rfl, -⟩ := wait.unique wait'
      exact .inl ⟨[], [], rfl, by rwa [List.flatten_nil, List.append_nil]⟩
  | cons chunk chunks ih =>
    cases chunk with
    | nil => exact absurd List.mem_cons_self filled
    | cons first others =>
      rw [List.map_cons, List.cons_append] at wait
      cases wait with
      | found seen =>
        exact .inl ⟨[], _, rfl, by rw [List.flatten_nil, List.append_nil, seen]; rfl⟩
      | refused seen =>
        exact .inl ⟨[], _, rfl, by rw [List.flatten_nil, List.append_nil, seen]; rfl⟩
      | more _ onward =>
        have left := ih (fun member => filled (List.mem_cons_of_mem _ member)) onward
        rw [List.flatten_cons, ← List.append_assoc]
        refine left.imp ?_ id
        rintro ⟨seen, unseen, rfl, ended⟩
        refine ⟨(first :: others) :: seen, unseen, rfl, ?_⟩
        rwa [List.flatten_cons, ← List.append_assoc]

/-! ## The response -/

theorem ofLook?_lookHead_congr {left right : Bytes}
    (same : Response.parse left = Response.parse right) :
    WaitEnd.ofLook? (lookHead left) = WaitEnd.ofLook? (lookHead right) := by
  rw [lookHead, lookHead, same]
  cases Response.parse right with
  | error fault => rfl
  | ok parts =>
    cases parts with
    | none => rfl
    | some parts => rfl

theorem parse_ne_none_of_ofLook? {buffer : Bytes} {ending : WaitEnd Response UpgradeError}
    (ended : WaitEnd.ofLook? (lookHead buffer) = some ending) :
    Response.parse buffer ≠ .ok none := by
  intro missing
  rw [lookHead, missing] at ended
  cases ended

/-- One of some chunks ends inside of the mark at the end of a head, and over the limit. -/
def CutsMark (buffer : Bytes) (chunks : List Bytes) : Prop :=
  ∃ seen unseen, chunks = seen ++ unseen ∧
    Response.CutsMark (buffer ++ seen.flatten) (buffer ++ chunks.flatten)

theorem cutsMark_concat {chunks : List Bytes} {part rest : Bytes}
    (cut : Response.CutsMark (chunks.flatten ++ part) (chunks.flatten ++ part ++ rest)) :
    CutsMark [] (chunks ++ [part, rest]) := by
  refine ⟨chunks ++ [part], [rest], by rw [List.append_assoc]; rfl, ?_⟩
  simpa only [List.nil_append, List.flatten_append, List.flatten_cons, List.flatten_nil,
    List.append_nil, List.append_assoc] using cut

/-- Chunks within the limit do not cut the mark at the end of a head if one more brings the rest of
the response. -/
theorem not_cutsMark_concat {buffer : Bytes} {chunks : List Bytes}
    (within : (buffer ++ chunks.flatten).length ≤ maxHead) (last : Bytes) :
    ¬ CutsMark buffer (chunks ++ [last]) := by
  rintro ⟨seen, unseen, split, size, found, -, exceeds, short⟩
  have front : seen <+: chunks ++ [last] := ⟨unseen, split.symm⟩
  rcases List.prefix_concat_iff.1 front with rfl | ⟨others, rfl⟩
  · have whole : findHeadEnd 0 (buffer ++ (chunks ++ [last]).flatten ++ []) = some size := by
      rwa [List.append_nil]
    cases found.symm.trans (Upgrade.findHeadEnd_of_short whole short)
  · rw [List.flatten_append, ← List.append_assoc, List.length_append] at within
    omega

/-- The mark at the end of a head that is well within the limit is not cut over the limit. -/
theorem not_cutsMark_of_findHeadEnd {buffer : Bytes} {chunks : List Bytes} {size : Nat}
    (found : findHeadEnd 0 (buffer ++ chunks.flatten) = some size) (within : size + 2 < maxHead) :
    ¬ CutsMark buffer chunks := by
  rintro ⟨seen, unseen, split, cut⟩
  obtain ⟨other, again, near, -⟩ := cut.size_near
  cases found.symm.trans again
  omega

/-- A wait for a response ends as it does when all the chunks arrive at once. -/
theorem Wait.of_uncut {buffer rest : Bytes} {chunks : List Bytes} {tail later : List Arrival}
    {ending : WaitEnd Response UpgradeError} (filled : [] ∉ chunks)
    (uncut : ¬ CutsMark buffer chunks)
    (wait : Wait lookHead buffer (chunks.map .octets ++ tail) ending rest later) :
    WaitEnd.ofLook? (lookHead (buffer ++ chunks.flatten)) = some ending ∨
      lookHead (buffer ++ chunks.flatten) = .ok none ∧
        Wait lookHead (buffer ++ chunks.flatten) tail ending rest later := by
  refine (wait.of_chunks filled).imp ?_ id
  rintro ⟨seen, unseen, split, ended⟩
  have whole : buffer ++ chunks.flatten = buffer ++ seen.flatten ++ unseen.flatten := by
    rw [split, List.flatten_append, List.append_assoc]
  have stands : Response.parse (buffer ++ chunks.flatten) =
      Response.parse (buffer ++ seen.flatten) := by
    rw [whole, Response.parse_append_iff (parse_ne_none_of_ofLook? ended), ← whole]
    exact fun cut => uncut ⟨seen, unseen, split, cut⟩
  rwa [ofLook?_lookHead_congr stands]

theorem Wait.ending_of_uncut {buffer rest rest' : Bytes} {chunks others : List Bytes}
    {tail later later' : List Arrival} {ending ending' : WaitEnd Response UpgradeError}
    (filled : [] ∉ chunks) (filled' : [] ∉ others)
    (same : chunks.flatten = others.flatten) (uncut : ¬ CutsMark buffer chunks)
    (uncut' : ¬ CutsMark buffer others)
    (wait : Wait lookHead buffer (chunks.map .octets ++ tail) ending rest later)
    (wait' : Wait lookHead buffer (others.map .octets ++ tail) ending' rest' later') :
    ending = ending' := by
  have verdict := wait.of_uncut filled uncut
  have verdict' := wait'.of_uncut filled' uncut'
  rw [same] at verdict
  rcases verdict with ended | ⟨missing, onward⟩
  · rcases verdict' with ended' | ⟨missing', -⟩
    · exact Option.some.inj (ended.symm.trans ended')
    · rw [missing'] at ended
      cases ended
  · rcases verdict' with ended' | ⟨-, onward'⟩
    · rw [missing] at ended'
      cases ended'
    · exact (onward.unique onward').1

theorem Wait.refused_of_cut {buffer rest : Bytes} {chunks : List Bytes} {tail later : List Arrival}
    {ending : WaitEnd Response UpgradeError} (filled : [] ∉ chunks)
    (cut : CutsMark buffer chunks)
    (wait : Wait lookHead buffer (chunks.map .octets ++ tail) ending rest later) :
    ending = .refused (.headersTooLarge maxHead) := by
  obtain ⟨seen, unseen, rfl, size, found, -, exceeds, short⟩ := cut
  have filledSeen : [] ∉ seen := fun member => filled (List.mem_append_left _ member)
  rw [List.map_append, List.append_assoc] at wait
  -- the chunks up to the cut decide, so nothing is said of the chunks after it
  rcases wait.of_chunks filledSeen with ⟨early, late, rfl, ended⟩ | ⟨missing, -⟩
  · have refused : Response.parse (buffer ++ early.flatten) =
        .error (.headersTooLarge maxHead) := by
      simp only [List.flatten_append, ← List.append_assoc] at found short
      rw [List.append_assoc] at found
      refine Response.parse_of_short found ?_ (parse_ne_none_of_ofLook? ended)
      rw [List.length_append] at short
      omega
    rw [lookHead, refused] at ended
    exact (Option.some.inj ended).symm
  · rw [List.flatten_append, ← List.append_assoc] at found
    rw [lookHead, Response.parse, Upgrade.findHeadEnd_of_short found short] at missing
    simp only [if_pos exceeds] at missing
    cases missing

/-! ## Upgrades -/

theorem Line.send_arrivals (line : Line) (arrivals : List Arrival) (octets : Bytes) :
    ({ line with arrivals } : Line).send octets =
      ((line.send octets).1, { (line.send octets).2 with arrivals }) := by
  cases left : line.departures with
  | nil => simp only [Line.send, left]
  | cons departure departures => cases departure <;> simp only [Line.send, left]

theorem Blocking.upgrade_of_wait (connection : Connection) (request : Request) (now : Instant)
    {buffer rest : Bytes} {arrivals later : List Arrival} {ending : WaitEnd Response UpgradeError}
    (wait : Wait lookHead buffer arrivals ending rest later) :
    (upgrade (connection.advance buffer arrivals) request now).1 =
      match (send connection request.toBytes).1, now.after? connection.timeoutSeconds with
      | .error why, _ => .error (.failed why)
      | .ok (), none => .error .aborted
      | .ok (), some _ => orFailed (headResult connection.address ending) := by
  simp only [upgrade, send, Connection.advance, Line.send_arrivals]
  cases (connection.line.send request.toBytes).1 with
  | failed | stalled => rfl
  | done =>
    dsimp only
    cases now.after? connection.timeoutSeconds with
    | none => rfl
    | some deadline => rw [awaitResponse_of_wait connection.address wait]

theorem Cooperative.upgrade_of_wait (connection : Connection) (request : Request)
    {buffer rest : Bytes} {arrivals later : List Arrival} {ending : WaitEnd Response UpgradeError}
    (wait : Wait lookHead buffer arrivals ending rest later) :
    (upgrade (connection.advance buffer arrivals) request).1 =
      match (send connection request.toBytes).1 with
      | .error why => .error why
      | .ok () => headResult connection.address ending := by
  obtain ⟨task, read, result⟩ := readResponse_of_wait connection.address wait
  simp only [upgrade, send, Connection.advance, Line.send_arrivals]
  cases (connection.line.send request.toBytes).1 with
  | failed | stalled => rfl
  | done =>
    dsimp only [ofSending, underTimer]
    rw [read]
    exact result

/-- A connection to which some chunks are on their way, and then something else. -/
def Connection.awaiting (connection : Connection) (chunks : List Bytes) (tail : List Arrival) :
    Connection :=
  connection.advance connection.buffer (chunks.map .octets ++ tail)

/-- What is said of some octets of a response stands when more arrive, and an upgrade comes to the
same response or error wherever the octets are cut into chunks, unless the mark at the end of a
head is cut over the limit. Then the response is refused as too long. -/
theorem upgrade_of_chunks (front more : Bytes) (connection : Connection) (request : Request)
    (now : Instant) (chunks others : List Bytes) (tail : List Arrival) :
    (Response.parse front ≠ .ok none →
      (Response.parse (front ++ more) = Response.parse front ↔
        ¬ Response.CutsMark front (front ++ more))) ∧
    ([] ∉ chunks → [] ∉ others → chunks.flatten = others.flatten →
      ¬ CutsMark connection.buffer chunks → ¬ CutsMark connection.buffer others →
      (Blocking.upgrade (connection.awaiting chunks tail) request now).1 =
          (Blocking.upgrade (connection.awaiting others tail) request now).1 ∧
        (Cooperative.upgrade (connection.awaiting chunks tail) request).1 =
          (Cooperative.upgrade (connection.awaiting others tail) request).1) ∧
    ([] ∉ chunks → CutsMark connection.buffer chunks →
      (Blocking.awaitResponse connection.address connection.buffer
          (chunks.map .octets ++ tail)).1 =
        .error (.handshake connection.address (.headersTooLarge maxHead)) ∧
      Cooperative.underTimer "handshake response"
          (Cooperative.readResponse connection.address connection.buffer
            (chunks.map .octets ++ tail)).1 =
        .error (.handshake connection.address (.headersTooLarge maxHead))) := by
  refine ⟨fun settled => Response.parse_append_iff settled, ?_, ?_⟩
  · intro filled filled' same uncut uncut'
    obtain ⟨ending, rest, later, wait, -⟩ := Blocking.awaitResponse_waits connection.address
      connection.buffer (chunks.map .octets ++ tail)
    obtain ⟨ending', rest', later', wait', -⟩ := Blocking.awaitResponse_waits connection.address
      connection.buffer (others.map .octets ++ tail)
    obtain rfl := wait.ending_of_uncut filled filled' same uncut uncut' wait'
    constructor
    · rw [Connection.awaiting, Blocking.upgrade_of_wait connection request now wait,
        Connection.awaiting, Blocking.upgrade_of_wait connection request now wait']
    · rw [Connection.awaiting, Cooperative.upgrade_of_wait connection request wait,
        Connection.awaiting, Cooperative.upgrade_of_wait connection request wait']
  · intro filled cut
    constructor
    · obtain ⟨ending, _, _, wait, read⟩ := Blocking.awaitResponse_waits connection.address
        connection.buffer (chunks.map .octets ++ tail)
      obtain rfl := wait.refused_of_cut filled cut
      rw [read]
      rfl
    · obtain ⟨ending, _, _, task, wait, read, result⟩ := Cooperative.readResponse_waits
        connection.address connection.buffer (chunks.map .octets ++ tail)
      obtain rfl := wait.refused_of_cut filled cut
      rw [read, result]
      rfl

/-- The longest head as it is read, in chunks that are full. -/
def longestReads : List Bytes :=
  (Text.Utf8.encode "HTTP/1.1 101 " ++ List.replicate 4083 0x61) ::
    List.replicate 3 (List.replicate readChunk 0x61)

theorem flatten_longestReads : longestReads.flatten = Response.longest := by
  rw [longestReads, List.flatten_cons, List.flatten_replicate_replicate, List.append_assoc,
    List.replicate_append_replicate, Response.longest_eq]
  rfl

theorem length_of_mem_longestReads {chunk : Bytes} (member : chunk ∈ longestReads) :
    chunk.length = readChunk := by
  rcases List.mem_cons.1 member with rfl | repeated
  · rw [List.length_append, List.length_replicate]
    rfl
  · rw [List.eq_of_mem_replicate repeated, List.length_replicate]

theorem nil_not_mem_longestReads : [] ∉ longestReads := fun member =>
  absurd (length_of_mem_longestReads member) (by decide)

theorem cutsMark_longestReads : CutsMark [] (longestReads ++ [[0x0D], [0x0A, 0x0D, 0x0A]]) := by
  refine cutsMark_concat ?_
  rw [flatten_longestReads]
  exact Response.cutsMark_longest

/-- A head of one line may be cut inside of its mark. The longest head is refused if it is. -/
theorem upgrade_of_chunks_line :
    (Cooperative.upgrade (Connection.awaiting ⟨"relay:80", 5, [], .bringing []⟩
          [Text.Utf8.encode "HTTP/1.1 101 \r\n\r", [0x0A]] []) (.withKey "relay" 80 "" "")).1 =
        (Cooperative.upgrade (Connection.awaiting ⟨"relay:80", 5, [], .bringing []⟩
          [Text.Utf8.encode "HTTP/1.1 101 \r\n\r\n"] []) (.withKey "relay" 80 "" "")).1 ∧
      Response.parse (Response.longest ++ [0x0D] ++ [0x0A, 0x0D, 0x0A]) ≠
        Response.parse (Response.longest ++ [0x0D]) ∧
      (Blocking.awaitResponse "relay:80" []
          ((longestReads ++ [[0x0D], [0x0A, 0x0D, 0x0A]]).map .octets)).1 =
        .error (.handshake "relay:80" (.headersTooLarge maxHead)) := by
  refine ⟨?_, ?_, ?_⟩
  · have ends : findHeadEnd 0 (Text.Utf8.encode "HTTP/1.1 101 \r\n\r\n") = some 13 := rfl
    obtain ⟨-, upgrades, -⟩ := upgrade_of_chunks [] [] ⟨"relay:80", 5, [], .bringing []⟩
      (.withKey "relay" 80 "" "") ⟨0⟩ [Text.Utf8.encode "HTTP/1.1 101 \r\n\r", [0x0A]]
      [Text.Utf8.encode "HTTP/1.1 101 \r\n\r\n"] []
    exact (upgrades (by decide) (by decide) rfl (not_cutsMark_of_findHeadEnd ends (by decide))
      (not_cutsMark_of_findHeadEnd ends (by decide))).2
  · obtain ⟨parses, -, -⟩ := upgrade_of_chunks (Response.longest ++ [0x0D]) [0x0A, 0x0D, 0x0A]
      ⟨"relay:80", 5, [], .bringing []⟩ (.withKey "relay" 80 "" "") ⟨0⟩ [] [] []
    have settled : Response.parse (Response.longest ++ [0x0D]) ≠ .ok none := by
      rw [Response.parse_longest_part]
      exact fun same => nomatch same
    exact fun same => (parses settled).1 same Response.cutsMark_longest
  · obtain ⟨-, -, refusals⟩ := upgrade_of_chunks [] [] ⟨"relay:80", 5, [], .bringing []⟩
      (.withKey "relay" 80 "" "") ⟨0⟩ (longestReads ++ [[0x0D], [0x0A, 0x0D, 0x0A]]) [] []
    have refused := (refusals (by simp [nil_not_mem_longestReads]) cutsMark_longestReads).1
    rwa [List.append_nil] at refused

/-- The longest head is refused as too long if a part of its mark is read apart, and accepted if
all of its mark is read at once. -/
theorem upgrade_longest :
    (∀ chunk ∈ longestReads, chunk.length = readChunk) ∧
      (longestReads ++ [[0x0D], [0x0A, 0x0D, 0x0A]]).flatten =
        (longestReads ++ [headEnd]).flatten ∧
      Response.parse (longestReads ++ [[0x0D]]).flatten = .error (.headersTooLarge maxHead) ∧
      Response.parse (longestReads ++ [headEnd]).flatten =
        .ok (some (⟨101, String.ofList (List.replicate 16371 'a'), []⟩, maxHead + 4)) ∧
      (Cooperative.upgrade (Connection.awaiting ⟨"relay:80", 5, [], .bringing []⟩
          (longestReads ++ [[0x0D], [0x0A, 0x0D, 0x0A]]) [])
          (.withKey "relay" 80 "" "")).1 =
        .error (.handshake "relay:80" (.headersTooLarge maxHead)) ∧
      (Cooperative.upgrade (Connection.awaiting ⟨"relay:80", 5, [], .bringing []⟩
          (longestReads ++ [headEnd]) []) (.withKey "relay" 80 "" "")).1 =
        .ok ⟨101, String.ofList (List.replicate 16371 'a'), []⟩ := by
  have part : (longestReads ++ [[0x0D]]).flatten = Response.longest ++ [0x0D] := by
    rw [List.flatten_append, flatten_longestReads]
    rfl
  have whole : (longestReads ++ [headEnd]).flatten =
      Response.longest ++ [0x0D] ++ [0x0A, 0x0D, 0x0A] := by
    rw [List.flatten_append, flatten_longestReads, List.append_assoc]
    rfl
  refine ⟨fun chunk => length_of_mem_longestReads, ?_, ?_, ?_, ?_, ?_⟩
  · rw [List.flatten_append, List.flatten_append]
    rfl
  · rw [part, Response.parse_longest_part]
  · rw [whole, Response.parse_longest]
  · obtain ⟨ending, _, _, wait, -⟩ := Blocking.awaitResponse_waits "relay:80" []
      ((longestReads ++ [[0x0D], [0x0A, 0x0D, 0x0A]]).map .octets ++ [])
    obtain rfl := wait.refused_of_cut (by simp [nil_not_mem_longestReads]) cutsMark_longestReads
    exact Cooperative.upgrade_of_wait ⟨"relay:80", 5, [], .bringing []⟩
      (.withKey "relay" 80 "" "") wait
  · obtain ⟨ending, _, _, wait, -⟩ := Blocking.awaitResponse_waits "relay:80" []
      ((longestReads ++ [headEnd]).map .octets ++ [])
    have filled : [] ∉ longestReads ++ [headEnd] := by
      simp [nil_not_mem_longestReads, headEnd]
    have within : (([] : Bytes) ++ longestReads.flatten).length ≤ maxHead := by
      rw [List.nil_append, flatten_longestReads]
      exact Nat.le_of_eq Response.length_longest
    have seen : WaitEnd.ofLook? (lookHead ([] ++ (longestReads ++ [headEnd]).flatten)) =
        some (.found ⟨101, String.ofList (List.replicate 16371 'a'), []⟩) := by
      rw [List.nil_append, whole, lookHead, Response.parse_longest]
      rfl
    rcases wait.of_uncut filled (not_cutsMark_concat within headEnd) with ended | ⟨missing, -⟩
    · cases seen.symm.trans ended
      exact Cooperative.upgrade_of_wait ⟨"relay:80", 5, [], .bringing []⟩
        (.withKey "relay" 80 "" "") wait
    · rw [missing] at seen
      cases seen

end RelayCheck.Probe
