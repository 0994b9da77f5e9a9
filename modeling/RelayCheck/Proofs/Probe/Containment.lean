import Mathlib.Data.Stream.Init
import RelayCheck.Proofs.Probe.Call
import RelayCheck.Proofs.Upgrade.Response

/-!
How much a relay can make a connection hold, and for how long it can make it read.

A wait reads on only while a look at its buffer finds too little, and too little is never much. So
the buffer stays small whatever the relay sends, and the wait comes to its end even if the relay
never stops to send.
-/

set_option autoImplicit false

namespace RelayCheck.Probe

open Upgrade (Request Response maxHead)

variable {Data Fault Result : Type} {look : Look Data Fault} {bound : Nat}

/-- No read brings more than it has room for. -/
def Chunked (arrivals : List Arrival) : Prop :=
  ∀ chunk, .octets chunk ∈ arrivals → chunk.length ≤ readChunk

/-- The states that a wait comes through: how many reads have brought octets so far, the buffer and
the arrivals that are still ahead. -/
inductive Reading (look : Look Data Fault) (buffer : Bytes) (arrivals : List Arrival) :
    Nat → Bytes → List Arrival → Prop
  | start : Reading look buffer arrivals 0 buffer arrivals
  | read {count : Nat} {held others : Bytes} {first : UInt8} {later : List Arrival}
      (reading : Reading look buffer arrivals count held (.octets (first :: others) :: later))
      (missing : look held = .ok none) :
      Reading look buffer arrivals (count + 1) (held ++ first :: others) later

/-- A loop that starts with a buffer and some arrivals ahead never holds more than `size` octets
and never reads more than `reads` times, whatever else the relay would send. -/
structure ContainedLoop (look : Look Data Fault)
    (loop : Bytes → List Arrival → Result × Bytes × List Arrival) (size reads : Nat)
    (buffer : Bytes) (arrivals : List Arrival) : Prop where
  /-- It makes no difference to start at a state on the way. -/
  passes {count : Nat} {held : Bytes} {ahead : List Arrival}
    (reading : Reading look buffer arrivals count held ahead) :
    loop held ahead = loop buffer arrivals
  holds {count : Nat} {held : Bytes} {ahead : List Arrival}
    (reading : Reading look buffer arrivals count held ahead) :
    held.length ≤ size ∧ count ≤ reads
  leaves : (loop buffer arrivals).2.1.length ≤ size
  takes : arrivals.length ≤ (loop buffer arrivals).2.2.length + reads
  /-- Of a relay that never stops only so many arrivals matter, and all others are left. -/
  ends (endless : Stream' Arrival) :
    ∃ count result rest, count ≤ reads ∧
      ∀ later, loop buffer (endless.take count ++ later) = (result, rest, later)

/-! ## Loops -/

/-- A look finds too little in so many octets at most, and leaves no more than it has seen. -/
structure Bounded (look : Look Data Fault) (bound : Nat) : Prop where
  missing {held : Bytes} (seen : look held = .ok none) : held.length ≤ bound
  rest {held rest : Bytes} {data : Data} (seen : look held = .ok (some (data, rest))) :
    rest.length ≤ held.length

/-- A loop waits, and its result tells how the wait ends. -/
def IsWait (look : Look Data Fault)
    (loop : Bytes → List Arrival → Result × Bytes × List Arrival) : Prop :=
  ∃ result : WaitEnd Data Fault → Result, ∀ buffer arrivals, ∃ ending rest later,
    Wait look buffer arrivals ending rest later ∧
      loop buffer arrivals = (result ending, rest, later)

theorem Chunked.tail {arrival : Arrival} {later : List Arrival}
    (chunked : Chunked (arrival :: later)) : Chunked later :=
  fun chunk member => chunked chunk (List.mem_cons_of_mem _ member)

/-- The one step on the way: what is too little stays within the bound, and a read adds a chunk. -/
theorem Bounded.length_append_le (bounded : Bounded look bound) {held chunk : Bytes}
    {later : List Arrival} (missing : look held = .ok none)
    (chunked : Chunked (.octets chunk :: later)) :
    (held ++ chunk).length ≤ bound + readChunk := by
  have little := bounded.missing missing
  have chunkSmall := chunked chunk List.mem_cons_self
  rw [List.length_append]
  omega

theorem Reading.wait {buffer held rest : Bytes} {arrivals ahead later : List Arrival} {count : Nat}
    {ending : WaitEnd Data Fault} (reading : Reading look buffer arrivals count held ahead)
    (onward : Wait look held ahead ending rest later) :
    Wait look buffer arrivals ending rest later := by
  induction reading with
  | start => exact onward
  | read _ missing ih => exact ih (.more missing onward)

theorem Reading.count_le_length {buffer held : Bytes} {arrivals ahead : List Arrival} {count : Nat}
    (reading : Reading look buffer arrivals count held ahead) : count ≤ held.length := by
  induction reading with
  | start => exact Nat.zero_le _
  | read _ _ ih =>
    rw [List.length_append, List.length_cons]
    omega

theorem Reading.chunked {buffer held : Bytes} {arrivals ahead : List Arrival} {count : Nat}
    (reading : Reading look buffer arrivals count held ahead) (chunked : Chunked arrivals) :
    Chunked ahead := by
  induction reading with
  | start => exact chunked
  | read _ _ ih => exact ih.tail

theorem Reading.holds (bounded : Bounded look bound) {buffer held : Bytes}
    {arrivals ahead : List Arrival} {count : Nat}
    (reading : Reading look buffer arrivals count held ahead) (chunked : Chunked arrivals)
    (small : buffer.length ≤ bound + readChunk) :
    held.length ≤ bound + readChunk ∧ count ≤ bound + 1 := by
  cases reading with
  | start => exact ⟨small, Nat.zero_le _⟩
  | read reading missing =>
    have few := reading.count_le_length
    have little := bounded.missing missing
    exact ⟨bounded.length_append_le missing (reading.chunked chunked), by omega⟩

theorem Wait.contained (bounded : Bounded look bound) {buffer rest : Bytes}
    {arrivals later : List Arrival} {ending : WaitEnd Data Fault}
    (wait : Wait look buffer arrivals ending rest later) (chunked : Chunked arrivals)
    (small : buffer.length ≤ bound + readChunk) :
    rest.length ≤ bound + readChunk ∧ Chunked later := by
  induction wait with
  | found seen => exact ⟨Nat.le_trans (bounded.rest seen) small, chunked⟩
  | refused | ended => exact ⟨small, chunked⟩
  | hungUp | timedOut | failed => exact ⟨small, chunked.tail⟩
  | more missing _ ih => exact ih chunked.tail (bounded.length_append_le missing chunked)

/-- Every read that brings octets takes something of what is left of the bound. -/
theorem Wait.arrivals_length_le (bounded : Bounded look bound) {buffer rest : Bytes}
    {arrivals later : List Arrival} {ending : WaitEnd Data Fault}
    (wait : Wait look buffer arrivals ending rest later) :
    arrivals.length ≤ later.length + (bound + 1 - buffer.length) := by
  induction wait with
  | found | refused | ended => exact Nat.le_add_right _ _
  | hungUp missing | timedOut missing | failed missing =>
    have little := bounded.missing missing
    rw [List.length_cons]
    omega
  | more missing _ ih =>
    have little := bounded.missing missing
    rw [List.length_append, List.length_cons] at ih
    rw [List.length_cons]
    omega

theorem Bounded.exists_wait (bounded : Bounded look bound) (buffer : Bytes)
    (endless : Stream' Arrival) :
    ∃ count ending rest, count ≤ bound + 1 - buffer.length ∧
      ∀ later, Wait look buffer (endless.take count ++ later) ending rest later := by
  match seen : look buffer with
  | .error fault => exact ⟨0, _, _, Nat.zero_le _, fun _ => .refused seen⟩
  | .ok (some (data, rest)) => exact ⟨0, _, _, Nat.zero_le _, fun _ => .found seen⟩
  | .ok none =>
    have little := bounded.missing seen
    obtain ⟨arrival, others, rfl⟩ : ∃ arrival others, endless = Stream'.cons arrival others :=
      ⟨endless.head, endless.tail, (Stream'.eta endless).symm⟩
    -- only an arrival that brings octets does not end the wait, and there are few of these left
    match arrival with
    | .octets [] => exact ⟨1, _, _, by omega, fun _ => .hungUp seen⟩
    | .timedOut => exact ⟨1, _, _, by omega, fun _ => .timedOut seen⟩
    | .failed reason => exact ⟨1, _, _, by omega, fun _ => .failed seen⟩
    | .octets (first :: chunk) =>
      have longer : (buffer ++ first :: chunk).length = buffer.length + chunk.length + 1 := by
        rw [List.length_append, List.length_cons, Nat.add_assoc]
      obtain ⟨count, ending, rest, few, wait⟩ :=
        bounded.exists_wait (buffer ++ first :: chunk) others
      exact ⟨count + 1, ending, rest, by omega, fun later => .more seen (wait later)⟩
termination_by bound + 1 - buffer.length

theorem IsWait.contained {loop : Bytes → List Arrival → Result × Bytes × List Arrival}
    (waits : IsWait look loop) (bounded : Bounded look bound) {buffer : Bytes}
    {arrivals : List Arrival} (chunked : Chunked arrivals)
    (small : buffer.length ≤ bound + readChunk) :
    ContainedLoop look loop (bound + readChunk) (bound + 1) buffer arrivals := by
  obtain ⟨result, waits⟩ := waits
  have loop_eq {buffer rest : Bytes} {arrivals later : List Arrival}
      {ending : WaitEnd Data Fault} (wait : Wait look buffer arrivals ending rest later) :
      loop buffer arrivals = (result ending, rest, later) := by
    obtain ⟨ending', rest', later', wait', read⟩ := waits buffer arrivals
    obtain ⟨rfl, rfl, rfl⟩ := wait.unique wait'
    exact read
  constructor
  · intro count held ahead reading
    obtain ⟨ending, rest, later, wait, read⟩ := waits held ahead
    rw [read, loop_eq (reading.wait wait)]
  · intro count held ahead reading
    exact reading.holds bounded chunked small
  · obtain ⟨ending, rest, later, wait, read⟩ := waits buffer arrivals
    rw [read]
    exact (wait.contained bounded chunked small).1
  · obtain ⟨ending, rest, later, wait, read⟩ := waits buffer arrivals
    have few := wait.arrivals_length_le bounded
    rw [read]
    dsimp only
    omega
  · intro endless
    obtain ⟨count, ending, rest, few, wait⟩ := bounded.exists_wait buffer endless
    exact ⟨count, result ending, rest, by omega, fun later => loop_eq (wait later)⟩

/-- A task is under its timer for as long as its loop reads. -/
def Cooperative.timed (awaited : String)
    (loop : Bytes → List Arrival → Except Interruption Data × Bytes × List Arrival)
    (buffer : Bytes) (arrivals : List Arrival) : Except ProbeError Data × Bytes × List Arrival :=
  let (task, rest, later) := loop buffer arrivals
  (underTimer awaited task, rest, later)

theorem Blocking.isWait_awaitResponse (address : String) :
    IsWait lookHead (awaitResponse address) :=
  ⟨headResult address, awaitResponse_waits address⟩

theorem Cooperative.isWait_readResponse (address : String) :
    IsWait lookHead (timed "handshake response" (readResponse address)) := by
  refine ⟨headResult address, fun buffer arrivals => ?_⟩
  obtain ⟨ending, rest, later, task, wait, read, result⟩ :=
    readResponse_waits address buffer arrivals
  refine ⟨ending, rest, later, wait, ?_⟩
  rw [timed, read, ← result]

theorem Blocking.isWait_awaitReplies : IsWait lookReplies awaitReplies :=
  ⟨repliesResult, awaitReplies_waits⟩

theorem Cooperative.isWait_readFrames :
    IsWait lookReplies (timed "relay reply" readFrames) := by
  refine ⟨repliesResult, fun buffer arrivals => ?_⟩
  obtain ⟨ending, rest, later, task, wait, read, result⟩ := readFrames_waits buffer arrivals
  refine ⟨ending, rest, later, wait, ?_⟩
  rw [timed, read, ← result]

/-! ## Looks -/

theorem bounded_lookHead : Bounded lookHead maxHead where
  missing seen := by
    rw [lookHead] at seen
    split at seen
    · cases seen
    · next missing => exact Response.length_le_of_parse_eq_none missing
    · cases seen
  rest seen := by
    rw [lookHead] at seen
    split at seen
    · cases seen
    · cases seen
    · cases seen
      rw [List.length_drop]
      exact Nat.sub_le _ _

theorem bounded_lookReplies : Bounded lookReplies (maxReplyPayload + 13) where
  missing seen := Frame.length_le_of_decode_eq_none (lookReplies_eq_none_iff.1 seen)
  rest seen := by
    obtain ⟨frames, -, sequence⟩ := sequence_of_lookReplies seen
    exact sequence.length_le

/-! ## Connections -/

/-- A connection has no more in its buffer than a wait for replies may leave there. -/
structure Small (connection : Connection) : Prop where
  buffer : connection.buffer.length ≤ maxReplyPayload + 13 + readChunk
  chunked : Chunked connection.line.arrivals

theorem Attempted.length_le {connection next : Connection} {response : Option Response}
    (attempted : Attempted connection response next) (empty : connection.buffer = [])
    (chunked : Chunked connection.line.arrivals) :
    next.buffer.length ≤ maxHead + readChunk ∧ Chunked next.line.arrivals ∧
      connection.line.arrivals.length ≤ next.line.arrivals.length + (maxHead + 1) := by
  have small : connection.buffer.length ≤ maxHead + readChunk := by
    rw [empty]
    exact Nat.zero_le _
  cases attempted with
  | idle buffer arrivals =>
    refine ⟨buffer ▸ small, arrivals ▸ chunked, ?_⟩
    rw [arrivals]
    exact Nat.le_add_right _ _
  | waited wait =>
    obtain ⟨kept, later⟩ := wait.contained bounded_lookHead chunked small
    have few := wait.arrivals_length_le bounded_lookHead
    exact ⟨kept, later, by omega⟩

theorem Called.small {connection next : Connection} {replies : List Reply}
    (called : Called connection replies next) (small : Small connection) : Small next := by
  cases called with
  | idle buffer arrivals => exact ⟨buffer ▸ small.buffer, arrivals ▸ small.chunked⟩
  | waited wait =>
    obtain ⟨rest, later⟩ := wait.contained bounded_lookReplies small.chunked small.buffer
    exact ⟨rest, later⟩

/-- Both loops of a way to run a probe are contained: the one for the response on a line that
nothing has been read from, and the one for replies after the upgrade and some calls. -/
structure Contained {First Second : Type}
    (awaitResponse : Bytes → List Arrival → First × Bytes × List Arrival)
    (awaitReplies : Bytes → List Arrival → Second × Bytes × List Arrival)
    (perform : Connection → Call → List Reply × Connection) (line : Line)
    (upgraded : Connection) : Prop where
  response : ContainedLoop lookHead awaitResponse (maxHead + readChunk) (maxHead + 1) []
    line.arrivals
  kept : upgraded.buffer.length ≤ maxHead + readChunk
  taken : line.arrivals.length ≤ upgraded.line.arrivals.length + (maxHead + 1)
  replies (calls : List Call) {after : Connection}
    (performed : (performAll perform upgraded calls).2 = after) :
    ContainedLoop lookReplies awaitReplies (maxReplyPayload + 13 + readChunk)
      (maxReplyPayload + 14) after.buffer after.line.arrivals

theorem Attempted.contained {First Second : Type}
    {awaitResponse : Bytes → List Arrival → First × Bytes × List Arrival}
    {awaitReplies : Bytes → List Arrival → Second × Bytes × List Arrival}
    {perform : Connection → Call → List Reply × Connection} {connection upgraded : Connection}
    {response : Option Response} (attempted : Attempted connection response upgraded)
    (responseWaits : IsWait lookHead awaitResponse) (repliesWait : IsWait lookReplies awaitReplies)
    (called : ∀ connection call,
      Called connection (perform connection call).1 (perform connection call).2)
    (empty : connection.buffer = []) (chunked : Chunked connection.line.arrivals) :
    Contained awaitResponse awaitReplies perform connection.line upgraded := by
  obtain ⟨kept, later, taken⟩ := attempted.length_le empty chunked
  have small : Small upgraded := ⟨Nat.le_trans kept (by decide), later⟩
  refine ⟨responseWaits.contained bounded_lookHead chunked (Nat.zero_le _), kept, taken, ?_⟩
  intro calls after performed
  subst performed
  have still := performAll_keeps called Called.small calls small
  exact repliesWait.contained bounded_lookReplies still.chunked still.buffer

/-- Whatever a relay sends, a connection to it holds no more than the limit of what it waits for
and a chunk, and waits for no more reads than that limit has octets, and one. -/
theorem upgrade_contained (config : Config) (line : Line) (request : Request) (now : Instant)
    (chunked : Chunked line.arrivals) :
    Contained (Blocking.awaitResponse config.address) Blocking.awaitReplies Blocking.perform line
        (Blocking.upgrade (.new config line) request now).2 ∧
      Contained (Cooperative.timed "handshake response" (Cooperative.readResponse config.address))
        (Cooperative.timed "relay reply" Cooperative.readFrames) Cooperative.perform line
        (Cooperative.upgrade (.new config line) request).2 := by
  constructor
  · exact (Blocking.upgrade_attempted (.new config line) request now).contained
      (Blocking.isWait_awaitResponse _) Blocking.isWait_awaitReplies Blocking.perform_called rfl
      chunked
  · exact (Cooperative.upgrade_attempted (.new config line) request).contained
      (Cooperative.isWait_readResponse _) Cooperative.isWait_readFrames Cooperative.perform_called
      rfl chunked

/-- A relay that sends nothing but letters, as many at a time as a read brings. -/
def lettersLine (count : Nat) : Line where
  departures := []
  arrivals := List.replicate count (.octets (List.replicate readChunk 0x61))
  sent := []

theorem chunked_lettersLine (count : Nat) : Chunked (lettersLine count).arrivals := by
  intro chunk member
  cases List.eq_of_mem_replicate member
  rw [List.length_replicate]

theorem lookHead_letters {count : Nat} (few : count ≤ maxHead) :
    lookHead (List.replicate count 0x61) = .ok none := by
  have plain : 0x0D ∉ List.replicate count (0x61 : UInt8) :=
    fun member => absurd (List.eq_of_mem_replicate member) (by decide)
  have endless := Upgrade.findHeadEnd_append_of_not_mem plain 0 []
  rw [List.append_nil] at endless
  have missing : Response.parse (List.replicate count 0x61) = .ok none := by
    rw [Response.parse, endless, List.length_replicate]
    exact if_neg (Nat.not_lt.2 few)
  rw [lookHead, missing]

theorem reading_lettersLine {count : Nat} (others : Nat)
    (few : count * readChunk ≤ maxHead + readChunk) :
    Reading lookHead [] (lettersLine (count + others)).arrivals count
      (List.replicate (count * readChunk) 0x61) (lettersLine others).arrivals := by
  induction count generalizing others with
  | zero =>
    rw [Nat.zero_add, Nat.zero_mul]
    exact .start
  | succ count ih =>
    rw [Nat.succ_mul] at few ⊢
    have fewer : count * readChunk ≤ maxHead := Nat.le_of_add_le_add_right few
    rw [Nat.add_assoc, Nat.add_comm 1, ← List.replicate_append_replicate]
    exact .read (ih (others + 1) (by omega)) (lookHead_letters fewer)

/-- Letters that are no head fill the buffer up to its bound before they are refused. -/
theorem upgrade_contained_letters :
    Chunked (lettersLine 5).arrivals ∧
      Contained (Blocking.awaitResponse "127.0.0.1:8080") Blocking.awaitReplies Blocking.perform
        (lettersLine 5)
        (Blocking.upgrade (.new .default (lettersLine 5)) (.withKey "relay" 80 "" "") ⟨0⟩).2 ∧
      Reading lookHead [] (lettersLine 5).arrivals 5
        (List.replicate (maxHead + readChunk) 0x61) [] := by
  have chunked := chunked_lettersLine 5
  obtain ⟨blocking, -⟩ :=
    upgrade_contained .default (lettersLine 5) (.withKey "relay" 80 "" "") ⟨0⟩ chunked
  exact ⟨chunked, blocking, reading_lettersLine 0 (by decide)⟩

end RelayCheck.Probe
