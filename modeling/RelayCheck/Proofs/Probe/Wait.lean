import RelayCheck.Probe.Blocking
import RelayCheck.Probe.Cooperative

/-!
Waiting for a relay.

A wait looks at its buffer whenever octets have arrived, until it finds what it waits for or cannot
go on. How a wait ends is a relation that leaves nothing open, and both ways to run a probe wait in
this way, for the response and for replies.
-/

set_option autoImplicit false

namespace RelayCheck

namespace Frame

theorem readAllFrom_fst_eq_append (limit : Nat) (done : List Frame) (octets : Bytes) :
    ∃ others, (readAllFrom limit done octets).1 = done.reverse ++ others := by
  induction done, octets using readAllFrom.induct limit with
  | case1 done octets why found =>
    rw [readAllFrom]
    split <;> simp_all
  | case2 done octets found =>
    rw [readAllFrom]
    split <;> simp_all
  | case3 done octets frame rest found ih =>
    obtain ⟨others, front⟩ := ih
    rw [readAllFrom]
    split <;> simp_all

theorem rest_of_readAll_nil {limit : Nat} {octets rest : Bytes} {why : Option FrameError}
    (found : readAll limit octets = ([], why, rest)) : rest = octets := by
  rw [readAll, readAllFrom] at found
  split at found
  · exact (Prod.mk.inj (Prod.mk.inj found).2).2.symm
  · exact (Prod.mk.inj (Prod.mk.inj found).2).2.symm
  · next frame later _ =>
    obtain ⟨others, first⟩ := readAllFrom_fst_eq_append limit [frame] later
    rw [found] at first
    cases first

end Frame

namespace Probe

open Upgrade (Response UpgradeError)

inductive WaitEnd (Data Fault : Type)
  | found (data : Data)
  /-- What has arrived is something else. -/
  | refused (fault : Fault)
  | hungUp
  | timedOut
  | failed (reason : String)

/-- A look at a buffer: what was waited for and the octets after it, if it is there in full. -/
abbrev Look (Data Fault : Type) := Bytes → Except Fault (Option (Data × Bytes))

/-- A wait with a buffer and some arrivals ahead ends in some way, with a buffer and the arrivals
that are left. -/
inductive Wait {Data Fault : Type} (look : Look Data Fault) :
    Bytes → List Arrival → WaitEnd Data Fault → Bytes → List Arrival → Prop
  | found {buffer rest : Bytes} {arrivals : List Arrival} {data : Data}
      (seen : look buffer = .ok (some (data, rest))) :
      Wait look buffer arrivals (.found data) rest arrivals
  | refused {buffer : Bytes} {arrivals : List Arrival} {fault : Fault}
      (seen : look buffer = .error fault) :
      Wait look buffer arrivals (.refused fault) buffer arrivals
  | ended {buffer : Bytes} (seen : look buffer = .ok none) :
      Wait look buffer [] .hungUp buffer []
  | hungUp {buffer : Bytes} {later : List Arrival} (seen : look buffer = .ok none) :
      Wait look buffer (.octets [] :: later) .hungUp buffer later
  | timedOut {buffer : Bytes} {later : List Arrival} (seen : look buffer = .ok none) :
      Wait look buffer (.timedOut :: later) .timedOut buffer later
  | failed {buffer : Bytes} {later : List Arrival} {reason : String}
      (seen : look buffer = .ok none) :
      Wait look buffer (.failed reason :: later) (.failed reason) buffer later
  | more {buffer rest : Bytes} {first : UInt8} {others : Bytes} {arrivals later : List Arrival}
      {ending : WaitEnd Data Fault} (seen : look buffer = .ok none)
      (onward : Wait look (buffer ++ first :: others) arrivals ending rest later) :
      Wait look buffer (.octets (first :: others) :: arrivals) ending rest later

namespace Wait

variable {Data Fault : Type} {look : Look Data Fault}

/-- A wait ends in one way only. -/
theorem unique {buffer rest rest' : Bytes} {arrivals later later' : List Arrival}
    {ending ending' : WaitEnd Data Fault} (wait : Wait look buffer arrivals ending rest later)
    (other : Wait look buffer arrivals ending' rest' later') :
    ending = ending' ∧ rest = rest' ∧ later = later' := by
  induction wait with
  | found seen =>
    cases other with
    | found seen' =>
      cases seen.symm.trans seen'
      exact ⟨rfl, rfl, rfl⟩
    | refused seen' | ended seen' | hungUp seen' | timedOut seen' | failed seen' | more seen' =>
      cases seen.symm.trans seen'
  | refused seen =>
    cases other with
    | refused seen' =>
      cases seen.symm.trans seen'
      exact ⟨rfl, rfl, rfl⟩
    | found seen' | ended seen' | hungUp seen' | timedOut seen' | failed seen' | more seen' =>
      cases seen.symm.trans seen'
  | ended seen =>
    cases other with
    | ended => exact ⟨rfl, rfl, rfl⟩
    | found seen' | refused seen' => cases seen.symm.trans seen'
  | hungUp seen =>
    cases other with
    | hungUp => exact ⟨rfl, rfl, rfl⟩
    | found seen' | refused seen' => cases seen.symm.trans seen'
  | timedOut seen =>
    cases other with
    | timedOut => exact ⟨rfl, rfl, rfl⟩
    | found seen' | refused seen' => cases seen.symm.trans seen'
  | failed seen =>
    cases other with
    | failed => exact ⟨rfl, rfl, rfl⟩
    | found seen' | refused seen' => cases seen.symm.trans seen'
  | more seen _ ih =>
    cases other with
    | more _ onward => exact ih onward
    | found seen' | refused seen' => cases seen.symm.trans seen'

/-- What is found has arrived in some chunks of octets, and what is left came after them. -/
theorem chunks_of_found {buffer rest : Bytes} {arrivals later : List Arrival} {data : Data}
    (wait : Wait look buffer arrivals (.found data) rest later) :
    ∃ chunks : List Bytes, arrivals = chunks.map .octets ++ later ∧
      look (buffer ++ chunks.flatten) = .ok (some (data, rest)) := by
  generalize known : WaitEnd.found data = ending at wait
  induction wait with
  | found seen =>
    cases known
    exact ⟨[], rfl, by rwa [List.flatten_nil, List.append_nil]⟩
  | @more _ _ first others _ _ _ _ _ ih =>
    obtain ⟨chunks, rfl, seen⟩ := ih known
    exact ⟨(first :: others) :: chunks, rfl, by rwa [List.flatten_cons, ← List.append_assoc]⟩
  | refused | ended | hungUp | timedOut | failed => cases known

theorem seen_of_refused {buffer rest : Bytes} {arrivals later : List Arrival} {fault : Fault}
    (wait : Wait look buffer arrivals (.refused fault) rest later) : look rest = .error fault := by
  generalize known : WaitEnd.refused fault = ending at wait
  induction wait with
  | refused seen =>
    cases known
    exact seen
  | more _ _ ih => exact ih known
  | found | ended | hungUp | timedOut | failed => cases known

end Wait

namespace Cooperative

variable {Data Fault : Type} {look : Look Data Fault}

theorem wait_of_interrupted {buffer : Bytes} {arrivals later : List Arrival} {why : Interruption}
    (missing : look buffer = .ok none) (received : receive arrivals = (.error why, later)) :
    (why = .elapsed ∧ Wait look buffer arrivals .timedOut buffer later) ∨
      ∃ reason, why = .failed (.io reason) ∧
        Wait look buffer arrivals (.failed reason) buffer later := by
  match arrivals with
  | [] | .octets _ :: _ => cases received
  | .timedOut :: _ =>
    cases received
    exact .inl ⟨rfl, .timedOut missing⟩
  | .failed reason :: _ =>
    cases received
    exact .inr ⟨reason, rfl, .failed missing⟩

theorem wait_of_hungUp {buffer : Bytes} {arrivals later : List Arrival}
    (missing : look buffer = .ok none) (received : receive arrivals = (.ok [], later)) :
    Wait look buffer arrivals .hungUp buffer later := by
  match arrivals with
  | [] =>
    cases received
    exact .ended missing
  | .octets _ :: _ =>
    cases received
    exact .hungUp missing
  | .timedOut :: _ | .failed _ :: _ => cases received

theorem wait_of_receive {buffer chunk rest : Bytes} {arrivals onward later : List Arrival}
    {ending : WaitEnd Data Fault} (missing : look buffer = .ok none)
    (received : receive arrivals = (.ok chunk, onward)) (continued : chunk ≠ [])
    (wait : Wait look (buffer ++ chunk) onward ending rest later) :
    Wait look buffer arrivals ending rest later := by
  match arrivals with
  | [] =>
    cases received
    exact absurd rfl continued
  | .octets [] :: _ =>
    cases received
    exact absurd rfl continued
  | .octets (_ :: _) :: _ =>
    cases received
    exact .more missing wait
  | .timedOut :: _ | .failed _ :: _ => cases received

end Cooperative

/-! ## The response -/

def lookHead : Look Response UpgradeError := fun buffer =>
  match Response.parse buffer with
  | .error fault => .error fault
  | .ok none => .ok none
  | .ok (some (response, used)) => .ok (some (response, buffer.drop used))

def headResult (address : String) : WaitEnd Response UpgradeError → Except ProbeError Response
  | .found response => .ok response
  | .refused fault => .error (.handshake address fault)
  | .hungUp => .error (Connection.hungUp address)
  | .timedOut => .error (.timeout "handshake response")
  | .failed reason => .error (.io reason)

theorem Blocking.awaitResponse_waits (address : String) (buffer : Bytes)
    (arrivals : List Arrival) :
    ∃ ending rest later, Wait lookHead buffer arrivals ending rest later ∧
      awaitResponse address buffer arrivals = (headResult address ending, rest, later) := by
  fun_induction awaitResponse address buffer arrivals with
  | case1 arrivals buffer fault parsed =>
    exact ⟨.refused fault, _, _, .refused (by rw [lookHead, parsed]), rfl⟩
  | case2 arrivals buffer response used parsed =>
    exact ⟨.found response, _, _, .found (by rw [lookHead, parsed]), rfl⟩
  | case3 buffer parsed => exact ⟨.hungUp, _, _, .ended (by rw [lookHead, parsed]), rfl⟩
  | case4 buffer parsed => exact ⟨.timedOut, _, _, .timedOut (by rw [lookHead, parsed]), rfl⟩
  | case5 buffer parsed reason =>
    exact ⟨.failed reason, _, _, .failed (by rw [lookHead, parsed]), rfl⟩
  | case6 buffer parsed => exact ⟨.hungUp, _, _, .hungUp (by rw [lookHead, parsed]), rfl⟩
  | case7 buffer parsed first others later ih =>
    obtain ⟨ending, rest, left, wait, same⟩ := ih
    exact ⟨ending, rest, left, .more (by rw [lookHead, parsed]) wait, same⟩

theorem Cooperative.readResponse_waits (address : String) (buffer : Bytes)
    (arrivals : List Arrival) :
    ∃ ending rest later task, Wait lookHead buffer arrivals ending rest later ∧
      readResponse address buffer arrivals = (task, rest, later) ∧
      underTimer "handshake response" task = headResult address ending := by
  fun_induction readResponse address buffer arrivals with
  | case1 buffer arrivals fault parsed =>
    exact ⟨.refused fault, _, _, _, .refused (by rw [lookHead, parsed]), rfl, rfl⟩
  | case2 buffer arrivals response used parsed =>
    exact ⟨.found response, _, _, _, .found (by rw [lookHead, parsed]), rfl, rfl⟩
  | case3 buffer arrivals parsed why later received =>
    have missing : lookHead buffer = .ok none := by rw [lookHead, parsed]
    rcases wait_of_interrupted missing received with ⟨rfl, wait⟩ | ⟨reason, rfl, wait⟩
    · exact ⟨_, _, _, _, wait, rfl, rfl⟩
    · exact ⟨_, _, _, _, wait, rfl, rfl⟩
  | case4 buffer arrivals parsed later received =>
    have missing : lookHead buffer = .ok none := by rw [lookHead, parsed]
    exact ⟨_, _, _, _, wait_of_hungUp missing received, rfl, rfl⟩
  | case5 buffer arrivals parsed chunk later received continued ih =>
    have missing : lookHead buffer = .ok none := by rw [lookHead, parsed]
    obtain ⟨ending, rest, left, task, wait, read, same⟩ := ih
    exact ⟨ending, rest, left, task, wait_of_receive missing received continued wait, read, same⟩

theorem Blocking.awaitResponse_of_wait (address : String) {buffer rest : Bytes}
    {arrivals later : List Arrival} {ending : WaitEnd Response UpgradeError}
    (wait : Wait lookHead buffer arrivals ending rest later) :
    awaitResponse address buffer arrivals = (headResult address ending, rest, later) := by
  obtain ⟨ending', rest', later', wait', read⟩ := awaitResponse_waits address buffer arrivals
  obtain ⟨rfl, rfl, rfl⟩ := wait.unique wait'
  exact read

theorem Cooperative.readResponse_of_wait (address : String) {buffer rest : Bytes}
    {arrivals later : List Arrival} {ending : WaitEnd Response UpgradeError}
    (wait : Wait lookHead buffer arrivals ending rest later) :
    ∃ task, readResponse address buffer arrivals = (task, rest, later) ∧
      underTimer "handshake response" task = headResult address ending := by
  obtain ⟨ending', rest', later', task, wait', read, result⟩ :=
    readResponse_waits address buffer arrivals
  obtain ⟨rfl, rfl, rfl⟩ := wait.unique wait'
  exact ⟨task, read, result⟩

/-! ## Replies -/

def lookReplies : Look (List Reply) ProbeError := fun buffer =>
  match Reply.drain buffer with
  | .error why => .error why
  | .ok ([], _) => .ok none
  | .ok (replies, rest) => .ok (some (replies, rest))

def repliesResult : WaitEnd (List Reply) ProbeError → Except ProbeError (List Reply)
  | .found replies => .ok replies
  | .refused why => .error why
  | .hungUp => .error .closed
  | .timedOut => .error (.timeout "relay reply")
  | .failed reason => .error (.io reason)

/-- A buffer in which there is no reply is kept as it is. -/
theorem lookReplies_of_drain_nil {buffer rest : Bytes}
    (drained : Reply.drain buffer = .ok ([], rest)) :
    lookReplies buffer = .ok none ∧ rest = buffer := by
  refine ⟨by rw [lookReplies, drained], ?_⟩
  rw [Reply.drain] at drained
  split at drained
  · cases drained
  · next frames left found =>
    obtain ⟨none, rfl⟩ := Prod.mk.inj (Except.ok.inj drained)
    rw [List.map_eq_nil_iff.1 none] at found
    exact Frame.rest_of_readAll_nil found

theorem protocol_of_lookReplies {buffer : Bytes} {why : ProbeError}
    (refused : lookReplies buffer = .error why) : ∃ reason, why = .protocol reason := by
  rw [lookReplies, Reply.drain] at refused
  split at refused
  · next failed =>
    cases refused
    split at failed
    · cases failed
      exact ⟨_, rfl⟩
    · cases failed
  · cases refused
  · cases refused

theorem ne_nil_of_lookReplies {buffer rest : Bytes} {replies : List Reply}
    (seen : lookReplies buffer = .ok (some (replies, rest))) : replies ≠ [] := by
  rw [lookReplies] at seen
  split at seen
  · cases seen
  · cases seen
  · next some _ =>
    obtain ⟨rfl, -⟩ := Prod.mk.inj (Option.some.inj (Except.ok.inj seen))
    exact some

theorem Blocking.awaitReplies_waits (buffer : Bytes) (arrivals : List Arrival) :
    ∃ ending rest later, Wait lookReplies buffer arrivals ending rest later ∧
      awaitReplies buffer arrivals = (repliesResult ending, rest, later) := by
  fun_induction awaitReplies buffer arrivals with
  | case1 arrivals buffer why drained =>
    exact ⟨.refused why, _, _, .refused (by rw [lookReplies, drained]), rfl⟩
  | case2 arrivals buffer first others rest drained =>
    exact ⟨.found _, _, _, .found (by rw [lookReplies, drained]), rfl⟩
  | case3 buffer rest drained =>
    obtain ⟨missing, rfl⟩ := lookReplies_of_drain_nil drained
    exact ⟨.hungUp, _, _, .ended missing, rfl⟩
  | case4 buffer rest drained =>
    obtain ⟨missing, rfl⟩ := lookReplies_of_drain_nil drained
    exact ⟨.timedOut, _, _, .timedOut missing, rfl⟩
  | case5 buffer rest drained reason =>
    obtain ⟨missing, rfl⟩ := lookReplies_of_drain_nil drained
    exact ⟨.failed reason, _, _, .failed missing, rfl⟩
  | case6 buffer rest drained =>
    obtain ⟨missing, rfl⟩ := lookReplies_of_drain_nil drained
    exact ⟨.hungUp, _, _, .hungUp missing, rfl⟩
  | case7 buffer rest drained first others later ih =>
    obtain ⟨missing, rfl⟩ := lookReplies_of_drain_nil drained
    obtain ⟨ending, rest, left, wait, same⟩ := ih
    exact ⟨ending, rest, left, .more missing wait, same⟩

theorem Cooperative.readFrames_waits (buffer : Bytes) (arrivals : List Arrival) :
    ∃ ending rest later task, Wait lookReplies buffer arrivals ending rest later ∧
      readFrames buffer arrivals = (task, rest, later) ∧
      underTimer "relay reply" task = repliesResult ending := by
  fun_induction readFrames buffer arrivals with
  | case1 buffer arrivals why drained =>
    exact ⟨.refused why, _, _, _, .refused (by rw [lookReplies, drained]), rfl, rfl⟩
  | case2 buffer arrivals replies rest drained none why later received =>
    rw [List.isEmpty_iff] at none
    obtain ⟨missing, rfl⟩ := lookReplies_of_drain_nil (none ▸ drained)
    rcases wait_of_interrupted missing received with ⟨rfl, wait⟩ | ⟨reason, rfl, wait⟩
    · exact ⟨_, _, _, _, wait, rfl, rfl⟩
    · exact ⟨_, _, _, _, wait, rfl, rfl⟩
  | case3 buffer arrivals replies rest drained none later received =>
    rw [List.isEmpty_iff] at none
    obtain ⟨missing, rfl⟩ := lookReplies_of_drain_nil (none ▸ drained)
    exact ⟨_, _, _, _, wait_of_hungUp missing received, rfl, rfl⟩
  | case4 buffer arrivals replies rest drained none chunk later received continued ih =>
    rw [List.isEmpty_iff] at none
    obtain ⟨missing, rfl⟩ := lookReplies_of_drain_nil (none ▸ drained)
    obtain ⟨ending, rest, left, task, wait, read, same⟩ := ih
    exact ⟨ending, rest, left, task, wait_of_receive missing received continued wait, read, same⟩
  | case5 buffer arrivals replies rest drained some =>
    cases replies with
    | nil => exact absurd rfl some
    | cons first others =>
      exact ⟨.found _, _, _, _, .found (by rw [lookReplies, drained]), rfl, rfl⟩

theorem Blocking.awaitReplies_of_wait {buffer rest : Bytes} {arrivals later : List Arrival}
    {ending : WaitEnd (List Reply) ProbeError}
    (wait : Wait lookReplies buffer arrivals ending rest later) :
    awaitReplies buffer arrivals = (repliesResult ending, rest, later) := by
  obtain ⟨ending', rest', later', wait', read⟩ := awaitReplies_waits buffer arrivals
  obtain ⟨rfl, rfl, rfl⟩ := wait.unique wait'
  exact read

theorem Cooperative.readFrames_of_wait {buffer rest : Bytes} {arrivals later : List Arrival}
    {ending : WaitEnd (List Reply) ProbeError}
    (wait : Wait lookReplies buffer arrivals ending rest later) :
    ∃ task, readFrames buffer arrivals = (task, rest, later) ∧
      underTimer "relay reply" task = repliesResult ending := by
  obtain ⟨ending', rest', later', task, wait', read, result⟩ := readFrames_waits buffer arrivals
  obtain ⟨rfl, rfl, rfl⟩ := wait.unique wait'
  exact ⟨task, read, result⟩

end Probe

end RelayCheck
