import RelayCheck.Proofs.Frame.Sequence
import RelayCheck.Proofs.Probe.Wait

/-!
Replies and the frames that they are.

A look at a buffer takes its frames one after the other until they halt. If they halt at an error,
the error is all that the look tells.
-/

set_option autoImplicit false

namespace RelayCheck.Probe

open RelayCheck.Frame (FrameError Halts Refused Sequence)

namespace Reply

theorem drain_of_missing {buffer rest : Bytes} {frames : List Frame}
    (sequence : Sequence maxReplyPayload buffer frames rest)
    (absent : Frame.decode maxReplyPayload rest = .ok none) :
    drain buffer = .ok (frames.map ofFrame, rest) := by
  rw [drain, Frame.readAll_eq_iff.2 ⟨sequence, .missing absent⟩]

theorem drain_of_refused {buffer rest : Bytes} {frames : List Frame} {why : FrameError}
    (sequence : Sequence maxReplyPayload buffer frames rest)
    (refused : Refused maxReplyPayload rest why) :
    drain buffer = .error (.protocol why.message) := by
  rw [drain, Frame.readAll_eq_iff.2 ⟨sequence, .refused refused⟩]

theorem sequence_of_drain {buffer rest : Bytes} {replies : List Reply}
    (drained : drain buffer = .ok (replies, rest)) :
    ∃ frames, replies = frames.map ofFrame ∧ Sequence maxReplyPayload buffer frames rest ∧
      Frame.decode maxReplyPayload rest = .ok none := by
  obtain ⟨frames, why, left, sequence, halts⟩ := Frame.exists_sequence maxReplyPayload buffer
  cases halts with
  | missing absent =>
    cases drained.symm.trans (drain_of_missing sequence absent)
    exact ⟨frames, rfl, sequence, absent⟩
  | refused refused => cases drained.symm.trans (drain_of_refused sequence refused)

end Reply

theorem lookReplies_of_missing {buffer rest : Bytes} {first : Frame} {others : List Frame}
    (sequence : Sequence maxReplyPayload buffer (first :: others) rest)
    (absent : Frame.decode maxReplyPayload rest = .ok none) :
    lookReplies buffer = .ok (some ((first :: others).map Reply.ofFrame, rest)) := by
  rw [lookReplies, Reply.drain_of_missing sequence absent, List.map_cons]

theorem lookReplies_of_refused {buffer rest : Bytes} {frames : List Frame} {why : FrameError}
    (sequence : Sequence maxReplyPayload buffer frames rest)
    (refused : Refused maxReplyPayload rest why) :
    lookReplies buffer = .error (.protocol why.message) := by
  rw [lookReplies, Reply.drain_of_refused sequence refused]

theorem lookReplies_eq_none_iff {buffer : Bytes} :
    lookReplies buffer = .ok none ↔ Frame.decode maxReplyPayload buffer = .ok none := by
  constructor
  · intro missing
    rw [lookReplies] at missing
    split at missing
    · cases missing
    · next rest drained =>
      obtain ⟨frames, none, sequence, absent⟩ := Reply.sequence_of_drain drained
      rw [List.map_eq_nil_iff.1 none.symm] at sequence
      cases sequence
      exact absent
    · cases missing
  · intro absent
    rw [lookReplies, Reply.drain_of_missing .nil absent, List.map_nil]

theorem sequence_of_lookReplies {buffer rest : Bytes} {replies : List Reply}
    (seen : lookReplies buffer = .ok (some (replies, rest))) :
    ∃ frames, replies = frames.map Reply.ofFrame ∧
      Sequence maxReplyPayload buffer frames rest := by
  rw [lookReplies] at seen
  split at seen
  · cases seen
  · cases seen
  · next drained =>
    cases seen
    obtain ⟨frames, same, sequence, -⟩ := Reply.sequence_of_drain drained
    exact ⟨frames, same, sequence⟩

/-! ## Waits for replies -/

theorem Blocking.readReplies_of_wait {connection : Connection} {now : Instant} {rest : Bytes}
    {later : List Arrival} {ending : WaitEnd (List Reply) ProbeError}
    (shown : now.after? connection.timeoutSeconds ≠ none)
    (wait : Wait lookReplies connection.buffer connection.line.arrivals ending rest later) :
    readReplies connection now =
      (orFailed (repliesResult ending), connection.advance rest later) := by
  rw [readReplies]
  split
  · next unshown => exact absurd unshown shown
  · rw [awaitReplies_of_wait wait]

theorem Cooperative.readReplies_of_wait {connection : Connection} {rest : Bytes}
    {later : List Arrival} {ending : WaitEnd (List Reply) ProbeError}
    (wait : Wait lookReplies connection.buffer connection.line.arrivals ending rest later) :
    readReplies connection = (repliesResult ending, connection.advance rest later) := by
  obtain ⟨task, read, result⟩ := readFrames_of_wait wait
  rw [readReplies, read]
  exact congrArg (·, connection.advance rest later) result

end RelayCheck.Probe
