import RelayCheck.Proofs.Message.Client
import RelayCheck.Proofs.Probe.Arrival
import RelayCheck.Proofs.Probe.Reply

/-!
What becomes of the first frame of a relay.

A wait for replies is over with the chunk that completes the first frame. That chunk may bring more
than the frame. If what it brings after the last frame in full is only a part of a frame, all frames
that have arrived are the answer. If it brings octets that no frame begins with, the wait fails, and
the frames before them are not told of. The same octets in other chunks are an answer.
-/

set_option autoImplicit false

namespace RelayCheck.Probe

open Message (Envelope RelayMessage)
open RelayCheck.Frame (Complete Refused Sequence)

/-! ## The chunk that completes -/

/-- So many octets are there with the last of some chunks, and not before. -/
def Suffice (buffer : Bytes) (count : Nat) (chunks : List Bytes) : Prop :=
  count ≤ (buffer ++ chunks.flatten).length ∧
    ∀ fewer more, chunks = fewer ++ more → more ≠ [] → (buffer ++ fewer.flatten).length < count

theorem exists_suffice {buffer : Bytes} {count : Nat} {chunks : List Bytes}
    (enough : count ≤ (buffer ++ chunks.flatten).length) :
    ∃ seen later, chunks = seen ++ later ∧ Suffice buffer count seen := by
  induction chunks generalizing buffer with
  | nil =>
    refine ⟨[], [], rfl, enough, ?_⟩
    intro fewer more split continued
    exact absurd (List.append_eq_nil_iff.1 split.symm).2 continued
  | cons chunk chunks ih =>
    by_cases already : count ≤ buffer.length
    · refine ⟨[], chunk :: chunks, rfl, ?_, ?_⟩
      · rwa [List.flatten_nil, List.append_nil]
      · intro fewer more split continued
        exact absurd (List.append_eq_nil_iff.1 split.symm).2 continued
    · rw [List.flatten_cons, ← List.append_assoc] at enough
      obtain ⟨seen, later, rfl, sufficient, earlier⟩ := ih enough
      refine ⟨chunk :: seen, later, rfl, ?_, ?_⟩
      · rwa [List.flatten_cons, ← List.append_assoc]
      · intro fewer more split continued
        cases fewer with
        | nil =>
          rw [List.flatten_nil, List.append_nil]
          omega
        | cons head fewer =>
          obtain ⟨rfl, cut⟩ := List.cons.inj split
          rw [List.flatten_cons, ← List.append_assoc]
          exact earlier fewer more cut continued

/-- A wait goes on as long as the chunks so far hold nothing to find or to refuse. -/
theorem Wait.after_chunks {Data Fault : Type} {look : Look Data Fault} {buffer rest : Bytes}
    {chunks : List Bytes} {arrivals later : List Arrival} {ending : WaitEnd Data Fault}
    (filled : [] ∉ chunks)
    (missing : ∀ fewer more, chunks = fewer ++ more → more ≠ [] →
      look (buffer ++ fewer.flatten) = .ok none)
    (wait : Wait look (buffer ++ chunks.flatten) arrivals ending rest later) :
    Wait look buffer (chunks.map .octets ++ arrivals) ending rest later := by
  induction chunks generalizing buffer with
  | nil => rwa [List.flatten_nil, List.append_nil] at wait
  | cons chunk chunks ih =>
    cases chunk with
    | nil => exact absurd List.mem_cons_self filled
    | cons first others =>
      have absent := missing [] _ rfl (List.cons_ne_nil _ _)
      rw [List.flatten_nil, List.append_nil] at absent
      rw [List.flatten_cons, ← List.append_assoc] at wait
      refine .more absent (ih (fun member => filled (List.mem_cons_of_mem _ member)) ?_ wait)
      intro fewer more split continued
      have later := missing ((first :: others) :: fewer) more (congrArg _ split) continued
      rwa [List.flatten_cons, ← List.append_assoc] at later

/-! ## The answer -/

/-- Before the last octet of the first frame there is no reply and no error. -/
theorem lookReplies_of_suffice {buffer wire after : Bytes} {first : Frame} {seen later : List Bytes}
    (complete : Complete maxReplyPayload wire first)
    (split : buffer ++ (seen ++ later).flatten = wire ++ after)
    (sufficient : Suffice buffer wire.length seen) {fewer more : List Bytes}
    (cut : seen = fewer ++ more) (continued : more ≠ []) :
    lookReplies (buffer ++ fewer.flatten) = .ok none := by
  have short := sufficient.2 fewer more cut continued
  have front : buffer ++ fewer.flatten = wire.take (buffer ++ fewer.flatten).length := by
    have whole := congrArg (List.take (buffer ++ fewer.flatten).length) split
    rw [cut, List.append_assoc, List.flatten_append, ← List.append_assoc, List.take_left,
      List.take_append_of_le_length (Nat.le_of_lt short)] at whole
    exact whole
  rw [lookReplies_eq_none_iff, front]
  exact Frame.decode_take_of_complete complete short

/-- The first frame is the first of those that are there once it is complete. -/
theorem exists_sequence_of_suffice {buffer wire after : Bytes} {first : Frame}
    {seen later : List Bytes} (complete : Complete maxReplyPayload wire first)
    (split : buffer ++ (seen ++ later).flatten = wire ++ after)
    (sufficient : Suffice buffer wire.length seen) :
    ∃ others why rest, Sequence maxReplyPayload (buffer ++ seen.flatten) (first :: others) rest ∧
      Frame.Halts maxReplyPayload rest why := by
  have front : wire <+: buffer ++ seen.flatten := by
    have whole : buffer ++ seen.flatten <+: wire ++ after := by
      rw [← split, List.flatten_append, ← List.append_assoc]
      exact List.prefix_append _ _
    exact List.prefix_of_prefix_length_le (List.prefix_append _ _) whole sufficient.1
  obtain ⟨more, same⟩ := front
  obtain ⟨others, why, rest, onward, halts⟩ := Frame.exists_sequence maxReplyPayload more
  exact ⟨others, why, rest, same ▸ .cons complete onward, halts⟩

/-- Chunks come to a connection of which the first frame is complete with the last of those `seen`.
The frames that are there by then are the answer of the relay, the first one first, if there is
nothing but a part of a frame after them. Otherwise the wait fails, although there are replies. -/
theorem readReplies_of_first (connection : Connection) (now : Instant) (chunks : List Bytes)
    (tail : List Arrival) (first : Frame) (used : Nat)
    (shown : now.after? connection.timeoutSeconds ≠ none) (filled : [] ∉ chunks)
    (present : Frame.decode maxReplyPayload (connection.buffer ++ chunks.flatten) =
      .ok (some (first, used))) :
    ∃ seen later others rest, chunks = seen ++ later ∧ Suffice connection.buffer used seen ∧
      Sequence maxReplyPayload (connection.buffer ++ seen.flatten) (first :: others) rest ∧
      ((Frame.decode maxReplyPayload rest = .ok none ∧
          Blocking.readReplies (connection.awaiting chunks tail) now =
            (.ok ((first :: others).map Reply.ofFrame),
              connection.advance rest (later.map .octets ++ tail)) ∧
          Cooperative.readReplies (connection.awaiting chunks tail) =
            (.ok ((first :: others).map Reply.ofFrame),
              connection.advance rest (later.map .octets ++ tail))) ∨
        ∃ why, Refused maxReplyPayload rest why ∧
          Blocking.readReplies (connection.awaiting chunks tail) now =
            (.error (.failed (.protocol why.message)),
              connection.advance (connection.buffer ++ seen.flatten)
                (later.map .octets ++ tail)) ∧
          Cooperative.readReplies (connection.awaiting chunks tail) =
            (.error (.protocol why.message),
              connection.advance (connection.buffer ++ seen.flatten)
                (later.map .octets ++ tail))) := by
  obtain ⟨wire, after, split, rfl, complete⟩ := Frame.complete_of_decode present
  have enough : wire.length ≤ (connection.buffer ++ chunks.flatten).length := by
    rw [split, List.length_append]
    omega
  obtain ⟨seen, later, rfl, sufficient⟩ := exists_suffice enough
  obtain ⟨others, why, rest, sequence, halts⟩ :=
    exists_sequence_of_suffice complete split sufficient
  -- whatever the look at these octets says, the wait comes to it and to nothing before it
  have waits {ending : WaitEnd (List Reply) ProbeError} {left : Bytes}
      (wait : Wait lookReplies (connection.buffer ++ seen.flatten) (later.map .octets ++ tail)
        ending left (later.map .octets ++ tail)) :
      Wait lookReplies connection.buffer ((seen ++ later).map .octets ++ tail) ending left
        (later.map .octets ++ tail) := by
    rw [List.map_append, List.append_assoc]
    exact .after_chunks (fun member => filled (List.mem_append_left _ member))
      (fun _ _ => lookReplies_of_suffice complete split sufficient) wait
  refine ⟨seen, later, others, rest, rfl, sufficient, sequence, ?_⟩
  cases halts with
  | missing absent =>
    have wait := waits (.found (lookReplies_of_missing sequence absent))
    exact .inl ⟨absent,
      @Blocking.readReplies_of_wait (connection.awaiting (seen ++ later) tail) _ _ _ _ shown wait,
      @Cooperative.readReplies_of_wait (connection.awaiting (seen ++ later) tail) _ _ _ wait⟩
  | @refused why refused =>
    have wait := waits (.refused (lookReplies_of_refused sequence refused))
    exact .inr ⟨why, refused,
      @Blocking.readReplies_of_wait (connection.awaiting (seen ++ later) tail) _ _ _ _ shown wait,
      @Cooperative.readReplies_of_wait (connection.awaiting (seen ++ later) tail) _ _ _ wait⟩

/-- The frame with which a relay says that it has no more stored events. -/
def storedFrame : Frame := ⟨true, .text, none, Text.Utf8.encode "[\"EOSE\",\"sub\"]"⟩

def storedOctets : Bytes := 0x81 :: 0x0E :: Text.Utf8.encode "[\"EOSE\",\"sub\"]"

/-- The head of a frame with an opcode that has no meaning. -/
def reservedOctets : Bytes := [0x83, 0x00]

theorem ofFrame_storedFrame : Reply.ofFrame storedFrame = .message (.eose "sub") := by
  have written : "[\"EOSE\",\"sub\"]" = (Envelope.toValue ⟨"EOSE", [.string "sub"]⟩).toText := by
    decide +kernel
  have read : RelayMessage.ofText "[\"EOSE\",\"sub\"]" = .ok (.eose "sub") := by
    rw [RelayMessage.ofText, written, Envelope.ofText_toText _ rfl (by decide)]
    rfl
  have opcode : storedFrame.opcode = .text := rfl
  have text : storedFrame.text = .ok "[\"EOSE\",\"sub\"]" := by
    rw [Frame.text, storedFrame, Text.Utf8.decode?_encode]
  have message : Reply.messageOf? storedFrame = some (.eose "sub") := by
    rw [Reply.messageOf?, opcode, text]
    dsimp only
    rw [read]
    rfl
  rw [Reply.ofFrame, message]

theorem sequence_storedOctets (more : Bytes) :
    Sequence maxReplyPayload (storedOctets ++ more) [storedFrame] more := by
  have complete : Complete maxReplyPayload storedOctets storedFrame :=
    @Complete.parts _ 0x81 0x0E .text [] _ none rfl rfl (by decide) rfl rfl
  exact .cons complete .nil

theorem refused_reservedOctets : Refused maxReplyPayload reservedOctets (.reservedOpcode 3) :=
  Frame.refused_of_decode rfl

theorem cooperative_readReplies_apart :
    (Cooperative.readReplies (Connection.awaiting ⟨"relay:80", 5, [], .bringing []⟩
      [storedOctets, reservedOctets] [])).1 = .ok [Reply.ofFrame storedFrame] := by
  have missing : lookReplies [] = .ok none := lookReplies_eq_none_iff.2 rfl
  have found := lookReplies_of_missing (sequence_storedOctets []) rfl
  rw [List.append_nil] at found
  have wait : Wait lookReplies [] [.octets storedOctets, .octets reservedOctets] _ _ _ :=
    .more missing (.found found)
  rw [@Cooperative.readReplies_of_wait (Connection.awaiting ⟨"relay:80", 5, [], .bringing []⟩
    [storedOctets, reservedOctets] []) _ _ _ wait]
  rfl

/-- A reply is told of if the octets that are no frame come in a chunk of their own. -/
theorem readReplies_of_first_apart :
    (⟨0⟩ : Instant).after? 5 ≠ none ∧ [] ∉ [storedOctets, reservedOctets] ∧
      Frame.decode maxReplyPayload [storedOctets, reservedOctets].flatten =
        .ok (some (storedFrame, 16)) ∧
      ∃ seen later others rest, [storedOctets, reservedOctets] = seen ++ later ∧
        Suffice [] 16 seen ∧
        Sequence maxReplyPayload ([] ++ seen.flatten) (storedFrame :: others) rest ∧
        (Blocking.readReplies (Connection.awaiting ⟨"relay:80", 5, [], .bringing []⟩
            [storedOctets, reservedOctets] []) ⟨0⟩).1 =
          .ok ((storedFrame :: others).map Reply.ofFrame) ∧
        (Cooperative.readReplies (Connection.awaiting ⟨"relay:80", 5, [], .bringing []⟩
            [storedOctets, reservedOctets] [])).1 =
          .ok ((storedFrame :: others).map Reply.ofFrame) := by
  have shown : (⟨0⟩ : Instant).after? 5 ≠ none := by decide
  have filled : [] ∉ [storedOctets, reservedOctets] := by decide
  have present : Frame.decode maxReplyPayload [storedOctets, reservedOctets].flatten =
      .ok (some (storedFrame, 16)) := rfl
  obtain ⟨seen, later, others, rest, split, sufficient, sequence, answered⟩ :=
    readReplies_of_first ⟨"relay:80", 5, [], .bringing []⟩ ⟨0⟩ [storedOctets, reservedOctets] []
      storedFrame 16 shown filled present
  refine ⟨shown, filled, present, seen, later, others, rest, split, sufficient, sequence, ?_⟩
  rcases answered with ⟨-, blocking, cooperative⟩ | ⟨why, -, -, cooperative⟩
  · exact ⟨congrArg Prod.fst blocking, congrArg Prod.fst cooperative⟩
  · have told := cooperative_readReplies_apart
    rw [cooperative] at told
    cases told

/-- The octets of a reply and of a reserved opcode come in one chunk. There is a frame in full, and
yet the wait fails. In two chunks they are an answer. -/
theorem readReplies_refused_together :
    Frame.decode maxReplyPayload (storedOctets ++ reservedOctets) =
        .ok (some (storedFrame, 16)) ∧
      Reply.ofFrame storedFrame = .message (.eose "sub") ∧
      (Blocking.readReplies (Connection.awaiting ⟨"relay:80", 5, [], .bringing []⟩
          [storedOctets ++ reservedOctets] []) ⟨0⟩).1 =
        .error (.failed (.protocol "Reserved opcode: 0x3")) ∧
      (Cooperative.readReplies (Connection.awaiting ⟨"relay:80", 5, [], .bringing []⟩
          [storedOctets ++ reservedOctets] [])).1 =
        .error (.protocol "Reserved opcode: 0x3") ∧
      (Cooperative.readReplies (Connection.awaiting ⟨"relay:80", 5, [], .bringing []⟩
          [storedOctets, reservedOctets] [])).1 = .ok [.message (.eose "sub")] := by
  have missing : lookReplies [] = .ok none := lookReplies_eq_none_iff.2 rfl
  have refused := lookReplies_of_refused (sequence_storedOctets reservedOctets)
    refused_reservedOctets
  have wording : (Frame.FrameError.reservedOpcode 3).message = "Reserved opcode: 0x3" := by decide
  have wait : Wait lookReplies [] [.octets (storedOctets ++ reservedOctets)] _ _ _ :=
    .more missing (.refused refused)
  rw [wording] at wait
  refine ⟨rfl, ofFrame_storedFrame, ?_, ?_, ?_⟩
  · rw [@Blocking.readReplies_of_wait (Connection.awaiting ⟨"relay:80", 5, [], .bringing []⟩
      [storedOctets ++ reservedOctets] []) ⟨0⟩ _ _ _ (by decide) wait]
    rfl
  · rw [@Cooperative.readReplies_of_wait (Connection.awaiting ⟨"relay:80", 5, [], .bringing []⟩
      [storedOctets ++ reservedOctets] []) _ _ _ wait]
    rfl
  · rw [← ofFrame_storedFrame]
    exact cooperative_readReplies_apart

end RelayCheck.Probe
