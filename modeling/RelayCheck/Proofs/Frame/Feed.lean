import RelayCheck.Proofs.Frame.Wire

/-!
Frames from octets that arrive in chunks.

The octets of a frame, and of what is refused, are described part by part. Once either is there,
octets that come later change nothing about it. So a reader that puts each chunk behind what it has
left over sees the same frames and the same error wherever the chunks are cut.
-/

set_option autoImplicit false

namespace RelayCheck.Frame

/-! ## Parts of a frame -/

/-- The length of a payload, from the second octet and the field that may follow it. -/
def lengthOf (short : UInt8) (field : Bytes) : Nat :=
  if short = 126 ∨ short = 127 then field.toNat else short.toNat

def maskField : Option Mask → Bytes
  | none => []
  | some mask => mask.toBytes

theorem split?_eq_some_iff {count : Nat} {octets front rest : Bytes} :
    split? count octets = some (front, rest) ↔ octets = front ++ rest ∧ front.length = count := by
  constructor
  · intro found
    simp only [split?] at found
    split at found
    · cases found
    · next enough =>
      obtain ⟨rfl, rfl⟩ := Prod.mk.inj (Option.some.inj found)
      refine ⟨(List.take_append_drop count octets).symm, ?_⟩
      rw [List.length_take] at enough ⊢
      omega
  · rintro ⟨rfl, rfl⟩
    exact split?_append front rest

theorem readLength?_eq_some_iff {short : UInt8} {octets rest : Bytes} {length : Nat} :
    readLength? short octets = some (length, rest) ↔
      ∃ field, octets = field ++ rest ∧ field.length = lengthWidth short ∧
        lengthOf short field = length := by
  rw [readLength?]
  split
  · next wide =>
    simp only [lengthOf, if_pos wide, Option.map_eq_some_iff, Prod.exists, split?_eq_some_iff,
      Prod.mk.injEq]
    constructor
    · rintro ⟨field, _, ⟨rfl, width⟩, rfl, rfl⟩
      exact ⟨field, rfl, width, rfl⟩
    · rintro ⟨field, rfl, width, rfl⟩
      exact ⟨field, rest, ⟨rfl, width⟩, rfl, rfl⟩
  · next plain =>
    have width : lengthWidth short = 0 := by
      rw [not_or] at plain
      rw [lengthWidth, if_neg plain.1, if_neg plain.2]
    simp only [lengthOf, if_neg plain, width, List.length_eq_zero_iff, Option.some.injEq,
      Prod.mk.injEq]
    constructor
    · rintro ⟨rfl, rfl⟩
      exact ⟨[], rfl, rfl, rfl⟩
    · rintro ⟨_, rfl, rfl, rfl⟩
      exact ⟨rfl, rfl⟩

theorem readMask?_eq_some_iff {masked : Bool} {octets rest : Bytes} {mask : Option Mask} :
    readMask? masked octets = some (mask, rest) ↔
      masked = mask.isSome ∧ octets = maskField mask ++ rest := by
  constructor
  · intro found
    unfold readMask? at found
    split at found
    · next present =>
      split at found
      · obtain ⟨rfl, rfl⟩ := Prod.mk.inj (Option.some.inj found)
        exact ⟨present, rfl⟩
      · cases found
    · next absent =>
      obtain ⟨rfl, rfl⟩ := Prod.mk.inj (Option.some.inj found)
      exact ⟨eq_false_of_ne_true absent, rfl⟩
  · rintro ⟨rfl, rfl⟩
    cases mask <;> rfl

/-! ## Frames in full -/

/-- Some octets are a frame in full, with a payload of at most `limit` octets. -/
inductive Complete (limit : Nat) : Bytes → Frame → Prop
  | parts {first second : UInt8} {opcode : Opcode} {field payload : Bytes} {mask : Option Mask}
      (known : Opcode.ofByte (first &&& 0x0F) = .ok opcode)
      (width : field.length = lengthWidth (second &&& 0x7F))
      (within : lengthOf (second &&& 0x7F) field ≤ limit)
      (masked : (second &&& 0x80 != 0) = mask.isSome)
      (size : payload.length = lengthOf (second &&& 0x7F) field) :
      Complete limit (first :: second :: (field ++ maskField mask ++ payload))
        ⟨first &&& 0x80 != 0, opcode, mask, unmask mask payload⟩

/-- Some octets begin with no frame, whatever comes after them. -/
inductive Refused (limit : Nat) : Bytes → FrameError → Prop
  | opcode {first second : UInt8} {rest : Bytes} {why : FrameError}
      (unknown : Opcode.ofByte (first &&& 0x0F) = .error why) :
      Refused limit (first :: second :: rest) why
  | length {first second : UInt8} {opcode : Opcode} {field rest : Bytes}
      (known : Opcode.ofByte (first &&& 0x0F) = .ok opcode)
      (width : field.length = lengthWidth (second &&& 0x7F))
      (long : limit < lengthOf (second &&& 0x7F) field) :
      Refused limit (first :: second :: (field ++ rest))
        (.payloadTooLarge (lengthOf (second &&& 0x7F) field) limit)

theorem Refused.append {limit : Nat} {octets : Bytes} {why : FrameError}
    (refused : Refused limit octets why) (more : Bytes) : Refused limit (octets ++ more) why := by
  cases refused with
  | opcode unknown => exact .opcode unknown
  | length known width long =>
    rw [List.cons_append, List.cons_append, List.append_assoc]
    exact .length known width long

/-- What a look at some octets says is one of three things. -/
inductive Seen (limit : Nat) (octets : Bytes) :
    Except FrameError (Option (Frame × Bytes)) → Prop
  | refused {why : FrameError} (refused : Refused limit octets why) : Seen limit octets (.error why)
  | missing : Seen limit octets (.ok none)
  | found {wire rest : Bytes} {frame : Frame} (split : octets = wire ++ rest)
      (complete : Complete limit wire frame) : Seen limit octets (.ok (some (frame, rest)))

/-- Each octet is looked at only once the octets that its meaning depends on are there. -/
theorem read_seen (limit : Nat) (octets : Bytes) : Seen limit octets (read limit octets) := by
  match octets with
  | [] | [_] => exact .missing
  | first :: second :: afterHead =>
    rw [read]
    cases known : Opcode.ofByte (first &&& 0x0F) with
    | error why => exact .refused (.opcode known)
    | ok opcode =>
      cases lengthRead : readLength? (second &&& 0x7F) afterHead with
      | none => exact .missing
      | some parts =>
        obtain ⟨length, afterLength⟩ := parts
        obtain ⟨field, rfl, width, rfl⟩ := readLength?_eq_some_iff.1 lengthRead
        simp only [bind, Except.bind]
        split
        · next long => exact .refused (.length known width long)
        · next within =>
          cases maskRead : readMask? (second &&& 0x80 != 0) afterLength with
          | none => exact .missing
          | some parts =>
            obtain ⟨mask, afterMask⟩ := parts
            obtain ⟨masked, rfl⟩ := readMask?_eq_some_iff.1 maskRead
            cases payloadRead : split? (lengthOf (second &&& 0x7F) field) afterMask with
            | none =>
              simp only [payloadRead]
              exact .missing
            | some parts =>
              obtain ⟨payload, rest⟩ := parts
              obtain ⟨rfl, size⟩ := split?_eq_some_iff.1 payloadRead
              simp only [payloadRead]
              refine .found ?_ (.parts known width (Nat.le_of_not_lt within) masked size)
              simp only [List.cons_append, List.append_assoc]

theorem read_of_refused {limit : Nat} {octets : Bytes} {why : FrameError}
    (refused : Refused limit octets why) : read limit octets = .error why := by
  cases refused with
  | opcode unknown => rw [read, unknown]; rfl
  | @length first second _ field rest known width long =>
    have lengthRead : readLength? (second &&& 0x7F) (field ++ rest) = some (_, rest) :=
      readLength?_eq_some_iff.2 ⟨field, rfl, width, rfl⟩
    rw [read, known, lengthRead]
    exact if_pos long

theorem read_of_complete {limit : Nat} {wire : Bytes} {frame : Frame}
    (complete : Complete limit wire frame) (rest : Bytes) :
    read limit (wire ++ rest) = .ok (some (frame, rest)) := by
  cases complete with
  | @parts first second _ field payload mask known width within masked size =>
    have lengthRead : readLength? (second &&& 0x7F) (field ++ (maskField mask ++ (payload ++ rest)))
        = some (_, _) :=
      readLength?_eq_some_iff.2 ⟨field, rfl, width, rfl⟩
    have maskRead : readMask? (second &&& 0x80 != 0) (maskField mask ++ (payload ++ rest))
        = some (mask, _) :=
      readMask?_eq_some_iff.2 ⟨masked, rfl⟩
    have payloadRead : split? (lengthOf (second &&& 0x7F) field) (payload ++ rest)
        = some (payload, rest) :=
      split?_eq_some_iff.2 ⟨rfl, size⟩
    simp only [List.cons_append, List.append_assoc, read, known, bind, Except.bind, lengthRead,
      Nat.not_lt.2 within, ↓reduceIte, maskRead, payloadRead]
    rfl

/-! ## One frame -/

theorem decode_of_refused {limit : Nat} {octets : Bytes} {why : FrameError}
    (refused : Refused limit octets why) : decode limit octets = .error why := by
  rw [decode, read_of_refused refused]
  rfl

theorem decode_of_complete {limit : Nat} {wire : Bytes} {frame : Frame}
    (complete : Complete limit wire frame) (rest : Bytes) :
    decode limit (wire ++ rest) = .ok (some (frame, wire.length)) := by
  rw [decode, read_of_complete complete]
  simp only [bind, Except.bind, pure, Except.pure, List.length_append, Nat.add_sub_cancel]

theorem refused_of_decode {limit : Nat} {octets : Bytes} {why : FrameError}
    (failed : decode limit octets = .error why) : Refused limit octets why := by
  have seen := read_seen limit octets
  rw [decode] at failed
  generalize read limit octets = result at seen failed
  cases seen with
  | refused refused =>
    cases failed
    exact refused
  | missing | found => cases failed

theorem complete_of_decode {limit used : Nat} {octets : Bytes} {frame : Frame}
    (present : decode limit octets = .ok (some (frame, used))) :
    ∃ wire rest, octets = wire ++ rest ∧ wire.length = used ∧ Complete limit wire frame := by
  have seen := read_seen limit octets
  rw [decode] at present
  generalize read limit octets = result at seen present
  cases seen with
  | @found wire rest frame split complete =>
    simp only [bind, Except.bind, pure, Except.pure, split, List.length_append,
      Nat.add_sub_cancel] at present
    obtain ⟨rfl, rfl⟩ := Prod.mk.inj (Option.some.inj (Except.ok.inj present))
    exact ⟨wire, rest, split, rfl, complete⟩
  | refused | missing => cases present

/-- Octets that come later change neither a frame that is there nor an error. -/
theorem decode_append {limit : Nat} {octets : Bytes} (settled : decode limit octets ≠ .ok none)
    (more : Bytes) : decode limit (octets ++ more) = decode limit octets := by
  cases result : decode limit octets with
  | error why => exact decode_of_refused ((refused_of_decode result).append more)
  | ok found =>
    cases found with
    | none => exact absurd result settled
    | some parts =>
      obtain ⟨frame, used⟩ := parts
      obtain ⟨wire, rest, rfl, rfl, complete⟩ := complete_of_decode result
      rw [List.append_assoc]
      exact decode_of_complete complete (rest ++ more)

/-- As long as an octet of a frame is missing there is neither a frame nor an error. -/
theorem decode_take_of_complete {limit count : Nat} {wire : Bytes} {frame : Frame}
    (complete : Complete limit wire frame) (short : count < wire.length) :
    decode limit (wire.take count) = .ok none := by
  by_cases settled : decode limit (wire.take count) = .ok none
  · exact settled
  -- otherwise the whole frame would be there already, though an octet of it is not
  have whole : decode limit (wire.take count) = .ok (some (frame, wire.length)) := by
    rw [← decode_append settled (wire.drop count ++ []), ← List.append_assoc,
      List.take_append_drop]
    exact decode_of_complete complete []
  obtain ⟨front, rest, split, size, -⟩ := complete_of_decode whole
  have bound := congrArg List.length split
  rw [List.length_take, List.length_append] at bound
  omega

/-! ## Chunks -/

/-- A reader of frames. -/
structure Reader where
  /-- The frames that it has seen. -/
  frames : List Frame
  /-- The error of its last look at its buffer. -/
  failure : Option FrameError
  /-- What has arrived after the frames. -/
  buffer : Bytes
deriving DecidableEq, Repr

namespace Reader

def fresh : Reader := ⟨[], none, []⟩

/-- Takes one frame after the other from a buffer, until there is none in full or the next one is
refused. -/
def drain (limit : Nat) (frames : List Frame) (buffer : Bytes) : Reader :=
  match _found : decode limit buffer with
  | .error why => ⟨frames, some why, buffer⟩
  | .ok none => ⟨frames, none, buffer⟩
  | .ok (some (frame, used)) => drain limit (frames ++ [frame]) (buffer.drop used)
termination_by buffer.length
decreasing_by exact length_drop_lt_of_decode _found

/-- A chunk arrives. A reader that has met an error meets it again. -/
def receive (limit : Nat) (reader : Reader) (chunk : Bytes) : Reader :=
  drain limit reader.frames (reader.buffer ++ chunk)

def receiveAll (limit : Nat) (chunks : List Bytes) : Reader :=
  chunks.foldl (receive limit) fresh

theorem drain_of_refused {limit : Nat} {octets : Bytes} {why : FrameError}
    (refused : Refused limit octets why) (frames : List Frame) :
    drain limit frames octets = ⟨frames, some why, octets⟩ := by
  have failed := decode_of_refused refused
  rw [drain]
  split <;> simp_all

theorem drain_of_missing {limit : Nat} {octets : Bytes} (missing : decode limit octets = .ok none)
    (frames : List Frame) : drain limit frames octets = ⟨frames, none, octets⟩ := by
  rw [drain]
  split <;> simp_all

theorem drain_of_complete {limit : Nat} {wire : Bytes} {frame : Frame}
    (complete : Complete limit wire frame) (frames : List Frame) (rest : Bytes) :
    drain limit frames (wire ++ rest) = drain limit (frames ++ [frame]) rest := by
  have present := decode_of_complete complete rest
  rw [drain]
  split <;> simp_all

theorem drain_append (limit : Nat) (frames : List Frame) (octets more : Bytes) :
    drain limit frames (octets ++ more) = (drain limit frames octets).receive limit more := by
  fun_induction drain limit frames octets with
  | case1 frames octets why failed => rfl
  | case2 frames octets missing => rfl
  | case3 frames octets frame used present ih =>
    -- the first frame is the same with the later octets behind it, and so are those after it
    obtain ⟨wire, rest, rfl, rfl, complete⟩ := complete_of_decode present
    rw [List.drop_left] at ih
    rw [List.append_assoc, drain_of_complete complete, ih, List.drop_left]

/-- A reader takes the frames that a probe takes from its buffer. -/
theorem readAllFrom_eq_drain (limit : Nat) (done : List Frame) (octets : Bytes) :
    readAllFrom limit done octets =
      ((drain limit done.reverse octets).frames, (drain limit done.reverse octets).failure,
        (drain limit done.reverse octets).buffer) := by
  induction done, octets using readAllFrom.induct limit with
  | case1 done octets why failed =>
    have seen := read_seen limit octets
    rw [failed] at seen
    cases seen with
    | refused refused =>
      rw [drain_of_refused refused, readAllFrom]
      split <;> simp_all
  | case2 done octets missing =>
    have absent : decode limit octets = .ok none := by rw [decode, missing]; rfl
    rw [drain_of_missing absent, readAllFrom]
    split <;> simp_all
  | case3 done octets frame rest present ih =>
    have seen := read_seen limit octets
    rw [present] at seen
    cases seen with
    | found split complete =>
      rw [split, drain_of_complete complete, ← split, ← List.reverse_cons, ← ih, readAllFrom]
      split <;> simp_all

theorem receive_receive (limit : Nat) (reader : Reader) (chunk more : Bytes) :
    (reader.receive limit chunk).receive limit more = reader.receive limit (chunk ++ more) := by
  have appended := drain_append limit reader.frames (reader.buffer ++ chunk) more
  rw [List.append_assoc] at appended
  exact appended.symm

theorem foldl_receive (limit : Nat) (reader : Reader) (chunk : Bytes) (chunks : List Bytes) :
    chunks.foldl (receive limit) (reader.receive limit chunk) =
      reader.receive limit (chunk ++ chunks.flatten) := by
  induction chunks generalizing chunk with
  | nil => rw [List.foldl_nil, List.flatten_nil, List.append_nil]
  | cons next later ih =>
    rw [List.foldl_cons, receive_receive, ih, List.flatten_cons, List.append_assoc]

theorem receiveAll_eq_receive (limit : Nat) (chunks : List Bytes) :
    receiveAll limit chunks = fresh.receive limit chunks.flatten := by
  have empty : fresh.receive limit [] = fresh := drain_of_missing rfl []
  rw [receiveAll, ← empty, foldl_receive, empty, List.nil_append]

/-- An error is met at the front of the buffer. -/
theorem refused_of_drain {limit : Nat} {frames : List Frame} {octets : Bytes} {why : FrameError}
    (failed : (drain limit frames octets).failure = some why) :
    Refused limit (drain limit frames octets).buffer why := by
  fun_induction drain limit frames octets with
  | case1 frames octets other found =>
    cases failed
    exact refused_of_decode found
  | case2 => cases failed
  | case3 _ _ _ _ _ ih => exact ih failed

/-- Where the octets of a stream are cut into chunks makes no difference to a reader, and it sees
what a probe sees in the whole stream. Once it has met an error nothing changes but its buffer. It
sees a frame with the last octet of the frame and not before, whatever comes after it. -/
theorem receiveAll_flatten (limit : Nat) (chunks : List Bytes) :
    receiveAll limit chunks = receiveAll limit [chunks.flatten] ∧
      readAll limit chunks.flatten =
        ((receiveAll limit chunks).frames, (receiveAll limit chunks).failure,
          (receiveAll limit chunks).buffer) ∧
      (∀ seen later why, chunks = seen ++ later → (receiveAll limit seen).failure = some why →
        receiveAll limit chunks =
          { receiveAll limit seen with
            buffer := (receiveAll limit seen).buffer ++ later.flatten }) ∧
      ∀ octets frame used, decode limit octets = .ok (some (frame, used)) →
        used ≤ octets.length ∧ (∀ count < used, decode limit (octets.take count) = .ok none) ∧
          ∀ more, decode limit (octets.take used ++ more) = .ok (some (frame, used)) := by
  refine ⟨?_, ?_, ?_, ?_⟩
  · rw [receiveAll_eq_receive, receiveAll_eq_receive, List.flatten_singleton]
  · rw [receiveAll_eq_receive, readAll, readAllFrom_eq_drain]
    rfl
  · rintro seen later why rfl failed
    have onward := receive_receive limit fresh seen.flatten later.flatten
    rw [← receiveAll_eq_receive, ← List.flatten_append, ← receiveAll_eq_receive] at onward
    have refused : Refused limit (receiveAll limit seen).buffer why := by
      rw [receiveAll_eq_receive] at failed ⊢
      exact refused_of_drain failed
    rw [← onward, receive, drain_of_refused (refused.append _), ← failed]
  · intro octets frame used present
    obtain ⟨wire, rest, rfl, rfl, complete⟩ := complete_of_decode present
    refine ⟨by rw [List.length_append]; omega, ?_, ?_⟩
    · intro count short
      rw [List.take_append_of_le_length (Nat.le_of_lt short)]
      exact decode_take_of_complete complete short
    · intro more
      rw [List.take_left]
      exact decode_of_complete complete more

/-- A frame in two chunks and a reserved opcode after it. -/
theorem receiveAll_flatten_ping :
    decode 10 [0x89, 0x01, 0x61, 0x83] = .ok (some (⟨true, .ping, none, [0x61]⟩, 3)) ∧
      decode 10 [0x89, 0x01] = .ok none ∧
      receiveAll 10 [[0x89], [0x01, 0x61, 0x83], [0x00]] =
        ⟨[⟨true, .ping, none, [0x61]⟩], some (.reservedOpcode 3), [0x83, 0x00]⟩ ∧
      receiveAll 10 [[0x89], [0x01, 0x61, 0x83], [0x00], [0x07]] =
        ⟨[⟨true, .ping, none, [0x61]⟩], some (.reservedOpcode 3), [0x83, 0x00, 0x07]⟩ := by
  have present : decode 10 [0x89, 0x01, 0x61, 0x83] =
      .ok (some (⟨true, .ping, none, [0x61]⟩, 3)) := rfl
  have seen : receiveAll 10 [[0x89], [0x01, 0x61, 0x83], [0x00]] =
      ⟨[⟨true, .ping, none, [0x61]⟩], some (.reservedOpcode 3), [0x83, 0x00]⟩ := by
    decide +kernel
  obtain ⟨-, -, settled, framed⟩ :=
    receiveAll_flatten 10 [[0x89], [0x01, 0x61, 0x83], [0x00], [0x07]]
  have missing := (framed _ _ _ present).2.1 2 (by decide)
  have onward := settled [[0x89], [0x01, 0x61, 0x83], [0x00]] [[0x07]] (.reservedOpcode 3) rfl
    (by rw [seen])
  rw [seen] at onward
  exact ⟨present, missing, seen, onward⟩

end Reader

end RelayCheck.Frame
