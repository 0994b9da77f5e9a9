import RelayCheck.Proofs.Frame.Feed

/-!
Frames one after the other.

A reader takes frames from the front of some octets until what is left is no frame in full, or can
never become one. Which frames these are is told here by their octets alone. Octets that come later
stand behind what is left, and what lacks the end of a frame is not much longer than a payload may
be.
-/

set_option autoImplicit false

namespace RelayCheck.Frame

/-- Some octets are frames in full and a rest, in this order. -/
inductive Sequence (limit : Nat) : Bytes → List Frame → Bytes → Prop
  | nil {octets : Bytes} : Sequence limit octets [] octets
  | cons {wire later rest : Bytes} {frame : Frame} {frames : List Frame}
      (complete : Complete limit wire frame) (onward : Sequence limit later frames rest) :
      Sequence limit (wire ++ later) (frame :: frames) rest

/-- Why there is no frame at the front of some octets: it has not arrived in full, or an error. -/
inductive Halts (limit : Nat) : Bytes → Option FrameError → Prop
  | missing {octets : Bytes} (absent : decode limit octets = .ok none) : Halts limit octets none
  | refused {octets : Bytes} {why : FrameError} (refused : Refused limit octets why) :
      Halts limit octets (some why)

namespace Sequence

theorem append {limit : Nat} {octets rest : Bytes} {frames : List Frame}
    (sequence : Sequence limit octets frames rest) (more : Bytes) :
    Sequence limit (octets ++ more) frames (rest ++ more) := by
  induction sequence with
  | nil => exact .nil
  | cons complete _ ih =>
    rw [List.append_assoc]
    exact .cons complete ih

theorem trans {limit : Nat} {octets middle rest : Bytes} {frames others : List Frame}
    (sequence : Sequence limit octets frames middle)
    (onward : Sequence limit middle others rest) :
    Sequence limit octets (frames ++ others) rest := by
  induction sequence with
  | nil => exact onward
  | cons complete _ ih => exact .cons complete (ih onward)

theorem length_le {limit : Nat} {octets rest : Bytes} {frames : List Frame}
    (sequence : Sequence limit octets frames rest) : rest.length ≤ octets.length := by
  induction sequence with
  | nil => exact Nat.le_refl _
  | cons _ _ ih =>
    rw [List.length_append]
    omega

/-- A reader comes through every sequence. -/
theorem drain_eq {limit : Nat} {octets rest : Bytes} {frames : List Frame}
    (sequence : Sequence limit octets frames rest) (before : List Frame) :
    Reader.drain limit before octets = Reader.drain limit (before ++ frames) rest := by
  induction sequence generalizing before with
  | nil => rw [List.append_nil]
  | cons complete _ ih =>
    rw [Reader.drain_of_complete complete, ih, List.append_assoc, List.singleton_append]

end Sequence

theorem Complete.two_le_length {limit : Nat} {wire : Bytes} {frame : Frame}
    (complete : Complete limit wire frame) : 2 ≤ wire.length := by
  cases complete with
  | parts =>
    rw [List.length_cons, List.length_cons]
    omega

theorem exists_sequence (limit : Nat) (octets : Bytes) :
    ∃ frames why rest, Sequence limit octets frames rest ∧ Halts limit rest why := by
  match found : decode limit octets with
  | .error why => exact ⟨[], some why, octets, .nil, .refused (refused_of_decode found)⟩
  | .ok none => exact ⟨[], none, octets, .nil, .missing found⟩
  | .ok (some (frame, used)) =>
    obtain ⟨wire, later, split, -, complete⟩ := complete_of_decode found
    have shorter : later.length < octets.length := by
      have two := complete.two_le_length
      rw [split, List.length_append]
      omega
    obtain ⟨frames, why, rest, onward, halts⟩ := exists_sequence limit later
    exact ⟨frame :: frames, why, rest, split ▸ .cons complete onward, halts⟩
termination_by octets.length

/-- All frames at the front of some octets are those of a sequence that halts. -/
theorem readAll_eq_iff {limit : Nat} {octets rest : Bytes} {frames : List Frame}
    {why : Option FrameError} :
    readAll limit octets = (frames, why, rest) ↔
      Sequence limit octets frames rest ∧ Halts limit rest why := by
  have reads {frames : List Frame} {why : Option FrameError} {rest : Bytes}
      (sequence : Sequence limit octets frames rest) (halts : Halts limit rest why) :
      readAll limit octets = (frames, why, rest) := by
    rw [readAll, Reader.readAllFrom_eq_drain, List.reverse_nil, sequence.drain_eq,
      List.nil_append]
    cases halts with
    | missing absent => rw [Reader.drain_of_missing absent]
    | refused refused => rw [Reader.drain_of_refused refused]
  constructor
  · intro read
    obtain ⟨others, reason, left, sequence, halts⟩ := exists_sequence limit octets
    cases read.symm.trans (reads sequence halts)
    exact ⟨sequence, halts⟩
  · intro both
    exact reads both.1 both.2

/-! ## What is missing -/

theorem length_lt_of_split?_eq_none {count : Nat} {octets : Bytes}
    (missing : split? count octets = none) : octets.length < count := by
  rw [split?] at missing
  split at missing
  · next short =>
    rw [List.length_take] at short
    omega
  · cases missing

theorem lengthWidth_le (short : UInt8) : lengthWidth short ≤ 8 := by
  rw [lengthWidth]
  split
  · decide
  · split <;> decide

theorem length_lt_of_readLength?_eq_none {short : UInt8} {octets : Bytes}
    (missing : readLength? short octets = none) : octets.length < 8 := by
  rw [readLength?] at missing
  split at missing
  · have shorter := length_lt_of_split?_eq_none (Option.map_eq_none_iff.1 missing)
    have width := lengthWidth_le short
    omega
  · cases missing

theorem length_lt_of_readMask?_eq_none {masked : Bool} {octets : Bytes}
    (missing : readMask? masked octets = none) : octets.length < 4 := by
  match octets with
  | [] | [_] | [_, _] | [_, _, _] => simp
  | _ :: _ :: _ :: _ :: _ => cases masked <;> cases missing

theorem length_maskField_le (mask : Option Mask) : (maskField mask).length ≤ 4 := by
  cases mask with
  | none => exact Nat.zero_le _
  | some mask => exact Nat.le_refl 4

/-- Before a payload there are at most two octets, eight of a length and four of a mask. So what
lacks an octet of a frame has at most 13 octets more than a payload may have. -/
theorem length_le_of_decode_eq_none {limit : Nat} {octets : Bytes}
    (missing : decode limit octets = .ok none) : octets.length ≤ limit + 13 := by
  match octets with
  | [] | [_] => simp
  | first :: second :: afterHead =>
    rw [List.length_cons, List.length_cons]
    rw [decode, read] at missing
    cases known : Opcode.ofByte (first &&& 0x0F) with
    | error why =>
      rw [known] at missing
      cases missing
    | ok opcode =>
      rw [known] at missing
      cases lengthRead : readLength? (second &&& 0x7F) afterHead with
      | none =>
        have shorter := length_lt_of_readLength?_eq_none lengthRead
        omega
      | some parts =>
        obtain ⟨length, afterLength⟩ := parts
        obtain ⟨field, rfl, width, rfl⟩ := readLength?_eq_some_iff.1 lengthRead
        have narrow := lengthWidth_le (second &&& 0x7F)
        rw [List.length_append]
        by_cases long : limit < lengthOf (second &&& 0x7F) field
        · simp only [lengthRead, if_pos long] at missing
          cases missing
        · cases maskRead : readMask? (second &&& 0x80 != 0) afterLength with
          | none =>
            have shorter := length_lt_of_readMask?_eq_none maskRead
            omega
          | some parts =>
            obtain ⟨mask, afterMask⟩ := parts
            obtain ⟨-, rfl⟩ := readMask?_eq_some_iff.1 maskRead
            have small := length_maskField_le mask
            rw [List.length_append]
            cases payloadRead : split? (lengthOf (second &&& 0x7F) field) afterMask with
            | none =>
              have shorter := length_lt_of_split?_eq_none payloadRead
              omega
            | some parts =>
              simp only [lengthRead, if_neg long, maskRead, payloadRead] at missing
              cases missing

end RelayCheck.Frame
