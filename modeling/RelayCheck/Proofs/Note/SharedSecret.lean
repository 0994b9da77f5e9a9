import RelayCheck.Note.Signer
import RelayCheck.Proofs.Text.Blank
import RelayCheck.Proofs.Text.Hex

/-!
Which texts give a shared secret, and which texts are taken for the tag of a message.

Blanks around a secret do not count, blanks around a tag do. Letters count alike in either case.
-/

set_option autoImplicit false

namespace RelayCheck.Note

open Text (Trimmed)

theorem decodeHex_eq_ok_iff {text : String} {octets : Bytes} :
    decodeHex text = .ok octets ↔ Text.Hex.Spells text.toList octets := by
  rw [← Text.Hex.decode_eq_ok_iff, decodeHex]
  cases Text.Hex.decode text <;> simp

theorem exists_decodeHex_eq_ok_iff {text : String} :
    (∃ octets, decodeHex text = .ok octets) ↔ Text.Hex.Paired text.toList := by
  rw [← Text.Hex.exists_spells_iff]
  exact exists_congr fun _ => decodeHex_eq_ok_iff

theorem notHex_of_decodeHex {text : String} {why : NoteError}
    (failed : decodeHex text = .error why) : ∃ reason, why = .notHex reason := by
  rw [decodeHex] at failed
  cases read : Text.Hex.decode text with
  | ok octets =>
    rw [read] at failed
    cases failed
  | error fault =>
    rw [read] at failed
    exact ⟨fault.message, (Except.error.inj failed).symm⟩

theorem secretOctets_eq_ok_iff {text : String} {octets : Bytes} :
    secretOctets text = .ok octets ↔
      ∃ inner, Trimmed text.toList inner ∧ Text.Hex.Spells inner octets := by
  rw [secretOctets, decodeHex_eq_ok_iff, Text.trim, String.toList_ofList]
  simp only [Text.trimmed_iff, exists_eq_left']

/-- The texts differ in the blanks around them and in the case of letters only. -/
def AlikeSecrets (left right : String) : Prop :=
  ∃ leftInner rightInner, Trimmed left.toList leftInner ∧ Trimmed right.toList rightInner ∧
    leftInner.map Char.toLower = rightInner.map Char.toLower

theorem AlikeSecrets.secretOctets {left right : String} (alike : AlikeSecrets left right)
    {octets : Bytes} (read : secretOctets left = .ok octets) :
    RelayCheck.Note.secretOctets right = .ok octets := by
  obtain ⟨leftInner, rightInner, leftTrimmed, rightTrimmed, same⟩ := alike
  obtain ⟨inner, trimmed, spells⟩ := secretOctets_eq_ok_iff.1 read
  rw [Text.trimmed_iff] at leftTrimmed trimmed
  rw [← trimmed, leftTrimmed] at spells
  exact secretOctets_eq_ok_iff.2 ⟨rightInner, rightTrimmed, same.symm.trans spells⟩

namespace SharedSecret

/-! ## Secrets -/

theorem ofHex_eq_ok_iff_secretOctets {text : String} {secret : SharedSecret} :
    ofHex text = .ok secret ↔ secretOctets text = .ok secret.octets := by
  obtain ⟨octets, nonempty⟩ := secret
  rw [ofHex]
  cases secretOctets text with
  | error why => simp [bind, Except.bind]
  | ok read =>
    by_cases empty : read = []
    · simp [bind, Except.bind, empty, nonempty.symm]
    · simp [bind, Except.bind, empty]

theorem ofHex_eq_ok_iff {text : String} {secret : SharedSecret} :
    ofHex text = .ok secret ↔
      ∃ inner, Trimmed text.toList inner ∧ Text.Hex.Spells inner secret.octets :=
  ofHex_eq_ok_iff_secretOctets.trans secretOctets_eq_ok_iff

theorem exists_ofHex_eq_ok_iff {text : String} :
    (∃ secret, ofHex text = .ok secret) ↔
      ∃ inner, Trimmed text.toList inner ∧ inner ≠ [] ∧ Text.Hex.Paired inner := by
  constructor
  · intro ⟨secret, read⟩
    obtain ⟨inner, trimmed, spells⟩ := ofHex_eq_ok_iff.1 read
    refine ⟨inner, trimmed, ?_, Text.Hex.exists_spells_iff.1 ⟨_, spells⟩⟩
    rintro rfl
    exact secret.nonempty (Text.Hex.spells_nil_iff.1 spells)
  · intro ⟨inner, trimmed, nonempty, paired⟩
    obtain ⟨octets, spells⟩ := Text.Hex.exists_spells_iff.2 paired
    have some : octets ≠ [] := by
      rintro rfl
      have none : inner.length = 0 := spells.length
      exact nonempty (List.eq_nil_of_length_eq_zero none)
    exact ⟨⟨octets, some⟩, ofHex_eq_ok_iff.2 ⟨inner, trimmed, spells⟩⟩

theorem testIdentifier_of_ofHex {text : String} {secret : SharedSecret}
    (read : ofHex text = .ok secret) : testIdentifier text = .ok secret.publicKey := by
  rw [testIdentifier, ofHex_eq_ok_iff_secretOctets.1 read]
  rfl

theorem ofHex_of_alike {left right : String} (alike : AlikeSecrets left right)
    {secret : SharedSecret} (read : ofHex left = .ok secret) : ofHex right = .ok secret :=
  ofHex_eq_ok_iff_secretOctets.2 (alike.secretOctets (ofHex_eq_ok_iff_secretOctets.1 read))

/-! ## Tags -/

/-- The text is the whole tag of the message, with letters in either case. -/
def Tags (secret : SharedSecret) (message : Bytes) (text : String) : Prop :=
  Text.Hex.Spells text.toList (Digest.hmac secret.octets message)

variable {secret : SharedSecret} {message : Bytes} {text : String}

theorem tags_iff : secret.Tags message text ↔
    text.toList.map Char.toLower = (secret.sign message).toList := by
  rw [Tags, Text.Hex.Spells, sign, Text.Hex.encode, String.toList_ofList]

theorem tags_sign (secret : SharedSecret) (message : Bytes) :
    secret.Tags message (secret.sign message) :=
  Text.Hex.spells_encode _

theorem Tags.paired (tags : secret.Tags message text) : Text.Hex.Paired text.toList :=
  Text.Hex.exists_spells_iff.1 ⟨_, tags⟩

/-- A check looks at the digits first, and at the tag where they are in order. -/
theorem verify_cases (secret : SharedSecret) (message : Bytes) (text : String) :
    (secret.Tags message text ∧ secret.verify message text = .ok ()) ∨
    (Text.Hex.Paired text.toList ∧ ¬ secret.Tags message text ∧
      secret.verify message text = .error .invalidSignature) ∨
    (¬ Text.Hex.Paired text.toList ∧
      ∃ reason, secret.verify message text = .error (.notHex reason)) := by
  rw [Tags, ← decodeHex_eq_ok_iff, ← exists_decodeHex_eq_ok_iff, verify]
  cases read : decodeHex text with
  | error why =>
    obtain ⟨reason, rfl⟩ := notHex_of_decodeHex read
    simp [bind, Except.bind]
  | ok octets =>
    by_cases whole : octets = Digest.hmac secret.octets message <;> simp [bind, Except.bind, whole]

theorem verify_eq_ok_iff : secret.verify message text = .ok () ↔ secret.Tags message text := by
  rcases secret.verify_cases message text with
    ⟨tags, same⟩ | ⟨-, other, same⟩ | ⟨unpaired, reason, same⟩
  · simp [same, tags]
  · simp [same, other]
  · simp [same, mt Tags.paired unpaired]

theorem verify_eq_notHex_iff :
    (∃ reason, secret.verify message text = .error (.notHex reason)) ↔
      ¬ Text.Hex.Paired text.toList := by
  rcases secret.verify_cases message text with
    ⟨tags, same⟩ | ⟨paired, -, same⟩ | ⟨unpaired, reason, same⟩
  · simp [same, tags.paired]
  · simp [same, paired]
  · simp [same, unpaired]

theorem verify_eq_invalid_iff :
    secret.verify message text = .error .invalidSignature ↔
      Text.Hex.Paired text.toList ∧ ¬ secret.Tags message text := by
  rcases secret.verify_cases message text with
    ⟨tags, same⟩ | ⟨paired, other, same⟩ | ⟨unpaired, reason, same⟩
  · simp [same, tags]
  · simp [same, paired, other]
  · simp [same, unpaired]

theorem verify_sign (secret : SharedSecret) (message : Bytes) :
    secret.verify message (secret.sign message) = .ok () :=
  verify_eq_ok_iff.2 (tags_sign secret message)

/-- A secret is had from digits in an even number, at least two of them, with blanks around them.
Its public key is the identifier for the text, and a text that is alike gives the same key and the
same signatures. A check succeeds for the whole tag in either case of its letters, cannot be made
where the text is no digits in an even number, and fails for every other text. -/
theorem ofHex_settles (text : String) :
    ((∃ secret, ofHex text = .ok secret) ↔
      ∃ inner, Trimmed text.toList inner ∧ inner ≠ [] ∧ Text.Hex.Paired inner) ∧
    ∀ secret, ofHex text = .ok secret →
      (∃ inner, Trimmed text.toList inner ∧ Text.Hex.Spells inner secret.octets) ∧
      testIdentifier text = .ok secret.publicKey ∧
      (∀ other, AlikeSecrets text other → ∃ twin, ofHex other = .ok twin ∧
        twin.publicKey = secret.publicKey ∧ ∀ message, twin.sign message = secret.sign message) ∧
      ∀ message,
        secret.verify message (secret.sign message) = .ok () ∧
        secret.sign message = Text.Hex.encode (Digest.hmac secret.octets message) ∧
        ∀ signature,
          (secret.verify message signature = .ok () ↔
            signature.toList.map Char.toLower = (secret.sign message).toList) ∧
          ((∃ reason, secret.verify message signature = .error (.notHex reason)) ↔
            ¬ Text.Hex.Paired signature.toList) ∧
          (secret.verify message signature = .error .invalidSignature ↔
            Text.Hex.Paired signature.toList ∧
              signature.toList.map Char.toLower ≠ (secret.sign message).toList) := by
  refine ⟨exists_ofHex_eq_ok_iff, fun secret read => ?_⟩
  refine ⟨ofHex_eq_ok_iff.1 read, testIdentifier_of_ofHex read, fun other alike => ?_,
    fun message => ⟨secret.verify_sign message, rfl, fun signature => ?_⟩⟩
  · exact ⟨secret, ofHex_of_alike alike read, rfl, fun _ => rfl⟩
  · rw [Ne, ← tags_iff]
    exact ⟨verify_eq_ok_iff, verify_eq_notHex_iff, verify_eq_invalid_iff⟩

theorem trimmed_capitals : Trimmed " AB\n".toList ['A', 'B'] := by
  refine ⟨[' '], ['\n'], by decide, Text.forall_mem_of_all (by decide), ?_, ?_⟩
  · rintro _ ⟨⟩
    decide
  · rintro _ ⟨⟩
    decide

theorem trimmed_small : Trimmed "ab".toList ['a', 'b'] := by
  refine ⟨[], [], by decide, List.forall_mem_nil _, ?_, ?_⟩
  · rintro _ ⟨⟩
    decide
  · rintro _ ⟨⟩
    decide

/-- One text with blanks and capital letters, and one without. The digits of an octet are no tag,
and with a blank in front of them they are no digits. -/
theorem ofHex_settles_blanks :
    ∃ secret twin, ofHex " AB\n" = .ok secret ∧ ofHex "ab" = .ok twin ∧
      testIdentifier " AB\n" = .ok secret.publicKey ∧ twin.publicKey = secret.publicKey ∧
      secret.verify [] (twin.sign []) = .ok () ∧
      secret.verify [] "ab" = .error .invalidSignature ∧
      ∃ reason, secret.verify [] " ab" = .error (.notHex reason) := by
  have settled := ofHex_settles " AB\n"
  have paired : Text.Hex.Paired ['A', 'B'] := ⟨rfl, Text.forall_mem_of_all (by decide)⟩
  obtain ⟨secret, read⟩ := settled.1.2 ⟨_, trimmed_capitals, List.cons_ne_nil _ _, paired⟩
  obtain ⟨-, identified, alike, checked⟩ := settled.2 secret read
  obtain ⟨twin, twinRead, sameKey, sameSign⟩ :=
    alike "ab" ⟨['A', 'B'], ['a', 'b'], trimmed_capitals, trimmed_small, by decide⟩
  obtain ⟨genuine, written, others⟩ := checked []
  refine ⟨secret, twin, read, twinRead, identified, sameKey, ?_, ?_, ?_⟩
  · rw [sameSign]
    exact genuine
  · have small : Text.Hex.Paired "ab".toList := ⟨by decide, Text.forall_mem_of_all (by decide)⟩
    refine (others "ab").2.2.2 ⟨small, fun whole => ?_⟩
    have short := congrArg List.length whole
    rw [written, Text.Hex.length_toList_encode, Digest.length_hmac] at short
    exact absurd short (by decide)
  · refine (others " ab").2.1.2 fun blank => ?_
    exact absurd (blank.2 ' ' (by decide)) (by decide)

end SharedSecret

end RelayCheck.Note
