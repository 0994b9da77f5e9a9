import RelayCheck.Proofs.Note.Identifier
import RelayCheck.Proofs.Text.Utf8

/-!
Events that are built step by step.

Steps that set something replace what was set before, so the last of them counts. Steps with tags
add to those that are there. Whether the content is a text is looked at only when the event is made,
so a step can make good an earlier one. The signer is asked last, and not at all if there is no
event.
-/

set_option autoImplicit false

namespace RelayCheck.Note

open Text.Utf8 (decode encode)

/-! ## Steps that set something -/

section Settings

variable {State Step Data : Type}

/-- What the last of some steps that sets something sets it to, if there is one. -/
def lastSetting? (setting? : Step → Option Data) (steps : List Step) : Option Data :=
  (steps.filterMap setting?).getLast?

/-- If every step puts what it sets in the place of what was there, the last one that sets something
decides what is there in the end. -/
theorem read_foldl_eq_lastSetting? {perform : State → Step → State} {read : State → Option Data}
    {setting? : Step → Option Data}
    (one : ∀ state step, read (perform state step) = (setting? step).or (read state))
    (state : State) (steps : List Step) :
    read (steps.foldl perform state) = (lastSetting? setting? steps).or (read state) := by
  induction steps generalizing state with
  | nil => rfl
  | cons step steps ih =>
    rw [List.foldl_cons, ih, one, lastSetting?, lastSetting?]
    cases found : setting? step with
    | none => rw [List.filterMap_cons_none found, Option.none_or]
    | some data =>
      rw [List.filterMap_cons_some found, List.getLast?_cons, Option.some_or, Option.or_some,
        Option.some_or]

end Settings

/-! ## Steps of a draft -/

namespace Draft

inductive Start
  | new (kind : UInt16)
  | textNote (text : String)

inductive Step
  | content (text : String)
  | contentBytes (octets : Bytes)
  | addTag (tag : List String)
  | addTags (tags : List (List String))
  | createdAt (seconds : Int64)

namespace Start

def draft : Start → Draft
  | .new kind => .new kind
  | .textNote text => .textNote text

def kind : Start → UInt16
  | .new kind => kind
  | .textNote _ => 1

def content : Start → Bytes
  | .new _ => []
  | .textNote text => encode text

end Start

namespace Step

def content? : Step → Option Bytes
  | .content text => some (encode text)
  | .contentBytes octets => some octets
  | .addTag _ | .addTags _ | .createdAt _ => none

/-- The tags that a step adds. -/
def added : Step → List (List String)
  | .addTag tag => [tag]
  | .addTags tags => tags
  | .content _ | .contentBytes _ | .createdAt _ => []

def createdAt? : Step → Option Int64
  | .createdAt seconds => some seconds
  | .content _ | .contentBytes _ | .addTag _ | .addTags _ => none

end Step

def perform (draft : Draft) : Step → Draft
  | .content text => draft.withContent text
  | .contentBytes octets => draft.withContentBytes octets
  | .addTag tag => draft.addTag tag
  | .addTags tags => draft.addTags tags
  | .createdAt seconds => draft.withCreatedAt seconds

/-- A draft after some steps, one after the other. -/
def after (draft : Draft) (steps : List Step) : Draft :=
  steps.foldl perform draft

/-- The octets that the last step or else the start gives as content. -/
def lastContent (start : Start) (steps : List Step) : Bytes :=
  (lastSetting? Step.content? steps).getD start.content

theorem kind_after (draft : Draft) (steps : List Step) : (draft.after steps).kind = draft.kind := by
  rw [after]
  induction steps generalizing draft with
  | nil => rfl
  | cons step steps ih =>
    rw [List.foldl_cons, ih]
    cases step <;> rfl

theorem tags_after (draft : Draft) (steps : List Step) :
    (draft.after steps).tags = draft.tags ++ steps.flatMap Step.added := by
  rw [after]
  induction steps generalizing draft with
  | nil => exact (List.append_nil _).symm
  | cons step steps ih =>
    have one : (draft.perform step).tags = draft.tags ++ step.added := by
      cases step with
      | addTag | addTags => rfl
      | content | contentBytes | createdAt => exact (List.append_nil _).symm
    rw [List.foldl_cons, ih, one, List.flatMap_cons, List.append_assoc]

theorem content_after (draft : Draft) (steps : List Step) :
    (draft.after steps).content = (lastSetting? Step.content? steps).getD draft.content := by
  have one : ∀ (draft : Draft) (step : Step),
      some (draft.perform step).content = step.content?.or (some draft.content) := by
    intro draft step
    cases step <;> rfl
  have last := @read_foldl_eq_lastSetting? _ _ _ perform (fun draft => some draft.content) _ one
    draft steps
  rw [Option.or_some] at last
  exact Option.some.inj last

theorem createdAt_after (draft : Draft) (steps : List Step) :
    (draft.after steps).createdAt = (lastSetting? Step.createdAt? steps).or draft.createdAt :=
  read_foldl_eq_lastSetting? (fun _ step => by cases step <;> rfl) draft steps

/-- Whatever the order of the steps, a draft is what its start and the last or all of the settings
of each sort make it. -/
theorem draft_after (start : Start) (steps : List Step) :
    start.draft.after steps =
      ⟨start.kind, lastContent start steps, steps.flatMap Step.added,
        lastSetting? Step.createdAt? steps⟩ := by
  have timeless : start.draft.createdAt = none := by cases start <;> rfl
  calc start.draft.after steps
    _ = ⟨(start.draft.after steps).kind, (start.draft.after steps).content,
          (start.draft.after steps).tags, (start.draft.after steps).createdAt⟩ := rfl
    _ = _ := by
      rw [kind_after, content_after, tags_after, createdAt_after, timeless, Option.or_none]
      cases start <;> rfl

/-! ## Drafts that are made into events -/

theorem build_eq_error_iff {draft : Draft} {now : Int64} {pubkey : String} {form : CanonicalForm}
    {why : NoteError} :
    draft.build now pubkey form = .error why ↔
      ∃ fault, decode draft.content = .error fault ∧
        why = .encoding s!"content is not UTF-8: {fault.message}" := by
  rw [build]
  cases decode draft.content with
  | error fault =>
    constructor
    · intro failed
      exact ⟨fault, rfl, (Except.error.inj failed).symm⟩
    · intro refused
      obtain ⟨other, same, reason⟩ := refused
      cases same
      rw [reason]
  | ok content =>
    dsimp only
    rw [Event.refreshIdentifier_eq]
    simp

theorem build_of_text {draft : Draft} {content : String} (text : draft.content = encode content)
    (now : Int64) (pubkey : String) (form : CanonicalForm) :
    ∃ event, draft.build now pubkey form = .ok event ∧ event.pubkey = pubkey ∧
      event.content = content ∧ event.tags = draft.tags ∧
      event.createdAt = draft.createdAt.getD now ∧ event.kind = draft.kind ∧ event.sig = "" ∧
      event.verifyIdentifier form = .ok () := by
  rw [build_eq text, Event.refreshIdentifier_eq]
  refine ⟨_, rfl, rfl, rfl, rfl, rfl, rfl, rfl, ?_⟩
  rw [Event.verifyIdentifier_eq_ok_iff]
  exact Event.identifier_congr ..

theorem build_fails_iff {draft : Draft} {now : Int64} {pubkey : String} {form : CanonicalForm} :
    (∃ why, draft.build now pubkey form = .error why) ↔
      ∀ content, draft.content ≠ encode content := by
  simp only [build_eq_error_iff, ← Text.Utf8.exists_fault_iff]
  constructor
  · intro ⟨_, fault, garbled, _⟩
    exact ⟨fault, garbled⟩
  · intro ⟨fault, garbled⟩
    exact ⟨_, fault, garbled, rfl⟩

/-! ## Drafts that are signed -/

section Signing

variable {draft : Draft} {now : Int64} {publicKey : String} {form : CanonicalForm}

theorem id_ne_empty_of_build {event : Event} (built : draft.build now publicKey form = .ok event) :
    event.id ≠ "" := by
  unfold build at built
  split at built
  · cases built
  · rw [Event.refreshIdentifier_eq] at built
    cases built
    exact Event.identifier_ne_empty _ form

variable {m : Type → Type} [Monad m] (ask : Bytes → m (Except NoteError String))

theorem signVia_of_failed {why : NoteError} (failed : draft.build now publicKey form = .error why) :
    draft.signVia now publicKey ask form = pure (.error why) := by
  rw [signVia, failed]

theorem signVia_of_built {event : Event} (built : draft.build now publicKey form = .ok event) :
    draft.signVia now publicKey ask form = do
      let answer ← ask event.payload
      return answer.map fun sig => { event with sig } := by
  rw [signVia, built]
  exact Event.signVia_of_identified (id_ne_empty_of_build built) ask

end Signing

/-- A draft fails to become an event exactly if the octets that were last given as its content are
no text, and says so. Otherwise the event has this content, all tags in order, the last time or else
that of the clock, and an identifier that belongs to it. To sign it is to ask the signer once for
the payload of just this event, of which nothing but the signature changes; if there is no event,
the signer is not asked. A refusal is passed on. -/
theorem after_settles (start : Start) (steps : List Step) (now : Int64) (form : CanonicalForm) :
    (∀ pubkey,
      ((∃ why, (start.draft.after steps).build now pubkey form = .error why) ↔
        ∀ text, lastContent start steps ≠ encode text) ∧
      (∀ why, (start.draft.after steps).build now pubkey form = .error why →
        ∃ fault, decode (lastContent start steps) = .error fault ∧
          why = .encoding s!"content is not UTF-8: {fault.message}") ∧
      ∀ text, lastContent start steps = encode text →
        ∃ event, (start.draft.after steps).build now pubkey form = .ok event ∧
          event.pubkey = pubkey ∧ event.content = text ∧
          event.tags = steps.flatMap Step.added ∧
          event.createdAt = (lastSetting? Step.createdAt? steps).getD now ∧
          event.kind = start.kind ∧ event.sig = "" ∧ event.verifyIdentifier form = .ok ()) ∧
    (∀ (m : Type → Type) [Monad m] (publicKey : String)
      (ask : Bytes → m (Except NoteError String)),
      (∀ why, (start.draft.after steps).build now publicKey form = .error why →
        (start.draft.after steps).signVia now publicKey ask form = pure (.error why)) ∧
      ∀ event, (start.draft.after steps).build now publicKey form = .ok event →
        ∃ payload, event.signingPayload = .ok payload ∧
          (start.draft.after steps).signVia now publicKey ask form = do
            let answer ← ask payload
            return answer.map fun sig => { event with sig }) ∧
    ∀ signer,
      (∀ why, (start.draft.after steps).build now signer.publicKey form = .error why →
        (start.draft.after steps).signWith now signer form = .error why) ∧
      ∀ event, (start.draft.after steps).build now signer.publicKey form = .ok event →
        ∃ payload, event.signingPayload = .ok payload ∧
          (∀ why, signer.sign payload = .error why →
            (start.draft.after steps).signWith now signer form = .error why) ∧
          ∀ sig, signer.sign payload = .ok sig →
            (start.draft.after steps).signWith now signer form = .ok { event with sig } := by
  have content : (start.draft.after steps).content = lastContent start steps := by
    rw [draft_after]
  refine ⟨fun pubkey => ⟨?fails, ?reason, ?builds⟩, fun m _ publicKey ask => ⟨?unasked, ?asked⟩,
    fun signer => ⟨?failed, ?called⟩⟩
  case fails =>
    rw [← content]
    exact build_fails_iff
  case reason =>
    intro why failed
    rw [← content]
    exact build_eq_error_iff.1 failed
  case builds =>
    intro text same
    obtain ⟨event, built⟩ := build_of_text (content.trans same) now pubkey form
    rw [draft_after] at built
    rw [draft_after]
    exact ⟨event, built⟩
  case unasked =>
    intro why failed
    exact signVia_of_failed ask failed
  case asked =>
    intro event built
    have payload := Event.signingPayload_eq (id_ne_empty_of_build built)
    exact ⟨event.payload, payload, signVia_of_built ask built⟩
  case failed =>
    intro why failed
    rw [signWith, signVia_of_failed _ failed]
    rfl
  case called =>
    intro event built
    have payload := Event.signingPayload_eq (id_ne_empty_of_build built)
    rw [signWith, signVia_of_built _ built]
    refine ⟨event.payload, payload, fun why refused => ?_, fun sig given => ?_⟩
    · rw [refused]
      rfl
    · rw [given]
      rfl

/-! ### A content that is made good, and one that is not -/

/-- A signer that takes down what it is asked for, and refuses it. -/
def refusing (payload : Bytes) : StateM (List Bytes) (Except NoteError String) :=
  fun asked => (.error (.signing "busy"), asked ++ [payload])

def spoiling : List Step :=
  [.addTag ["t", "x"], .createdAt 7, .contentBytes [0xFF]]

def mending : List Step :=
  spoiling ++ [.addTags [["p"], ["e"]], .createdAt 5, .contentBytes [0x62]]

theorem after_settles_mended :
    ((Start.textNote "a").draft.after spoiling).signVia 0 "k" refusing .nip01 [] =
        (.error (.encoding "content is not UTF-8: invalid utf-8 sequence of 1 bytes from index 0"),
          []) ∧
      ∃ event, ((Start.textNote "a").draft.after mending).build 0 "k" .nip01 = .ok event ∧
        event.content = "b" ∧ event.tags = [["t", "x"], ["p"], ["e"]] ∧ event.createdAt = 5 ∧
        event.kind = 1 ∧ event.verifyIdentifier .nip01 = .ok () ∧
        ∃ payload, event.signingPayload = .ok payload ∧
          ((Start.textNote "a").draft.after mending).signVia 0 "k" refusing .nip01 [] =
            (.error (.signing "busy"), [payload]) ∧
          ((Start.textNote "a").draft.after mending).signWith 0 ⟨"k", fun _ => .ok "s"⟩ .nip01 =
            .ok { event with sig := "s" } := by
  obtain ⟨spoiled, asked, -⟩ := after_settles (.textNote "a") spoiling 0 .nip01
  constructor
  · have garbled : ∀ text, lastContent (.textNote "a") spoiling ≠ encode text := by
      intro text same
      cases Text.Utf8.decode?_eq_some_iff.2 same
    obtain ⟨fails, reason, -⟩ := spoiled "k"
    obtain ⟨why, failed⟩ := fails.2 garbled
    obtain ⟨fault, decoded, rfl⟩ := reason why failed
    cases decoded
    have wording : (Text.Utf8.Fault.invalid 0 1).message =
        "invalid utf-8 sequence of 1 bytes from index 0" := by decide
    rw [wording] at failed
    exact congrFun ((asked (StateM (List Bytes)) "k" refusing).1 _ failed) []
  · obtain ⟨mended, asked, called⟩ := after_settles (.textNote "a") mending 0 .nip01
    obtain ⟨event, built, -, content, tags, createdAt, kind, -, verified⟩ :=
      (mended "k").2.2 "b" rfl
    obtain ⟨payload, same, told⟩ :=
      (asked (StateM (List Bytes)) "k" refusing).2 event built
    obtain ⟨-, signed⟩ := called ⟨"k", fun _ => .ok "s"⟩
    obtain ⟨_, -, -, given⟩ := signed event built
    exact ⟨event, built, content, tags, createdAt, kind, verified, payload, same,
      congrFun told [], given "s" rfl⟩

end Draft

end RelayCheck.Note
