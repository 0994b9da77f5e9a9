import RelayCheck.Proofs.Note.Binding
import RelayCheck.Proofs.Note.Record
import RelayCheck.Proofs.Note.SharedSecret

/-!
Sessions with one event.

Fields are assigned, identifiers are computed and checked, and signers are asked, in any order and
as often as one likes. What is said of the event at the end follows from what one action does to
an event, by going through the actions one by one.
-/

set_option autoImplicit false

namespace RelayCheck.Note

/-- One thing that is done with an event. -/
inductive Action
  | assign (field : Event.Field) (data : (Event.layout.kind field).Data)
  | refresh (form : CanonicalForm)
  | identify (form : CanonicalForm)
  | canonicalize (form : CanonicalForm)
  | verify (form : CanonicalForm)
  | payload
  | sign (signer : Signer)
  | write
  /-- The event is written and read again, and what has been read takes its place. -/
  | reread

inductive Answer
  | done
  | text (text : String)
  | octets (octets : Bytes)
deriving DecidableEq, Repr

/-- Leaves the identifier as it is for a form: of the fields only the signature is assigned, and the
identifier is not computed for another form. -/
def Action.Spares (form : CanonicalForm) : Action → Prop
  | .assign field _ => field = .sig
  | .refresh other => other = form
  | _ => True

namespace Event

def assign (event : Event) : (field : Field) → (layout.kind field).Data → Event
  | .id, text => { event with id := text }
  | .pubkey, text => { event with pubkey := text }
  | .createdAt, seconds => { event with createdAt := seconds }
  | .kind, number => { event with kind := number }
  | .tags, tags => { event with tags := tags }
  | .content, text => { event with content := text }
  | .sig, text => { event with sig := text }

/-- The answer of a change and the event after it. A change that fails is none. -/
def settle (event : Event) (answer : Event → Answer) :
    Except NoteError Event → Except NoteError Answer × Event
  | .ok next => (.ok (answer next), next)
  | .error why => (.error why, event)

/-- What an action answers, and the event after it. -/
def perform (event : Event) : Action → Except NoteError Answer × Event
  | .assign field data => (.ok .done, event.assign field data)
  | .refresh form => event.settle (fun next => .text next.id) (event.refreshIdentifier form)
  | .identify form => ((event.computeIdentifier form).map .text, event)
  | .canonicalize form => ((event.canonicalize form).map .octets, event)
  | .verify form => ((event.verifyIdentifier form).map fun _ => .done, event)
  | .payload => (event.signingPayload.map .octets, event)
  | .sign signer => event.settle (fun next => .text next.sig) (event.sign signer)
  | .write => (.ok (.text event.toText), event)
  | .reread => event.settle (fun _ => .done) (ofText event.toText)

/-- The event after some actions, one after the other. -/
def after (event : Event) : List Action → Event
  | [] => event
  | action :: later => (event.perform action).2.after later

/-- What an action sets the signature to, if it does: the text that is assigned, nothing with a new
identifier, and what a signer that does not refuse gives for the payload at that time. -/
def newSig? (event : Event) : Action → Option String
  | .assign .sig text => some text
  | .refresh _ => some ""
  | .sign signer => (event.signingPayload >>= signer.sign).toOption
  | _ => none

/-- What the last of some actions that sets the signature sets it to, if there is one. -/
def lastSig? (event : Event) : List Action → Option String
  | [] => none
  | action :: later => ((event.perform action).2.lastSig? later).or (event.newSig? action)

theorem after_append (event : Event) (before later : List Action) :
    event.after (before ++ later) = (event.after before).after later := by
  induction before generalizing event with
  | nil => rfl
  | cons action before ih => exact ih (event.perform action).2

/-! ## One action -/

theorem perform_refresh (event : Event) (form : CanonicalForm) :
    event.perform (.refresh form) =
      (.ok (.text (event.identifier form)),
        { event with id := event.identifier form, sig := "" }) := by
  rw [perform, refreshIdentifier_eq]
  rfl

theorem perform_reread (event : Event) : event.perform .reread = (.ok .done, event) := by
  rw [perform, ofText_toText]
  rfl

/-- A signer that gives a signature changes nothing else, and one that does not changes nothing. -/
theorem perform_sign (event : Event) (signer : Signer) :
    (∃ sig, event.newSig? (.sign signer) = some sig ∧
      event.perform (.sign signer) = (.ok (.text sig), { event with sig })) ∨
    (∃ why, event.newSig? (.sign signer) = none ∧
      event.perform (.sign signer) = (.error why, event)) := by
  rw [perform, newSig?, sign_eq_bind]
  cases event.signingPayload with
  | error why => exact .inr ⟨why, rfl, rfl⟩
  | ok payload =>
    simp only [bind, Except.bind]
    cases signer.sign payload with
    | error why => exact .inr ⟨why, rfl, rfl⟩
    | ok sig => exact .inl ⟨sig, rfl, rfl⟩

theorem sig_perform (event : Event) (action : Action) :
    (event.perform action).2.sig = (event.newSig? action).getD event.sig := by
  cases action with
  | assign field data => cases field <;> rfl
  | refresh form => rw [perform_refresh, newSig?, Option.getD_some]
  | sign signer =>
    obtain ⟨sig, given, performed⟩ | ⟨why, refused, performed⟩ := event.perform_sign signer
    · rw [performed, given, Option.getD_some]
    · rw [performed, refused, Option.getD_none]
  | reread =>
    rw [perform_reread]
    rfl
  | identify | canonicalize | verify | payload | write => rfl

/-- An action that assigns no field and sets no signature leaves the event as it is. -/
theorem perform_of_idle {event : Event} {action : Action}
    (unassigned : ∀ field data, action ≠ .assign field data)
    (unset : event.newSig? action = none) : (event.perform action).2 = event := by
  cases action with
  | assign field data => exact absurd rfl (unassigned field data)
  | refresh form => cases unset
  | sign signer =>
    obtain ⟨sig, given, -⟩ | ⟨why, -, performed⟩ := event.perform_sign signer
    · cases unset.symm.trans given
    · rw [performed]
  | reread => rw [perform_reread]
  | identify | canonicalize | verify | payload | write => rfl

theorem perform_of_failed {event : Event} {action : Action} {why : NoteError}
    (failed : (event.perform action).1 = .error why) : (event.perform action).2 = event := by
  cases action with
  | assign => cases failed
  | refresh form =>
    rw [perform_refresh] at failed
    cases failed
  | sign signer =>
    obtain ⟨sig, -, performed⟩ | ⟨why, -, performed⟩ := event.perform_sign signer
    · rw [performed] at failed
      cases failed
    · rw [performed]
  | reread => rw [perform_reread]
  | identify | canonicalize | verify | payload | write => rfl

theorem identifier_perform {event : Event} {action : Action} {form : CanonicalForm}
    (identified : event.identifier form = event.id) (spared : action.Spares form) :
    (event.perform action).2.identifier form = (event.perform action).2.id := by
  cases action with
  | assign field data =>
    obtain rfl : field = .sig := spared
    exact (event.identifier_congr form event.id data).trans identified
  | refresh other =>
    obtain rfl : other = form := spared
    rw [perform_refresh]
    exact event.identifier_congr other (event.identifier other) ""
  | sign signer =>
    obtain ⟨sig, -, performed⟩ | ⟨why, -, performed⟩ := event.perform_sign signer
    · rw [performed]
      exact (event.identifier_congr form event.id sig).trans identified
    · rw [performed]
      exact identified
  | reread =>
    rw [perform_reread]
    exact identified
  | identify | canonicalize | verify | payload | write => exact identified

/-! ## Any number of actions -/

theorem sig_after (event : Event) (actions : List Action) :
    (event.after actions).sig = (event.lastSig? actions).getD event.sig := by
  induction actions generalizing event with
  | nil => rfl
  | cons action later ih =>
    rw [after, ih, lastSig?, sig_perform]
    cases (event.perform action).2.lastSig? later with
    | some sig => rfl
    | none => rfl

theorem after_of_idle {event : Event} {actions : List Action}
    (unassigned : ∀ action ∈ actions, ∀ field data, action ≠ .assign field data)
    (unset : event.lastSig? actions = none) : event.after actions = event := by
  induction actions with
  | nil => rfl
  | cons action later ih =>
    rw [lastSig?, Option.or_eq_none_iff] at unset
    have kept := perform_of_idle (unassigned action List.mem_cons_self) unset.2
    rw [kept] at unset
    rw [after, kept]
    exact ih (fun action inside => unassigned action (List.mem_cons_of_mem _ inside)) unset.1

theorem identifier_after {event : Event} {actions : List Action} {form : CanonicalForm}
    (identified : event.identifier form = event.id)
    (spared : ∀ action ∈ actions, action.Spares form) :
    (event.after actions).identifier form = (event.after actions).id := by
  induction actions generalizing event with
  | nil => exact identified
  | cons action later ih =>
    exact ih (identifier_perform identified (spared action List.mem_cons_self))
      fun action inside => spared action (List.mem_cons_of_mem _ inside)

/-! ## Signatures -/

theorem verify_newSig {event : Event} {secret : SharedSecret} {sig : String}
    (given : event.newSig? (.sign secret.signer) = some sig) :
    ∃ payload, event.signingPayload = .ok payload ∧ secret.verify payload sig = .ok () := by
  rw [newSig?] at given
  cases signed : event.signingPayload with
  | error why =>
    rw [signed] at given
    cases given
  | ok payload =>
    rw [signed] at given
    obtain rfl : secret.sign payload = sig := Option.some.inj given
    exact ⟨payload, rfl, secret.verify_sign payload⟩

/-! ## Sessions -/

/-- What holds of an event after some actions, and of every action on the way. -/
structure Consistent (start : Event) (actions : List Action) : Prop where
  /-- Identifiers, and the octets that they are digests of, are never refused. -/
  answered : ∀ before action later, actions = before ++ action :: later →
    (∃ form, action = .refresh form ∨ action = .identify form ∨ action = .canonicalize form) →
    ∃ answer, ((start.after before).perform action).1 = .ok answer
  /-- An identifier that is spared from some point on is that of the contents. -/
  identified : ∀ before form later, actions = before ++ .refresh form :: later →
    (∀ action ∈ later, action.Spares form) →
    (start.after actions).id.toList.length = 64 ∧
      (∀ digit ∈ (start.after actions).id.toList, digit ∈ Text.Hex.smallDigits) ∧
      (start.after actions).verifyIdentifier form = .ok ()
  /-- The signature is what it was last set to. -/
  signed : (start.after actions).sig = (start.lastSig? actions).getD start.sig
  /-- A tag that was given under a secret is the right one as long as nothing is assigned. -/
  tagged : ∀ before secret later,
    actions = before ++ .sign (SharedSecret.signer secret) :: later →
    (∃ answer, ((start.after before).perform (.sign secret.signer)).1 = .ok answer) →
    ((start.after before).perform (.sign secret.signer)).2.lastSig? later = none →
    (∀ action ∈ later, ∀ field data, action ≠ .assign field data) →
    ∃ payload, (start.after actions).signingPayload = .ok payload ∧
      secret.verify payload (start.after actions).sig = .ok ()
  /-- What fails changes nothing. -/
  failed : ∀ before action later why, actions = before ++ action :: later →
    ((start.after before).perform action).1 = .error why →
    ((start.after before).perform action).2 = start.after before
  /-- Only an assignment, a new identifier and a signature change anything. -/
  untouched : ∀ before action later, actions = before ++ action :: later →
    (∀ field data, action ≠ .assign field data) → (∀ form, action ≠ .refresh form) →
    (∀ signer, action ≠ .sign signer) →
    ((start.after before).perform action).2 = start.after before

theorem answered_of_identifying {event : Event} {action : Action} {form : CanonicalForm}
    (identifying : action = .refresh form ∨ action = .identify form ∨
      action = .canonicalize form) :
    ∃ answer, (event.perform action).1 = .ok answer := by
  rcases identifying with rfl | rfl | rfl
  · rw [perform_refresh]
    exact ⟨_, rfl⟩
  · rw [perform, computeIdentifier_eq]
    exact ⟨_, rfl⟩
  · rw [perform, canonicalize_eq]
    exact ⟨_, rfl⟩

theorem identified_of_spared (start : Event) (before later : List Action) {form : CanonicalForm}
    (spared : ∀ action ∈ later, action.Spares form) :
    (start.after (before ++ .refresh form :: later)).identifier form =
      (start.after (before ++ .refresh form :: later)).id := by
  rw [after_append, after]
  apply identifier_after _ spared
  rw [perform_refresh]
  exact (start.after before).identifier_congr form _ ""

theorem tagged_of_idle (start : Event) (before later : List Action) (secret : SharedSecret)
    (accepted : ∃ answer, ((start.after before).perform (.sign secret.signer)).1 = .ok answer)
    (unset : ((start.after before).perform (.sign secret.signer)).2.lastSig? later = none)
    (unassigned : ∀ action ∈ later, ∀ field data, action ≠ .assign field data) :
    ∃ payload,
      (start.after (before ++ .sign secret.signer :: later)).signingPayload = .ok payload ∧
      secret.verify payload (start.after (before ++ .sign secret.signer :: later)).sig =
        .ok () := by
  rw [after_append, after, after_of_idle unassigned unset]
  obtain ⟨sig, given, performed⟩ | ⟨why, -, performed⟩ :=
    (start.after before).perform_sign secret.signer
  · -- the payload does not hold the signature, so it is still the one that was signed
    rw [performed]
    exact verify_newSig given
  · obtain ⟨answer, accepted⟩ := accepted
    rw [performed] at accepted
    cases accepted

theorem untouched_of_reading {event : Event} {action : Action}
    (unassigned : ∀ field data, action ≠ .assign field data)
    (unrefreshed : ∀ form, action ≠ .refresh form) (unsigned : ∀ signer, action ≠ .sign signer) :
    (event.perform action).2 = event := by
  apply perform_of_idle unassigned
  cases action with
  | assign field data => exact absurd rfl (unassigned field data)
  | refresh form => exact absurd rfl (unrefreshed form)
  | sign signer => exact absurd rfl (unsigned signer)
  | identify | canonicalize | verify | payload | write | reread => rfl

/-- Whatever is done with an event, in any order and as often as one likes, it stays consistent. -/
theorem after_consistent (start : Event) (actions : List Action) : Consistent start actions where
  answered := by
    rintro before action later - ⟨form, identifying⟩
    exact answered_of_identifying identifying
  identified := by
    rintro before form later rfl spared
    have identified := identified_of_spared start before later spared
    refine ⟨?_, ?_, (verifyIdentifier_eq_ok_iff _ form).2 identified⟩
    · rw [← identified]
      exact length_toList_identifier _ form
    · rw [← identified]
      intro digit written
      exact Text.Hex.mem_smallDigits_of_mem_encode written
  signed := sig_after start actions
  tagged := by
    rintro before secret later rfl accepted unset unassigned
    exact tagged_of_idle start before later secret accepted unset unassigned
  failed := by
    rintro before action later why - failed
    exact perform_of_failed failed
  untouched := by
    rintro before action later - unassigned unrefreshed unsigned
    exact untouched_of_reading unassigned unrefreshed unsigned

def greeting : Event :=
  new "abc123" "hello" 1 [] 1700000000

/-- A later identifier of another form takes the place of an earlier one, though no field has been
assigned. -/
theorem verifyIdentifier_after_other_form :
    (∀ field data, Action.refresh .nip01 ≠ .assign field data) ∧
      (greeting.after [.refresh .sortedObject, .refresh .nip01]).verifyIdentifier .sortedObject =
        .error (.invalidEvent "Event ID mismatch") := by
  have last : greeting.after [.refresh .sortedObject, .refresh .nip01] =
      { greeting with id := greeting.identifier .nip01, sig := "" } := by
    rw [after, perform_refresh, after, perform_refresh, after, identifier_congr]
  have different : greeting.identifier .sortedObject ≠ greeting.identifier .nip01 := by
    decide +kernel
  refine ⟨nofun, ?_⟩
  rw [last]
  apply verifyIdentifier_of_ne
  rwa [identifier_congr]

def oneOctetSecret : SharedSecret :=
  ⟨[1], nofun⟩

theorem after_consistent_signed :
    (greeting.after [.refresh .nip01, .sign oneOctetSecret.signer, .verify .nip01,
        .reread]).verifyIdentifier .nip01 = .ok () ∧
      ∃ payload,
        (greeting.after [.refresh .nip01, .sign oneOctetSecret.signer, .verify .nip01,
          .reread]).signingPayload = .ok payload ∧
        oneOctetSecret.verify payload
          (greeting.after [.refresh .nip01, .sign oneOctetSecret.signer, .verify .nip01,
            .reread]).sig = .ok () := by
  have consistent := after_consistent greeting
    [.refresh .nip01, .sign oneOctetSecret.signer, .verify .nip01, .reread]
  have identified := consistent.identified [] .nip01
    [.sign oneOctetSecret.signer, .verify .nip01, .reread] rfl (by simp [Action.Spares])
  have tagged := consistent.tagged [.refresh .nip01] oneOctetSecret [.verify .nip01, .reread] rfl
    (by
      have named : (greeting.after [.refresh .nip01]).id ≠ "" := by
        rw [after, after, perform_refresh]
        exact greeting.identifier_ne_empty .nip01
      rw [perform, sign_eq named]
      exact ⟨_, rfl⟩)
    rfl (by simp)
  exact ⟨identified.2.2, tagged⟩

end Event

end RelayCheck.Note
