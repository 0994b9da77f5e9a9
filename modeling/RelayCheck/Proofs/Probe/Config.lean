import RelayCheck.Probe.Plan
import RelayCheck.Proofs.Json.Entries
import RelayCheck.Proofs.Upgrade.Request

/-!
Configurations: what is checked of them, which texts they are read from, and what a relay is asked
with them.

A text need not list a setting that has its default. What is read is checked, and the first check
that fails is the one that is told of.
-/

set_option autoImplicit false

namespace RelayCheck.Probe.Config

open Json (ObjectWritten Tree Value Width)
open Note (CanonicalForm)
open Upgrade (EndsOnce Lines Names headMark lineEnd)

/-! ## Checks -/

/-- What must hold of a setting, and the fault if it does not. -/
structure Check where
  holds : Prop
  fault : ConfigFault

/-- The checks in the order in which they are made. -/
def checks (config : Config) : List Check :=
  [⟨config.host ≠ "", .emptyHost⟩, ⟨config.port ≠ 0, .zeroPort⟩,
   ⟨config.path.toList.head? = some '/', .relativePath config.path⟩,
   ⟨config.timeoutSeconds ≠ 0, .zeroTimeout⟩, ⟨config.subscription ≠ "", .emptySubscription⟩]

/-- The fault is that of the first check that fails. -/
def FirstFails (checks : List Check) (fault : ConfigFault) : Prop :=
  ∃ before check later, checks = before ++ check :: later ∧
    (∀ earlier ∈ before, earlier.holds) ∧ ¬ check.holds ∧ check.fault = fault

theorem not_firstFails_nil (fault : ConfigFault) : ¬ FirstFails [] fault := by
  rintro ⟨before, check, later, same, -⟩
  cases before with
  | nil => cases same
  | cons _ _ => cases same

theorem firstFails_cons_iff {check : Check} {rest : List Check} {fault : ConfigFault} :
    FirstFails (check :: rest) fault ↔
      ¬ check.holds ∧ check.fault = fault ∨ check.holds ∧ FirstFails rest fault := by
  constructor
  · rintro ⟨before, other, later, same, earlier, fails⟩
    cases before with
    | nil =>
      obtain ⟨rfl, -⟩ := List.cons.inj same
      exact .inl fails
    | cons first before =>
      obtain ⟨rfl, rest⟩ := List.cons.inj same
      rw [List.forall_mem_cons] at earlier
      exact .inr ⟨earlier.1, before, other, later, rest, earlier.2, fails⟩
  · rintro (fails | ⟨here, before, other, later, same, earlier, fails⟩)
    · exact ⟨[], check, rest, rfl, List.forall_mem_nil _, fails⟩
    · refine ⟨check :: before, other, later, ?_, List.forall_mem_cons.2 ⟨here, earlier⟩, fails⟩
      rw [same, List.cons_append]

theorem ite_eq_some_iff {bad : Prop} [Decidable bad] {fault other : ConfigFault}
    {rest : Option ConfigFault} :
    (if bad then some fault else rest) = some other ↔
      bad ∧ fault = other ∨ ¬ bad ∧ rest = some other := by
  by_cases fails : bad
  · simp [fails]
  · simp [fails]

theorem fault?_eq_some_iff {config : Config} {fault : ConfigFault} :
    config.fault? = some fault ↔ FirstFails config.checks fault := by
  have host : config.host.isEmpty ↔ ¬ config.host ≠ "" := by simp
  have subscription : config.subscription.isEmpty ↔ ¬ config.subscription ≠ "" := by simp
  simp only [fault?, ite_eq_some_iff, checks, firstFails_cons_iff, not_firstFails_nil, host,
    subscription, not_not, Ne, and_false, or_false, reduceCtorEq]

theorem validate_eq_error_iff {config : Config} {why : ProbeError} :
    config.validate = .error why ↔
      ∃ fault, why = .config fault ∧ FirstFails config.checks fault := by
  simp only [← fault?_eq_some_iff, validate]
  cases config.fault? with
  | none => simp
  | some fault => simp [eq_comm]

theorem forall_not_firstFails_iff {checks : List Check} :
    (∀ fault, ¬ FirstFails checks fault) ↔ ∀ check ∈ checks, check.holds := by
  induction checks with
  | nil => exact iff_of_true not_firstFails_nil (List.forall_mem_nil _)
  | cons check rest ih =>
    rw [List.forall_mem_cons, ← ih]
    simp only [firstFails_cons_iff, not_or, not_and]
    constructor
    · intro none
      have here : check.holds := not_not.1 fun fails => (none check.fault).1 fails rfl
      exact ⟨here, fun fault => (none fault).2 here⟩
    · intro ⟨here, later⟩ fault
      exact ⟨fun fails => absurd here fails, fun _ => later fault⟩

theorem validate_eq_ok_iff {config : Config} :
    config.validate = .ok () ↔ ∀ check ∈ config.checks, check.holds := by
  simp only [← forall_not_firstFails_iff, ← fault?_eq_some_iff, validate]
  cases config.fault? with
  | none => simp
  | some fault => simp

/-! ## Texts -/

theorem sound_layout : layout.Sound where
  complete field := by cases field <;> decide
  once := by decide
  named left right := by cases left <;> cases right <;> decide
  faithful field := by
    cases field with
    | signing => exact (by decide : signingNames.Nodup)
    | canonicalForm => exact (by decide : formNames.Nodup)
    | _ => trivial

def signingName : SigningMode → String
  | .schnorr => "schnorr"
  | .sharedSecret => "hmac_test_stub"

def formName : CanonicalForm → String
  | .sortedObject => "sorted_object"
  | .nip01 => "nip01"

/-- The value that a configuration has for a field. -/
def value (config : Config) : Field → Value
  | .host => .string config.host
  | .port => .number (Width.u16.toNumber config.port)
  | .path => .string config.path
  | .timeoutSeconds => .number (Width.u64.toNumber config.timeoutSeconds)
  | .authorCredential => (config.authorCredential.map Value.string).getD .null
  | .signing => .string (signingName config.signing)
  | .canonicalForm => .string (formName config.canonicalForm)
  | .content => .string config.content
  | .kind => .number (Width.u16.toNumber config.kind)
  | .hashtags => .array (config.hashtags.map .string)
  | .subscription => .string config.subscription

/-- What is read for a field of a configuration. -/
def held (config : Config) : (field : Field) → (layout.kind field).Data
  | .host => config.host
  | .port => config.port
  | .path => config.path
  | .timeoutSeconds => config.timeoutSeconds
  | .authorCredential => config.authorCredential
  | .signing =>
    match config.signing with
    | .schnorr => ⟨0, Nat.zero_lt_succ 1⟩
    | .sharedSecret => ⟨1, Nat.lt_succ_self 1⟩
  | .canonicalForm =>
    match config.canonicalForm with
    | .sortedObject => ⟨0, Nat.zero_lt_succ 1⟩
    | .nip01 => ⟨1, Nat.lt_succ_self 1⟩
  | .content => config.content
  | .kind => config.kind
  | .hashtags => config.hashtags
  | .subscription => config.subscription

theorem toValue_held (config : Config) (field : Field) :
    (layout.kind field).toValue (config.held field) = config.value field := by
  obtain ⟨_, _, _, _, credential, signing, form, _, _, _, _⟩ := config
  cases field with
  | authorCredential => cases credential <;> rfl
  | signing => cases signing <;> rfl
  | canonicalForm => cases form <;> rfl
  | _ => rfl

theorem signingAt_held (config : Config) : signingAt (config.held .signing) = config.signing := by
  obtain ⟨_, _, _, _, _, signing, _, _, _, _, _⟩ := config
  cases signing <;> rfl

theorem formAt_held (config : Config) :
    formAt (config.held .canonicalForm) = config.canonicalForm := by
  obtain ⟨_, _, _, _, _, _, form, _, _, _, _⟩ := config
  cases form <;> rfl

/-- The value of a configuration for a field is read as what the configuration holds. -/
theorem read_of_means {config : Config} {field : Field} {tree : Tree}
    (means : tree.Means (config.value field)) :
    (layout.kind field).read tree = .ok (config.held field) := by
  rw [← toValue_held] at means
  have faithful := sound_layout.faithful field
  cases field with
  | signing | canonicalForm =>
    exact Json.Kind.readChoice_of_means (Json.Kind.choose_getElem faithful _) means
  | _ =>
    refine (Json.Kind.read_eq_ok_iff_means _ ?_ faithful).2 means
    trivial

theorem held_eq_of_value_eq {left right : Config} {field : Field}
    (same : left.value field = right.value field) : left.held field = right.held field := by
  rw [← toValue_held, ← toValue_held] at same
  exact (Json.Kind.toValue_inj _ (sound_layout.faithful field)).1 same

theorem ofText_of_read {text : String} {config : Config}
    (read : (Json.Document.ofText text).read ofTree = .ok config) :
    ofText text = config.validate.map fun _ => config := by
  rw [ofText, read]
  dsimp only
  cases config.validate <;> rfl

theorem validate_of_ofText {text : String} {config : Config} (accepted : ofText text = .ok config) :
    config.validate = .ok () := by
  cases read : (Json.Document.ofText text).read ofTree with
  | error why =>
    rw [ofText, read] at accepted
    cases accepted
  | ok other =>
    rw [ofText_of_read read] at accepted
    cases valid : other.validate with
    | error why =>
      rw [valid] at accepted
      cases accepted
    | ok _ =>
      rw [valid] at accepted
      cases accepted
      exact valid

/-- What is read of a configuration whose listed fields are in a text. -/
def filled (config : Config) (listed : List Field) : layout.Filled := fun field =>
  if field ∈ listed then some (config.held field) else none

section Listed

variable {config : Config} {listed : List Field}

theorem getD_filled (rest : ∀ field ∉ listed, config.value field = default.value field)
    (field : Field) :
    (config.filled listed field).getD (default.held field) = config.held field := by
  rw [filled]
  split
  · rfl
  · next absent => exact (held_eq_of_value_eq (rest field absent)).symm

theorem ofFilled_filled (rest : ∀ field ∉ listed, config.value field = default.value field) :
    ofFilled (config.filled listed) = config := by
  have same := getD_filled rest
  have signing : ((config.filled listed .signing).map signingAt).getD default.signing =
      signingAt (config.held .signing) :=
    (Option.getD_map signingAt (default.held .signing) _).trans (congrArg signingAt (same .signing))
  have form : ((config.filled listed .canonicalForm).map formAt).getD default.canonicalForm =
      formAt (config.held .canonicalForm) :=
    (Option.getD_map formAt (default.held .canonicalForm) _).trans
      (congrArg formAt (same .canonicalForm))
  exact (mk.injEq ..).mpr ⟨same .host, same .port, same .path, same .timeoutSeconds,
    same .authorCredential, signing.trans config.signingAt_held,
    form.trans config.formAt_held, same .content, same .kind, same .hashtags, same .subscription⟩

theorem given_listed {others entries : List (String × Tree)} {written : Field → Tree}
    (once : listed.Nodup)
    (spelled : ∀ field ∈ listed, (written field).Means (config.value field))
    (strange : ∀ other ∈ others, ∀ field, other.1 ≠ layout.name field)
    (same : entries.Perm (listed.map (fun field => (layout.name field, written field)) ++ others))
    (field : Field) :
    Json.Layout.Gathers (layout.kind field).read none (layout.given entries field)
      (config.filled listed field) := by
  have names : (listed.map fun field => (layout.name field, written field)).map (·.1) =
      listed.map layout.name := List.map_map
  have unlike := fun other inside => strange other inside field
  rw [filled]
  split
  · next inside =>
    have different : ((listed.map fun field => (layout.name field, written field)).map
        (·.1)).Nodup := by
      rw [names]
      exact once.map (sound_layout.named · ·)
    rw [Json.Layout.given_of_known same different unlike (List.mem_map_of_mem inside)]
    exact ⟨rfl, _, read_of_means (spelled field inside), rfl⟩
  · next outside =>
    rw [Json.Layout.given_of_unknown same unlike]
    · rfl
    · rw [names]
      intro named
      obtain ⟨other, inside, called⟩ := List.mem_map.1 named
      exact outside (sound_layout.named _ _ called ▸ inside)

/-- A configuration is read from every object with the values of some fields, if it has its defaults
for the others, and is checked. -/
theorem ofText_of_listed {others entries : List (String × Tree)} {written : Field → Tree}
    {text : String} (once : listed.Nodup)
    (rest : ∀ field ∉ listed, config.value field = default.value field)
    (spelled : ∀ field ∈ listed, (written field).Means (config.value field))
    (strange : ∀ other ∈ others, ∀ field, other.1 ≠ layout.name field)
    (same : entries.Perm (listed.map (fun field => (layout.name field, written field)) ++ others))
    (object : ObjectWritten entries text) :
    ofText text = config.validate.map fun _ => config := by
  have read : (Json.Document.ofText text).read ofTree = .ok config :=
    (sound_layout.document_read_gathers_iff true (fun filled => .ok (ofFilled filled)) object).2
      ⟨config.filled listed, given_listed once spelled strange same,
        congrArg Except.ok (ofFilled_filled rest)⟩
  exact ofText_of_read read

end Listed

/-- What is read from a text passes the checks. A configuration is read from every object that has
its values for some fields and leaves out no field for which it differs from the default, whatever
the order and the members of other names, if it passes the checks. If it does not, the error is that
of the first check that fails. -/
theorem ofText_settles :
    (∀ text config, ofText text = .ok config → config.validate = .ok ()) ∧
    layout.fields.map layout.name =
      ["host", "port", "path", "timeout_seconds", "author_credential", "signing", "canonical_form",
        "content", "kind", "hashtags", "subscription_id"] ∧
    (∀ (config : Config) (listed : List Field) (written : Field → Tree)
      (others entries : List (String × Tree)) (text : String),
      listed.Nodup →
      (∀ field, config.value field ≠ default.value field → field ∈ listed) →
      (∀ field ∈ listed, (written field).Means (config.value field)) →
      (∀ other ∈ others, ∀ field, other.1 ≠ layout.name field) →
      entries.Perm (listed.map (fun field => (layout.name field, written field)) ++ others) →
      ObjectWritten entries text →
      (config.validate = .ok () → ofText text = .ok config) ∧
        ∀ why, config.validate = .error why → ofText text = .error why) ∧
    ∀ config : Config,
      (∀ why, config.validate = .error why ↔
        ∃ fault, why = .config fault ∧ FirstFails config.checks fault) ∧
      config.checks.map (·.fault.message) =
        ["host is empty", "port must be non-zero", "path must start with '/': " ++ config.path,
          "timeout_seconds must be non-zero", "subscription_id is empty"] := by
  refine ⟨fun _ _ => validate_of_ofText, rfl, ?listed,
    fun _ => ⟨fun _ => validate_eq_error_iff, rfl⟩⟩
  case listed =>
    intro config listed written others entries text once differs spelled strange same object
    have rest : ∀ field ∉ listed, config.value field = default.value field :=
      fun field absent => not_not.1 fun other => absent (differs field other)
    rw [ofText_of_listed once rest spelled strange same object]
    constructor
    · intro valid
      rw [valid]
      rfl
    · intro why invalid
      rw [invalid]
      rfl

/-! ### A text that is read for one timeout and refused for another -/

def someConfig (seconds : UInt64) : Config :=
  { default with timeoutSeconds := seconds, signing := .sharedSecret }

def someListed : List Field := [.kind, .signing, .timeoutSeconds]

def someWritten (seconds : Int) : Field → Tree
  | .kind => .number (.ofInt 1)
  | .signing => .string (.ofText "hmac_test_stub")
  | .timeoutSeconds => .number (.ofInt seconds)
  | _ => .null

def strangeEntry : String × Tree := ("x", .array [.null] .closed)

def someEntries (seconds : Int) : List (String × Tree) :=
  strangeEntry :: someListed.map fun field => (layout.name field, someWritten seconds field)

def someText (seconds : Int) : String :=
  "\x7b\"x\":[null], \"kind\":1,\"signing\":\"hmac_test_stub\",\"timeout_seconds\":" ++
    toString seconds ++ "\x7d"

theorem written_someText {seconds : Int} (either : seconds = 0 ∨ seconds = 9) :
    ObjectWritten (someEntries seconds) (someText seconds) := by
  refine ⟨(someEntries seconds).map fun entry => (.ofText entry.1, entry.2), ?_, ?_, ?_⟩
  · simp [someEntries, strangeEntry, someListed, someWritten, Tree.Complete, Tree.CompleteMembers,
      Tree.CompleteItems]
  · rw [List.forall₂_map_left_iff, List.forall₂_same]
    exact fun entry _ => ⟨Json.StringText.means_ofText entry.1, rfl⟩
  · refine @Json.Token.listWritten_of_allFrom [] _ _ ?_ ?_
    · rcases either with rfl | rfl <;> decide +kernel
    · simp [someEntries, strangeEntry, someListed, someWritten, Tree.tokens, Tree.memberTokens,
        Tree.itemTokens, Json.Token.Clean, Json.StringText.ofText]

theorem means_someWritten {seconds : Int} {number : UInt64}
    (same : (Json.Numeral.ofInt seconds).number = .ok (Width.u64.toNumber number)) :
    ∀ field ∈ someListed, (someWritten seconds field).Means ((someConfig number).value field) := by
  intro field inside
  simp only [someListed, List.mem_cons, List.not_mem_nil, or_false] at inside
  rcases inside with rfl | rfl | rfl
  · exact .number (by decide : (Json.Numeral.ofInt 1).number = .ok (Width.u16.toNumber 1))
  · exact .string (Json.StringText.means_ofText _)
  · exact .number same

theorem ofText_settles_timeout :
    ofText (someText 9) = .ok (someConfig 9) ∧ (someConfig 9).validate = .ok () ∧
      ofText (someText 0) = .error (.config .zeroTimeout) := by
  obtain ⟨checked, -, settled, -⟩ := ofText_settles
  have strange : ∀ other ∈ [strangeEntry], ∀ field, other.1 ≠ layout.name field := by
    intro other inside field
    rw [List.mem_singleton.1 inside]
    cases field <;> decide
  have differs (seconds : UInt64) (field : Field)
      (other : (someConfig seconds).value field ≠ default.value field) : field ∈ someListed := by
    cases field with
    | kind | signing | timeoutSeconds => decide
    | _ => exact absurd rfl other
  have same (seconds : Int) : (someEntries seconds).Perm
      (someListed.map (fun field => (layout.name field, someWritten seconds field)) ++
        [strangeEntry]) := @List.perm_append_comm _ [strangeEntry] _
  have nine := settled (someConfig 9) someListed (someWritten 9) [strangeEntry] (someEntries 9)
    (someText 9) (by decide) (differs 9) (means_someWritten (by decide)) strange (same 9)
    (written_someText (.inr rfl))
  have zero := settled (someConfig 0) someListed (someWritten 0) [strangeEntry] (someEntries 0)
    (someText 0) (by decide) (differs 0) (means_someWritten (by decide)) strange (same 0)
    (written_someText (.inl rfl))
  have read := nine.1 rfl
  exact ⟨read, checked _ _ read, zero.2 _ rfl⟩

/-! ## Requests -/

/-- The request to upgrade with a key. -/
def asked (config : Config) (key : String) : Upgrade.Request :=
  .withKey config.host config.port config.path key

theorem request_eq_asked (probe : Probe) (nonce : Bytes) :
    probe.request nonce = probe.config.asked (Text.Base64.encode nonce) := rfl

theorem path_of_validate {config : Config} (accepted : config.validate = .ok ()) :
    config.path.isEmpty = false := by
  have rooted : config.path.toList.head? = some '/' := by
    refine validate_eq_ok_iff.1 accepted ⟨_, .relativePath config.path⟩ ?_
    exact List.mem_cons_of_mem _ (List.mem_cons_of_mem _ List.mem_cons_self)
  rw [Bool.eq_false_iff, Ne, String.isEmpty_iff]
  intro empty
  rw [empty] at rooted
  cases rooted

theorem path_asked {config : Config} (accepted : config.validate = .ok ()) (key : String) :
    (config.asked key).path = config.path := by
  rw [asked, Upgrade.Request.withKey, path_of_validate accepted]
  rfl

section Asked

variable {config : Config} {key : String}

/-- Nothing else is checked of a host than that it is not empty, and of a path than how it begins.
So the request for a configuration ends its head once, at its end, where neither of them holds the
end of a head; it is cut into its first line and its five headers where neither holds the end of a
line; and its first line is cut into its three words where the path holds no space either. -/
theorem asked_settles (accepted : config.validate = .ok ())
    (base64 : ∀ character ∈ key.toList, Text.Base64.isDigit character) :
    Text.Utf8.decode? (config.asked key).toBytes = some (config.asked key).toText ∧
    (EndsOnce (config.asked key).toBytes ↔
      ¬ headMark <:+: config.host.toList ∧ ¬ headMark <:+: config.path.toList) ∧
    ((∃ first fields, Lines (config.asked key).toText.toList (first :: (fields ++ [[], []])) ∧
      List.Forall₂ Names fields
        [("Host", config.address), ("Upgrade", "websocket"), ("Connection", "Upgrade"),
          ("Sec-WebSocket-Key", key), ("Sec-WebSocket-Version", "13")]) ↔
      ¬ lineEnd <:+: config.host.toList ∧ ¬ lineEnd <:+: config.path.toList) ∧
    ∃ first later, Lines (config.asked key).toText.toList (first :: later) ∧
      (first.splitOn ' ' = ["GET".toList, config.path.toList, "HTTP/1.1".toList] ↔
        ¬ lineEnd <:+: config.path.toList ∧ ' ' ∉ config.path.toList) := by
  have consists := Upgrade.lines_splitLines (config.asked key).toText.toList
  obtain ⟨first, later, same⟩ := List.exists_cons_of_ne_nil consists.nonempty
  rw [same] at consists
  rw [← path_asked accepted key]
  exact ⟨Text.Utf8.decode?_encode _, Upgrade.Request.endsOnce_iff base64,
    Upgrade.Request.exists_lines_iff base64, first, later, consists,
    Upgrade.Request.splitOn_first_iff consists⟩

end Asked

/-- The key for a nonce that is all zero. -/
def zeroKey : String := Text.Base64.encode (List.replicate 16 0)

theorem base64_zeroKey : ∀ character ∈ zeroKey.toList, Text.Base64.isDigit character :=
  Text.Base64.isDigit_of_mem_encode _

theorem asked_settles_default :
    EndsOnce (default.asked zeroKey).toBytes ∧
      ∃ first later, Lines (default.asked zeroKey).toText.toList (first :: later) ∧
        first.splitOn ' ' = ["GET".toList, ['/'], "HTTP/1.1".toList] := by
  obtain ⟨-, ends, -, first, later, consists, divided⟩ :=
    @asked_settles default zeroKey rfl base64_zeroKey
  have plain : ¬ headMark <:+: default.host.toList ∧ ¬ headMark <:+: default.path.toList := by
    decide +kernel
  have words : ¬ lineEnd <:+: default.path.toList ∧ ' ' ∉ default.path.toList := by decide +kernel
  exact ⟨ends.2 plain, first, later, consists, divided.2 words⟩

/-- A configuration with a path that ends the first line and the head. -/
def intrusive : Config := default.withPath "/ HTTP/1.1\r\nX: y\r\n\r\n"

theorem asked_intrusive :
    intrusive.validate = .ok () ∧
      (∀ character ∈ zeroKey.toList, Text.Base64.isDigit character) ∧
      ¬ EndsOnce (intrusive.asked zeroKey).toBytes ∧
      (¬ ∃ first fields, Lines (intrusive.asked zeroKey).toText.toList
        (first :: (fields ++ [[], []])) ∧ List.Forall₂ Names fields
          [("Host", intrusive.address), ("Upgrade", "websocket"), ("Connection", "Upgrade"),
            ("Sec-WebSocket-Key", zeroKey), ("Sec-WebSocket-Version", "13")]) ∧
      ¬ ∃ first later, Lines (intrusive.asked zeroKey).toText.toList (first :: later) ∧
        first.splitOn ' ' = ["GET".toList, intrusive.path.toList, "HTTP/1.1".toList] := by
  have marked : headMark <:+: (intrusive.asked zeroKey).path.toList := by decide +kernel
  have ended : lineEnd <:+: (intrusive.asked zeroKey).path.toList :=
    (List.prefix_append lineEnd lineEnd).isInfix.trans marked
  refine ⟨rfl, base64_zeroKey, fun ends => ?_, fun cut => ?_, ?_⟩
  · exact ((Upgrade.Request.endsOnce_iff base64_zeroKey).1 ends).2 marked
  · exact ((Upgrade.Request.exists_lines_iff base64_zeroKey).1 cut).2 ended
  · rintro ⟨first, later, consists, divided⟩
    exact ((Upgrade.Request.splitOn_first_iff consists).1 divided).1 ended

end RelayCheck.Probe.Config
