import RelayCheck.Json.Tree
import RelayCheck.Proofs.Json.Token

/-!
Trees come back from their tokens.

A complete tree, one of a text in which nothing is wrong, is spelled out as tokens. Building goes
through them and gets the tree back, in whatever frames and with whatever tokens behind it.
-/

set_option autoImplicit false

namespace RelayCheck.Json.Tree

mutual

/-- Nothing is wrong anywhere in a tree. -/
def Complete : Tree → Prop
  | .null | .bool _ | .number _ | .string _ => True
  | .array items ending => CompleteItems items ∧ ending = .closed
  | .object members ending => CompleteMembers members ∧ ending = .closed
  | .damaged _ _ | .absent _ => False

def CompleteItems : List Tree → Prop
  | [] => True
  | tree :: rest => Complete tree ∧ CompleteItems rest

def CompleteMembers : List (StringText × Tree) → Prop
  | [] => True
  | (_, tree) :: rest => Complete tree ∧ CompleteMembers rest

end

mutual

/-- The tokens of a tree, as far as it has any. -/
def tokens : Tree → List Token
  | .null => [.null]
  | .bool value => [.bool value]
  | .number numeral => [.number numeral]
  | .string text => [.string text]
  | .array items _ => .openArray :: itemTokens items ++ [.closeArray]
  | .object members _ => .openObject :: memberTokens members ++ [.closeObject]
  | .damaged literal why => [.damaged literal why]
  | .absent _ => []

def itemTokens : List Tree → List Token
  | [] => []
  | [tree] => tokens tree
  | tree :: next :: rest => tokens tree ++ .comma :: itemTokens (next :: rest)

def memberTokens : List (StringText × Tree) → List Token
  | [] => []
  | [(name, tree)] => .string name :: .colon :: tokens tree
  | (name, tree) :: next :: rest =>
    .string name :: .colon :: tokens tree ++ .comma :: memberTokens (next :: rest)

end

/-- A place where a value may stand. -/
def Opens (next : Place) : Prop :=
  next = .value ∨ next = .firstItem

def OpensMember (next : Place) : Prop :=
  next = .name ∨ next = .firstName

mutual

/-- Building takes the tokens of a complete tree as that tree. -/
theorem build_tokens (tree : Tree) (complete : Complete tree) (next : Place) (opens : Opens next)
    (frames : List Frame) (rest : List Token) :
    build next frames (tokens tree ++ rest) = build.finish tree frames rest := by
  match tree with
  | .null => rcases opens with rfl | rfl <;> simp [tokens, build]
  | .bool value => rcases opens with rfl | rfl <;> simp [tokens, build]
  | .number numeral => rcases opens with rfl | rfl <;> simp [tokens, build]
  | .string text => rcases opens with rfl | rfl <;> simp [tokens, build]
  | .array items ending =>
    obtain ⟨items_complete, rfl⟩ := complete
    have inner : build .firstItem (.array [] :: frames) (itemTokens items ++ .closeArray :: rest) =
        build.finish (.array items .closed) frames rest := by
      cases items with
      | nil => simp [itemTokens, build]
      | cons first others =>
        exact build_itemTokens (first :: others) (List.cons_ne_nil _ _) items_complete .firstItem
          (.inr rfl) [] frames rest
    rcases opens with rfl | rfl <;> simpa [tokens, build] using inner
  | .object members ending =>
    obtain ⟨members_complete, rfl⟩ := complete
    have inner : build .firstName (.object [] :: frames)
        (memberTokens members ++ .closeObject :: rest) =
        build.finish (.object members .closed) frames rest := by
      cases members with
      | nil => simp [memberTokens, build]
      | cons first others =>
        exact build_memberTokens (first :: others) (List.cons_ne_nil _ _) members_complete
          .firstName (.inr rfl) [] frames rest
    rcases opens with rfl | rfl <;> simpa [tokens, build] using inner
  | .damaged literal why => exact complete.elim
  | .absent why => exact complete.elim

theorem build_itemTokens (items : List Tree) (nonempty : items ≠ [])
    (complete : CompleteItems items) (next : Place) (opens : Opens next) (done : List Tree)
    (frames : List Frame) (rest : List Token) :
    build next (.array done :: frames) (itemTokens items ++ .closeArray :: rest) =
      build.finish (.array (done.reverse ++ items) .closed) frames rest := by
  match items with
  | [] => exact absurd rfl nonempty
  | [tree] =>
    rw [itemTokens, build_tokens tree complete.1 next opens]
    simp [build, build.finish, place]
  | tree :: second :: others =>
    rw [itemTokens, List.append_assoc, build_tokens tree complete.1 next opens]
    simp only [build.finish, place, List.cons_append, build]
    rw [build_itemTokens (second :: others) (List.cons_ne_nil _ _) complete.2 .value (.inl rfl)]
    simp

theorem build_memberTokens (members : List (StringText × Tree)) (nonempty : members ≠ [])
    (complete : CompleteMembers members) (next : Place) (opens : OpensMember next)
    (done : List (StringText × Tree)) (frames : List Frame) (rest : List Token) :
    build next (.object done :: frames) (memberTokens members ++ .closeObject :: rest) =
      build.finish (.object (done.reverse ++ members) .closed) frames rest := by
  have named : ∀ name rest, build next (.object done :: frames) (.string name :: .colon :: rest) =
      build .value (.member done name :: frames) rest := by
    intro name rest
    rcases opens with rfl | rfl <;> simp [build]
  match members with
  | [] => exact absurd rfl nonempty
  | [(name, tree)] =>
    simp only [memberTokens, List.cons_append]
    rw [named, build_tokens tree complete.1 .value (.inl rfl)]
    simp [build, build.finish, place]
  | (name, tree) :: second :: others =>
    simp only [memberTokens, List.cons_append, List.append_assoc]
    rw [named, build_tokens tree complete.1 .value (.inl rfl)]
    simp only [build.finish, place, build]
    rw [build_memberTokens (second :: others) (List.cons_ne_nil _ _) complete.2 .name (.inl rfl)]
    simp

end

/-! ## Numbers end -/

open Token (Separated Ends)

/-- The tokens go on with the end of a value, if they go on. -/
theorem separated_append {before after : List Token} (first : Separated before)
    (second : Separated after) (ends : ∀ next ∈ after.head?, next.Ends) :
    Separated (before ++ after) :=
  List.isChain_append.2 ⟨first, second, fun _ _ next head _ => ends next head⟩

mutual

theorem separated_tokens (tree : Tree) : Separated tree.tokens := by
  match tree with
  | .null | .bool _ | .number _ | .string _ | .damaged _ _ => exact .singleton _
  | .absent _ => exact .nil
  | .array items ending =>
    have inner := separated_append (separated_itemTokens items) (.singleton .closeArray)
      (by simp [Ends])
    exact List.isChain_cons.2 ⟨by simp, inner⟩
  | .object members ending =>
    have inner := separated_append (separated_memberTokens members) (.singleton .closeObject)
      (by simp [Ends])
    exact List.isChain_cons.2 ⟨by simp, inner⟩

theorem separated_itemTokens (items : List Tree) : Separated (itemTokens items) := by
  match items with
  | [] => exact .nil
  | [tree] => exact separated_tokens tree
  | tree :: next :: rest =>
    have later : Separated (.comma :: itemTokens (next :: rest)) :=
      List.isChain_cons.2 ⟨by simp, separated_itemTokens (next :: rest)⟩
    exact separated_append (separated_tokens tree) later (by simp [Ends])

theorem separated_memberTokens (members : List (StringText × Tree)) :
    Separated (memberTokens members) := by
  match members with
  | [] => exact .nil
  | [(name, tree)] =>
    exact List.isChain_cons.2 ⟨by simp, List.isChain_cons.2 ⟨by simp, separated_tokens tree⟩⟩
  | (name, tree) :: next :: rest =>
    have later : Separated (.comma :: memberTokens (next :: rest)) :=
      List.isChain_cons.2 ⟨by simp, separated_memberTokens (next :: rest)⟩
    have value := separated_append (separated_tokens tree) later (by simp [Ends])
    exact List.isChain_cons.2 ⟨by simp, List.isChain_cons.2 ⟨by simp, value⟩⟩

end

/-! ## Every complete tree has been spelled out -/

/-- Items with a comma behind each of them. -/
def itemsAhead (items : List Tree) : List Token :=
  items.flatMap fun tree => tree.tokens ++ [.comma]

def membersAhead (members : List (StringText × Tree)) : List Token :=
  members.flatMap fun member => .string member.1 :: .colon :: member.2.tokens ++ [.comma]

theorem itemTokens_concat (items : List Tree) (tree : Tree) :
    itemTokens (items ++ [tree]) = itemsAhead items ++ tree.tokens := by
  induction items with
  | nil => rfl
  | cons first rest ih =>
    cases rest with
    | nil => simp [itemTokens, itemsAhead]
    | cons second rest =>
      rw [List.cons_append, List.cons_append, itemTokens, ← List.cons_append, ih]
      simp [itemsAhead]

theorem memberTokens_concat (members : List (StringText × Tree)) (name : StringText)
    (tree : Tree) :
    memberTokens (members ++ [(name, tree)]) =
      membersAhead members ++ .string name :: .colon :: tree.tokens := by
  induction members with
  | nil => rfl
  | cons first rest ih =>
    cases rest with
    | nil => simp [memberTokens, membersAhead]
    | cons second rest =>
      rw [List.cons_append, List.cons_append, memberTokens, ← List.cons_append, ih]
      simp [membersAhead]

theorem itemTokens_comma {items : List Tree} (nonempty : items ≠ []) :
    itemTokens items ++ [.comma] = itemsAhead items := by
  obtain ⟨front, last, rfl⟩ := List.eq_nil_or_concat items |>.resolve_left nonempty
  simp [itemTokens_concat, itemsAhead]

theorem memberTokens_comma {members : List (StringText × Tree)} (nonempty : members ≠ []) :
    memberTokens members ++ [.comma] = membersAhead members := by
  obtain ⟨front, ⟨name, tree⟩, rfl⟩ := List.eq_nil_or_concat members |>.resolve_left nonempty
  simp [memberTokens_concat, membersAhead]

/-- A value is awaited inside the frames, with these tokens before it. -/
inductive Awaited : List Frame → List Token → Prop
  | text : Awaited [] []
  | item {frames : List Frame} {spent : List Token} (items : List Tree)
      (outer : Awaited frames spent) :
      Awaited (.array items :: frames) (spent ++ .openArray :: itemsAhead items.reverse)
  | member {frames : List Frame} {spent : List Token} (members : List (StringText × Tree))
      (name : StringText) (outer : Awaited frames spent) :
      Awaited (.member members name :: frames)
        (spent ++ .openObject :: (membersAhead members.reverse ++ [.string name, .colon]))

/-- The builder has come to a place inside the frames by these tokens. -/
inductive Spent : Place → List Frame → List Token → Prop
  | value {frames : List Frame} {spent : List Token} (awaited : Awaited frames spent) :
      Spent .value frames spent
  | firstItem {frames : List Frame} {spent : List Token} (outer : Awaited frames spent) :
      Spent .firstItem (.array [] :: frames) (spent ++ [.openArray])
  | firstName {frames : List Frame} {spent : List Token} (outer : Awaited frames spent) :
      Spent .firstName (.object [] :: frames) (spent ++ [.openObject])
  | name {frames : List Frame} {spent : List Token} (members : List (StringText × Tree))
      (outer : Awaited frames spent) :
      Spent .name (.object members :: frames) (spent ++ .openObject :: membersAhead members.reverse)
  | colon {frames : List Frame} {spent : List Token} (members : List (StringText × Tree))
      (name : StringText) (outer : Awaited frames spent) :
      Spent .colon (.member members name :: frames)
        (spent ++ .openObject :: (membersAhead members.reverse ++ [.string name]))
  | item {frames : List Frame} {spent : List Token} (items : List Tree)
      (outer : Awaited frames spent) (nonempty : items ≠ []) :
      Spent .separator (.array items :: frames) (spent ++ .openArray :: itemTokens items.reverse)
  | member {frames : List Frame} {spent : List Token} (members : List (StringText × Tree))
      (outer : Awaited frames spent) (nonempty : members ≠ []) :
      Spent .separator (.object members :: frames)
        (spent ++ .openObject :: memberTokens members.reverse)

theorem not_complete_enclose {tree : Tree} (frames : List Frame) (incomplete : ¬ tree.Complete) :
    ¬ (enclose tree frames).Complete := by
  induction frames generalizing tree with
  | nil => exact incomplete
  | cons frame frames ih =>
    cases frame <;> exact ih (by simp [Complete])

theorem not_complete_breakOff {ending : Ending} (frames : List Frame) (wrong : ending ≠ .closed) :
    ¬ (breakOff ending frames).Complete := by
  cases frames with
  | nil => simp [breakOff, Complete]
  | cons frame frames =>
    cases frame <;> exact not_complete_enclose frames (by simp [Complete, wrong])

theorem not_complete_noValue (why : Fault) (next : Place) (frames : List Frame) :
    ¬ (noValue why next frames).Complete := by
  unfold noValue
  split
  · split
    · exact not_complete_breakOff _ (by simp)
    · exact not_complete_breakOff _ (by simp)
  · exact not_complete_enclose frames (by simp [Complete])

/-- The tokens gone through are those of the tree, as far as they were needed. -/
def Used (document : Document) (tokens : List Token) : Prop :=
  ∃ rest, tokens = document.tree.tokens ++ rest ∧ document.trailing = !rest.isEmpty

/-- Whatever tokens come next, a complete tree is made of all that the builder has gone through. -/
def Accounted (tokens : List Token) : Prop :=
  ∀ {next : Place} {frames : List Frame} {spent : List Token}, Spent next frames spent →
    (build next frames tokens).tree.Complete → Used (build next frames tokens) (spent ++ tokens)

theorem used_finish {frames : List Frame} {spent tokens : List Token} {tree : Tree}
    (awaited : Awaited frames spent) (accounted : Accounted tokens)
    (complete : (build.finish tree frames tokens).tree.Complete) :
    Used (build.finish tree frames tokens) (spent ++ (tree.tokens ++ tokens)) := by
  cases awaited with
  | text =>
    rw [build.finish]
    exact ⟨tokens, rfl, rfl⟩
  | item items outer =>
    rw [build.finish, place] at complete ⊢
    have used := accounted (.item (tree :: items) outer (List.cons_ne_nil _ _)) complete
    simpa [itemTokens_concat] using used
  | member members name outer =>
    rw [build.finish, place] at complete ⊢
    have used := accounted (.member ((name, tree) :: members) outer (List.cons_ne_nil _ _)) complete
    simpa [memberTokens_concat] using used

theorem used_value {next : Place} {frames : List Frame} {spent tokens : List Token}
    (opens : Opens next) (awaited : Awaited frames spent) (accounted : Accounted tokens)
    {token : Token} (other : token ≠ .closeArray)
    (complete : (build next frames (token :: tokens)).tree.Complete) :
    Used (build next frames (token :: tokens)) (spent ++ token :: tokens) := by
  have single : ∀ tree, tree.tokens = [token] →
      build next frames (token :: tokens) = build.finish tree frames tokens →
      Used (build next frames (token :: tokens)) (spent ++ token :: tokens) := by
    intro tree itself finished
    rw [finished] at complete ⊢
    have used := used_finish awaited accounted complete
    rwa [itself] at used
  have refused : ∀ tree, ¬ tree.Complete →
      build next frames (token :: tokens) = ⟨tree, false⟩ →
      Used (build next frames (token :: tokens)) (spent ++ token :: tokens) := by
    intro tree incomplete refused
    rw [refused] at complete
    exact absurd complete incomplete
  cases token with
  | closeArray => exact absurd rfl other
  | null => exact single .null rfl (by obtain rfl | rfl := opens <;> simp [build])
  | bool value => exact single (.bool value) rfl (by obtain rfl | rfl := opens <;> simp [build])
  | number numeral =>
    exact single (.number numeral) rfl (by obtain rfl | rfl := opens <;> simp [build])
  | string text => exact single (.string text) rfl (by obtain rfl | rfl := opens <;> simp [build])
  | openArray =>
    have step : build next frames (.openArray :: tokens) =
        build .firstItem (.array [] :: frames) tokens := by
      obtain rfl | rfl := opens <;> simp [build]
    rw [step] at complete ⊢
    simpa using accounted (.firstItem awaited) complete
  | openObject =>
    have step : build next frames (.openObject :: tokens) =
        build .firstName (.object [] :: frames) tokens := by
      obtain rfl | rfl := opens <;> simp [build]
    rw [step] at complete ⊢
    simpa using accounted (.firstName awaited) complete
  | damaged literal why =>
    exact refused (enclose (.damaged literal why) frames)
      (not_complete_enclose frames (by simp [Complete]))
      (by obtain rfl | rfl := opens <;> simp [build])
  | closeObject | comma | colon | stray =>
    exact refused (noValue .malformed next frames) (not_complete_noValue _ _ _)
      (by obtain rfl | rfl := opens <;> simp [build])

theorem accounted_cons {token : Token} {tokens : List Token} (accounted : Accounted tokens) :
    Accounted (token :: tokens) := by
  intro next frames spent reached complete
  cases reached with
  | value awaited =>
    by_cases close : token = .closeArray
    · subst close
      simp only [build] at complete
      exact absurd complete (not_complete_noValue _ _ _)
    · exact used_value (.inl rfl) awaited accounted close complete
  | firstItem outer =>
    by_cases close : token = .closeArray
    · subst close
      simp only [build] at complete ⊢
      simpa [Tree.tokens, itemTokens] using used_finish outer accounted complete
    · simpa [itemsAhead] using used_value (.inr rfl) (.item [] outer) accounted close complete
  | firstName outer =>
    cases token <;> simp only [build] at complete ⊢
    case closeObject =>
      simpa [Tree.tokens, memberTokens] using used_finish outer accounted complete
    case string text =>
      simpa [membersAhead] using accounted (.colon [] text outer) complete
    all_goals exact absurd complete (not_complete_breakOff _ (by simp))
  | name members outer =>
    cases token <;> simp only [build] at complete ⊢
    case string text => simpa using accounted (.colon members text outer) complete
    all_goals exact absurd complete (not_complete_breakOff _ (by simp))
  | colon members name outer =>
    cases token <;> simp only [build] at complete ⊢
    case colon => simpa using accounted (.value (.member members name outer)) complete
    all_goals exact absurd complete (not_complete_enclose _ (by simp [Complete]))
  | item items outer nonempty =>
    cases token <;> simp only [build] at complete ⊢
    case comma =>
      have used := accounted (.value (.item items outer)) complete
      rw [← itemTokens_comma (mt List.reverse_eq_nil_iff.1 nonempty)] at used
      simpa using used
    case closeArray => simpa [Tree.tokens] using used_finish outer accounted complete
    all_goals exact absurd complete (not_complete_breakOff _ (by simp))
  | member members outer nonempty =>
    cases token <;> simp only [build] at complete ⊢
    case comma =>
      have used := accounted (.name members outer) complete
      rw [← memberTokens_comma (mt List.reverse_eq_nil_iff.1 nonempty)] at used
      simpa using used
    case closeObject => simpa [Tree.tokens] using used_finish outer accounted complete
    all_goals exact absurd complete (not_complete_breakOff _ (by simp))

theorem accounted_nil : Accounted [] := by
  intro next frames spent reached complete
  cases reached <;> simp only [build] at complete
  case value | firstItem => exact absurd complete (not_complete_noValue _ _ _)
  case colon => exact absurd complete (not_complete_enclose _ (by simp [Complete]))
  all_goals exact absurd complete (not_complete_breakOff _ (by simp))

theorem accounted_all (tokens : List Token) : Accounted tokens := by
  induction tokens with
  | nil => exact accounted_nil
  | cons token tokens ih => exact accounted_cons ih

end RelayCheck.Json.Tree

namespace RelayCheck.Json

/-- The tokens of a complete tree make up a document of that tree and nothing else. -/
theorem Document.ofTokens_tokens {tree : Tree} (complete : tree.Complete) :
    Document.ofTokens tree.tokens = ⟨tree, false⟩ := by
  have built := Tree.build_tokens tree complete .value (.inl rfl) [] []
  rw [List.append_nil] at built
  rw [Document.ofTokens, built, Tree.build.finish]
  rfl

/-- A document of a complete tree and nothing else has the tokens of that tree. -/
theorem Document.tokens_of_ofTokens {tokens : List Token} {tree : Tree}
    (built : Document.ofTokens tokens = ⟨tree, false⟩) (complete : tree.Complete) :
    tokens = tree.tokens := by
  rw [Document.ofTokens] at built
  have used := Tree.accounted_all tokens (.value .text) (by rwa [built])
  obtain ⟨rest, same, trailing⟩ := used
  rw [built] at same trailing
  have nothing : rest = [] := by simpa using trailing
  simpa [nothing] using same

end RelayCheck.Json
