import Mathlib.Data.List.Basic
import RelayCheck.Proofs.Text.Utf8

/-!
Marks in texts.

A text that is put together has a mark where one of its parts has it, if what stands between the
parts does not belong to the mark. The octets of a text have a mark of ASCII where the text has it.
-/

set_option autoImplicit false

namespace RelayCheck.Text

section Parts

variable {α : Type} {mark front rest : List α}

theorem infix_append_cons_iff {between : α} (foreign : between ∉ mark) :
    mark <:+: front ++ between :: rest ↔ mark <:+: front ∨ mark <:+: rest := by
  constructor
  · intro inside
    rcases List.infix_append_iff.1 inside with before | after | ⟨left, right, same, ends, begins⟩
    · exact .inl before
    · rcases List.infix_cons_iff.1 after with begins | after
      · cases mark with
        | nil => exact .inl (List.nil_infix)
        | cons first mark =>
          obtain ⟨rfl, -⟩ := List.cons_prefix_cons.1 begins
          exact absurd List.mem_cons_self foreign
      · exact .inr after
    · cases right with
      | nil =>
        rw [same, List.append_nil]
        exact .inl ends.isInfix
      | cons first right =>
        obtain ⟨rfl, -⟩ := List.cons_prefix_cons.1 begins
        rw [same] at foreign
        exact absurd (List.mem_append_right left List.mem_cons_self) foreign
  · rintro (before | after)
    · exact before.trans (List.prefix_append _ _).isInfix
    · exact after.trans ⟨front ++ [between], [], by simp⟩

/-- A mark does not begin where its first character does not stand. -/
theorem infix_append_iff_of_not_mem {first : α} (plain : first ∉ front) :
    first :: mark <:+: front ++ rest ↔ first :: mark <:+: rest := by
  induction front with
  | nil => rw [List.nil_append]
  | cons character front ih =>
    rw [List.mem_cons, not_or] at plain
    rw [List.cons_append, List.infix_cons_iff, ih plain.2]
    refine or_iff_right fun begins => ?_
    exact plain.1 (List.cons_prefix_cons.1 begins).1

/-- The parts of what is divided do not hold what stands between them. -/
theorem not_mem_of_mem_splitOn [BEq α] [LawfulBEq α] {between : α} {whole part : List α}
    (inside : part ∈ whole.splitOn between) : between ∉ part := by
  induction whole generalizing part with
  | nil =>
    rw [List.splitOn_nil, List.mem_singleton] at inside
    rw [inside]
    exact List.not_mem_nil
  | cons first whole ih =>
    rw [List.splitOn_cons_eq_if_modifyHead] at inside
    split at inside
    · rcases List.mem_cons.1 inside with rfl | inside
      · exact List.not_mem_nil
      · exact ih inside
    · next other =>
      rw [beq_iff_eq] at other
      cases parts : whole.splitOn between with
      | nil => exact absurd parts (List.splitOn_ne_nil _ _)
      | cons begun parts =>
        rw [parts, List.modifyHead_cons] at inside
        rw [parts] at ih
        rcases List.mem_cons.1 inside with rfl | inside
        · rw [List.mem_cons, not_or]
          exact ⟨fun same => other same.symm, ih List.mem_cons_self⟩
        · exact ih (List.mem_cons_of_mem _ inside)

end Parts

namespace Utf8

variable {mark characters : List Char}

theorem ofNat_toNat_inj {left right : Char} (leftAscii : left.toNat < 0x80)
    (rightAscii : right.toNat < 0x80)
    (same : UInt8.ofNat left.toNat = UInt8.ofNat right.toNat) : left = right := by
  have numbers := congrArg UInt8.toNat same
  rw [UInt8.toNat_ofNat_of_lt' (show left.toNat < 256 by omega),
    UInt8.toNat_ofNat_of_lt' (show right.toNat < 256 by omega)] at numbers
  exact Char.toNat_inj.1 numbers

/-- The octet of a character of ASCII is none of those of a character beyond. -/
theorem ofNat_not_mem_utf8EncodeChar {ascii character : Char} (small : ascii.toNat < 0x80)
    (beyond : 0x80 ≤ character.toNat) :
    UInt8.ofNat ascii.toNat ∉ String.utf8EncodeChar character := by
  intro inside
  have large := le_of_mem_utf8EncodeChar beyond inside
  rw [UInt8.toNat_ofNat_of_lt' (show ascii.toNat < 256 by omega)] at large
  omega

theorem flatMap_cons_of_ascii {character : Char} (ascii : character.toNat < 0x80)
    (rest : List Char) : (character :: rest).flatMap String.utf8EncodeChar =
      UInt8.ofNat character.toNat :: rest.flatMap String.utf8EncodeChar := by
  rw [List.flatMap_cons, utf8EncodeChar_of_ascii ascii, List.singleton_append]

theorem prefix_flatMap_iff (ascii : ∀ character ∈ mark, character.toNat < 0x80) :
    mark.flatMap String.utf8EncodeChar <+: characters.flatMap String.utf8EncodeChar ↔
      mark <+: characters := by
  induction mark generalizing characters with
  | nil => exact iff_of_true List.nil_prefix List.nil_prefix
  | cons first mark ih =>
    rw [List.forall_mem_cons] at ascii
    rw [flatMap_cons_of_ascii ascii.1]
    cases characters with
    | nil => simp
    | cons character characters =>
      by_cases small : character.toNat < 0x80
      · rw [flatMap_cons_of_ascii small, List.cons_prefix_cons, List.cons_prefix_cons, ih ascii.2]
        refine and_congr_left fun _ => ⟨ofNat_toNat_inj ascii.1 small, fun same => ?_⟩
        rw [same]
      · have foreign := ofNat_not_mem_utf8EncodeChar ascii.1 (Nat.le_of_not_lt small)
        rw [List.flatMap_cons, List.cons_prefix_cons]
        refine iff_of_false (fun begins => ?_) fun begins => small (begins.1 ▸ ascii.1)
        cases written : String.utf8EncodeChar character with
        | nil => exact absurd written String.utf8EncodeChar_ne_nil
        | cons octet more =>
          rw [written] at begins foreign
          exact foreign (List.mem_cons.2 (.inl (List.cons_prefix_cons.1 begins).1))

/-- The octets of a text hold those of a mark in ASCII only where the text holds the mark. -/
theorem infix_flatMap_iff (ascii : ∀ character ∈ mark, character.toNat < 0x80) :
    mark.flatMap String.utf8EncodeChar <:+: characters.flatMap String.utf8EncodeChar ↔
      mark <:+: characters := by
  cases mark with
  | nil => exact iff_of_true List.nil_infix List.nil_infix
  | cons first mark =>
    induction characters with
    | nil =>
      rw [List.flatMap_nil, List.infix_nil, List.infix_nil, List.flatMap_cons]
      refine iff_of_false (fun empty => ?_) (List.cons_ne_nil first mark)
      exact String.utf8EncodeChar_ne_nil (List.append_eq_nil_iff.1 empty).1
    | cons character characters ih =>
      have begun := (List.forall_mem_cons.1 ascii).1
      rw [List.infix_cons_iff, ← ih]
      by_cases small : character.toNat < 0x80
      · rw [← prefix_flatMap_iff ascii, flatMap_cons_of_ascii small, List.infix_cons_iff]
      · have foreign := ofNat_not_mem_utf8EncodeChar begun (Nat.le_of_not_lt small)
        have other : ¬ first :: mark <+: character :: characters := fun begins =>
          small ((List.cons_prefix_cons.1 begins).1 ▸ begun)
        rw [or_iff_right other, flatMap_cons_of_ascii begun, List.flatMap_cons]
        exact infix_append_iff_of_not_mem foreign

end Utf8

end RelayCheck.Text
