import Mathlib.Data.List.TakeWhile
import RelayCheck.Text.Span

/-!
Texts without the blanks at their ends, told by what is left and not by how it is found.
-/

set_option autoImplicit false

namespace RelayCheck.Text

/-- The text is `inner` with blanks around it, and `inner` has none at its ends. -/
def Trimmed (text inner : List Char) : Prop :=
  ∃ front back, text = front ++ inner ++ back ∧ (∀ blank ∈ front ++ back, isBlank blank) ∧
    (∀ first ∈ inner.head?, ¬ isBlank first) ∧ ∀ last ∈ inner.getLast?, ¬ isBlank last

theorem not_blank_of_dropWhile {text : List Char} :
    ∀ first ∈ (text.dropWhile isBlank).head?, ¬ isBlank first := by
  intro first begins
  have other := List.head?_dropWhile_not isBlank text
  rw [Option.mem_def.1 begins] at other
  exact Bool.not_eq_true _ ▸ other

theorem dropWhile_append {front rest : List Char} (blank : ∀ blank ∈ front, isBlank blank)
    (other : ∀ first ∈ rest.head?, ¬ isBlank first) :
    (front ++ rest).dropWhile isBlank = rest := by
  rw [List.dropWhile_append_of_pos blank]
  cases rest with
  | nil => rfl
  | cons first rest => exact List.dropWhile_cons_of_neg (other first rfl)

theorem trimmed_iff {text inner : List Char} : Trimmed text inner ↔ trimChars text = inner := by
  constructor
  · intro ⟨front, back, same, blank, begins, ends⟩
    have before : ∀ blank ∈ front, isBlank blank := fun each member =>
      blank each (List.mem_append_left back member)
    have after : ∀ blank ∈ back.reverse, isBlank blank := fun each member =>
      blank each (List.mem_append_right front (List.mem_reverse.1 member))
    have started : (front ++ (inner ++ back)).dropWhile isBlank = inner ++ back ∨ inner = [] := by
      cases inner with
      | nil => exact .inr rfl
      | cons first inner => exact .inl (dropWhile_append before begins)
    rw [same, trimChars, List.append_assoc]
    rcases started with started | empty
    · rw [started, List.reverse_append, dropWhile_append after, List.reverse_reverse]
      rwa [List.head?_reverse]
    · rw [empty, List.nil_append, List.dropWhile_eq_nil_iff.2 blank]
      rfl
  · intro same
    let middle := text.dropWhile isBlank
    have parts : middle = inner ++ (middle.reverse.takeWhile isBlank).reverse := by
      rw [← same, trimChars, ← List.reverse_append, List.takeWhile_append_dropWhile,
        List.reverse_reverse]
    refine ⟨text.takeWhile isBlank, (middle.reverse.takeWhile isBlank).reverse, ?_, ?_, ?_, ?_⟩
    · rw [List.append_assoc, ← parts, List.takeWhile_append_dropWhile]
    · intro each member
      rw [List.mem_append, List.mem_reverse] at member
      rcases member with member | member
      · exact List.mem_takeWhile_imp member
      · exact List.mem_takeWhile_imp member
    · intro first begins
      refine @not_blank_of_dropWhile text first ?_
      show first ∈ middle.head?
      rw [parts, List.head?_append, Option.mem_def.1 begins]
      rfl
    · rw [← same, trimChars, List.getLast?_reverse]
      exact not_blank_of_dropWhile

end RelayCheck.Text
