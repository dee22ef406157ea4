import Mathlib.Data.List.DropRight
import QueryCompletion.Text.Space

/-!
Trimming. White space before a text is of no account, and anything else makes the trimmed text longer
than what can be trimmed from behind it.
-/

namespace QueryCompletion.Text

theorem trim_eq (text : Text) : trim text = (text.dropWhile isSpace).rdropWhile isSpace := rfl

theorem rdropWhile_append (member : Char → Bool) (left right : Text) :
    (left ++ right).rdropWhile member =
      if right.rdropWhile member = [] then left.rdropWhile member
      else left ++ right.rdropWhile member := by
  simp only [List.rdropWhile, List.reverse_append, List.dropWhile_append, List.isEmpty_iff,
    List.reverse_eq_nil_iff]
  split
  · rfl
  · rw [List.reverse_append, List.reverse_reverse]

theorem rdropWhile_length_le (member : Char → Bool) (left right : Text) :
    (right.rdropWhile member).length ≤ ((left ++ right).rdropWhile member).length := by
  rw [rdropWhile_append]
  split
  · rename_i empty
    rw [empty]; exact Nat.zero_le _
  · rw [List.length_append]; exact Nat.le_add_left _ _

theorem rdropWhile_length_lt {member : Char → Bool} {left : Text} (right : Text)
    (solid : ∃ c ∈ left, member c = false) :
    (right.rdropWhile member).length < ((left ++ right).rdropWhile member).length := by
  obtain ⟨c, inside, other⟩ := solid
  rw [rdropWhile_append]
  split
  · rename_i empty
    rw [empty, List.length_nil, List.length_pos_iff]
    intro all
    rw [List.rdropWhile_eq_nil_iff.mp all c inside] at other
    cases other
  · rw [List.length_append]
    have := List.length_pos_of_mem inside
    omega

theorem trim_spaces_append {spaces : Text} (rest : Text) (all : ∀ c ∈ spaces, isSpace c = true) :
    trim (spaces ++ rest) = trim rest := by
  rw [trim_eq, trim_eq, List.dropWhile_append_of_pos all]

theorem trim_length_le {rest text : Text} (behind : rest <:+ text) :
    (trim rest).length ≤ (text.rdropWhile isSpace).length := by
  obtain ⟨front, rfl⟩ := behind
  have inner := rdropWhile_length_le isSpace (rest.takeWhile isSpace) (rest.dropWhile isSpace)
  rw [List.takeWhile_append_dropWhile] at inner
  exact Nat.le_trans inner (rdropWhile_length_le isSpace front rest)

/-- What is trimmed with something solid before it is not trimmed from any part behind that. -/
theorem trim_append_ne {front text rest : Text} (solid : ∃ c ∈ front, isSpace c = false)
    (behind : rest <:+ text) : trim (front ++ text) ≠ trim rest := by
  intro same
  have bound := trim_length_le behind
  have kept : ∃ c ∈ front.dropWhile isSpace, isSpace c = false := by
    obtain ⟨c, inside, other⟩ := solid
    rw [← List.takeWhile_append_dropWhile (p := isSpace) (l := front)] at inside
    rcases List.mem_append.mp inside with space | later
    · rw [List.mem_takeWhile_imp space] at other; cases other
    · exact ⟨c, later, other⟩
  have longer := rdropWhile_length_lt text kept
  have some' : (front.dropWhile isSpace).isEmpty = false := by
    obtain ⟨c, inside, _⟩ := kept
    cases h : front.dropWhile isSpace with
    | nil => rw [h] at inside; cases inside
    | cons => rfl
  rw [← same, trim_eq, List.dropWhile_append, some', if_neg Bool.false_ne_true] at bound
  omega

/-- A text is its trimmed form between white space. -/
theorem trim_decompose (text : Text) :
    ∃ left right, text = left ++ trim text ++ right ∧ (∀ c ∈ left, isSpace c = true) ∧
      (∀ c ∈ right, isSpace c = true) ∧ left = text.takeWhile isSpace := by
  refine ⟨text.takeWhile isSpace, (text.dropWhile isSpace).rtakeWhile isSpace, ?_,
    fun c inside => List.mem_takeWhile_imp inside, fun c inside => List.mem_rtakeWhile_imp inside, rfl⟩
  rw [trim_eq, List.append_assoc, List.rdropWhile_append_rtakeWhile, List.takeWhile_append_dropWhile]

theorem head?_trim (text : Text) : ∀ c ∈ (trim text).head?, isSpace c = false := by
  intro c first
  rw [trim_eq] at first
  obtain ⟨more, split⟩ := List.rdropWhile_prefix (p := isSpace) (text.dropWhile isSpace)
  have head : (text.dropWhile isSpace).head? = some c := by
    rw [← split, List.head?_append, Option.mem_def.mp first, Option.some_or]
  simpa [head] using List.head?_dropWhile_not isSpace text

theorem getLast?_trim (text : Text) : ∀ c ∈ (trim text).getLast?, isSpace c = false := by
  intro c last
  rw [trim_eq] at last
  obtain ⟨some', rfl⟩ := List.mem_getLast?_eq_getLast last
  simpa using List.rdropWhile_last_not isSpace _ some'

end QueryCompletion.Text
