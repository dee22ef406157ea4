import Mathlib.Data.List.Basic
import QueryCompletion.Text.Basic

/-!
The pieces of a text. Offsets within the text cut it where they stand, and separators cut it at every one
of them and nowhere else.
-/

namespace QueryCompletion.Text

theorem offset_natCast (length bound : Nat) : offset length (bound : Int) = min bound length := by
  unfold offset
  split <;> omega

theorem before_natCast (text : Text) (stop : Nat) : text.before (stop : Int) = text.take stop := by
  rw [before, offset_natCast, List.take_eq_take_iff]
  omega

theorem after_natCast (text : Text) (start : Nat) : text.after (start : Int) = text.drop start := by
  rw [after, offset_natCast, List.drop_eq_drop_iff]
  omega

theorem slice_natCast {text : Text} {start stop : Nat} (ordered : start ≤ text.length) :
    text.slice (start : Int) (stop : Int) = (text.take stop).drop start := by
  rw [slice, offset_natCast, offset_natCast, Nat.min_eq_left ordered, ← List.take_eq_take_min]

theorem pieces_cons (separator c : Char) (rest : Text) :
    ∃ first others, pieces separator rest = first :: others ∧
      pieces separator (c :: rest) =
        if c = separator then [] :: first :: others else (c :: first) :: others := by
  cases pieced : pieces separator rest with
  | nil => exact absurd pieced (pieces_ne_nil separator rest)
  | cons first others => exact ⟨first, others, rfl, by rw [pieces, pieced]⟩

theorem pieces_of_not_mem {separator : Char} {text : Text} (absent : separator ∉ text) :
    pieces separator text = [text] := by
  induction text with
  | nil => rfl
  | cons c rest ih =>
    have other : c ≠ separator := fun same => absent (same ▸ List.mem_cons_self)
    rw [pieces, ih fun inside => absent (List.mem_cons_of_mem _ inside)]
    simp [other]

theorem pieces_append (separator : Char) (front rest : Text) :
    pieces separator (front ++ separator :: rest) =
      pieces separator front ++ pieces separator rest := by
  induction front with
  | nil =>
    obtain ⟨first, others, pieced, step⟩ := pieces_cons separator separator rest
    rw [List.nil_append, step, if_pos rfl, pieced]
    rfl
  | cons c front ih =>
    obtain ⟨first, others, pieced, step⟩ := pieces_cons separator c front
    rw [List.cons_append, pieces, ih, step, pieced]
    dsimp only [List.cons_append]
    split <;> rfl

/-- A text with separators can be split at the last of them. -/
theorem split_last (separator : Char) (text : Text) :
    separator ∉ text ∨ ∃ front last, text = front ++ separator :: last ∧ separator ∉ last := by
  induction text with
  | nil => exact Or.inl List.not_mem_nil
  | cons c rest ih =>
    rcases ih with absent | ⟨front, last, rfl, absent⟩
    · by_cases same : c = separator
      · exact Or.inr ⟨[], rest, by rw [same]; rfl, absent⟩
      · refine Or.inl fun inside => ?_
        rcases List.mem_cons.mp inside with first | later
        · exact same first.symm
        · exact absent later
    · exact Or.inr ⟨c :: front, last, rfl, absent⟩

/-- No piece holds the separator, and its characters are characters of the text. -/
theorem of_mem_pieces {separator : Char} {text piece : Text} (inside : piece ∈ pieces separator text) :
    separator ∉ piece ∧ ∀ c ∈ piece, c ∈ text := by
  induction text generalizing piece with
  | nil =>
    rw [List.mem_singleton.mp inside]
    exact ⟨List.not_mem_nil, nofun⟩
  | cons c rest ih =>
    obtain ⟨first, others, pieced, step⟩ := pieces_cons separator c rest
    rw [pieced] at ih
    have later (member : piece ∈ first :: others) : separator ∉ piece ∧ ∀ d ∈ piece, d ∈ c :: rest := by
      obtain ⟨absent, chars⟩ := ih member
      exact ⟨absent, fun d within => List.mem_cons_of_mem _ (chars d within)⟩
    rw [step] at inside
    split at inside
    · rcases List.mem_cons.mp inside with rfl | member
      · exact ⟨List.not_mem_nil, nofun⟩
      · exact later member
    · rename_i other
      rcases List.mem_cons.mp inside with rfl | member
      · obtain ⟨absent, chars⟩ := ih List.mem_cons_self
        refine ⟨fun within => ?_, fun d within => ?_⟩
        · rcases List.mem_cons.mp within with same | further
          · exact other same.symm
          · exact absent further
        · rcases List.mem_cons.mp within with rfl | further
          · exact List.mem_cons_self
          · exact List.mem_cons_of_mem _ (chars d further)
      · exact later (List.mem_cons_of_mem _ member)

/-- The first of the separators in a text is where it can be cut in one way only. -/
theorem append_separator_inj {separator : Char} {front front' back back' : Text} (absent : separator ∉ front)
    (absent' : separator ∉ front') (same : front ++ separator :: back = front' ++ separator :: back') :
    front = front' ∧ back = back' := by
  induction front generalizing front' with
  | nil =>
    cases front' with
    | nil => exact ⟨rfl, (List.cons.inj same).2⟩
    | cons c more => exact absurd ((List.cons.inj same).1 ▸ List.mem_cons_self) absent'
  | cons c rest ih =>
    cases front' with
    | nil => exact absurd ((List.cons.inj same).1 ▸ List.mem_cons_self) absent
    | cons d more =>
      obtain ⟨rfl, tails⟩ := List.cons.inj same
      obtain ⟨fronts, backs⟩ := ih (fun inside => absent (List.mem_cons_of_mem _ inside))
        (fun inside => absent' (List.mem_cons_of_mem _ inside)) tails
      exact ⟨congrArg (c :: ·) fronts, backs⟩

/-- So is the last of them. -/
theorem append_last_separator_inj {separator : Char} {front front' back back' : Text} (absent : separator ∉ back)
    (absent' : separator ∉ back') (same : front ++ separator :: back = front' ++ separator :: back') :
    front = front' ∧ back = back' := by
  have mirrored := congrArg List.reverse same
  simp only [List.reverse_append, List.reverse_cons, List.append_assoc, List.singleton_append] at mirrored
  obtain ⟨backs, fronts⟩ :=
    append_separator_inj (mt List.mem_reverse.mp absent) (mt List.mem_reverse.mp absent') mirrored
  exact ⟨List.reverse_inj.mp fronts, List.reverse_inj.mp backs⟩

end QueryCompletion.Text
