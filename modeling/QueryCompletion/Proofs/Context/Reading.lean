import QueryCompletion.Proofs.Context.Field

/-!
What a context reads. Its token apart, it is a function of the text before the cursor, and what is typed
stands right before the cursor.
-/

namespace QueryCompletion

open Lexer

namespace Window

variable {text other : Text} {cursor : Nat}

theorem keptAt_of_same (same : other.take cursor = text.take cursor) :
    keptAt other cursor = keptAt text cursor := by
  rw [keptAt, keptAt, same]

/-- The token apart, a window is that of the text before the cursor. -/
theorem atCursor_of_same (same : other.take cursor = text.take cursor) :
    atCursor other cursor = { atCursor text cursor with token := (atCursor other cursor).token } := by
  have kept := keptAt_of_same same
  have last := atCursor_last other cursor
  have beforeLast := atCursor_beforeLast other cursor
  have typed := atCursor_typed other cursor
  have spaced := atCursor_spaced other cursor
  rw [kept, ← atCursor_last] at last
  rw [kept, ← atCursor_beforeLast] at beforeLast
  rw [kept, same, ← atCursor_typed] at typed
  rw [kept, same, ← atCursor_spaced] at spaced
  cases whole : atCursor other cursor
  rw [whole] at last beforeLast typed spaced
  simp only at last beforeLast typed spaced
  rw [last, beforeLast, typed, spaced]

theorem path_of_same (same : other.take cursor = text.take cursor) :
    (atCursor text cursor).path other cursor = (atCursor text cursor).path text cursor := by
  unfold path
  split
  · rename_i last atLast
    have within := start_le_of_last atLast
    have within' : last.start ≤ (other.take cursor).length := by rw [same]; exact within
    rw [List.length_take] at within within'
    rw [Text.slice_natCast (by omega), Text.slice_natCast (by omega), same]
  · rfl

end Window

namespace Schema

variable {text other : Text} {cursor : Nat}

/-- The token apart, a context is that of the text before the cursor. -/
theorem contextAt_of_same (schema : Schema) (same : other.take cursor = text.take cursor) :
    schema.contextAt other cursor =
      { schema.contextAt text cursor with token := (schema.contextAt other cursor).token } := by
  have window := Window.atCursor_of_same same
  rw [contextAt_token]
  generalize (Window.atCursor other cursor).token = token at window ⊢
  have starts : (Window.atCursor other cursor).startsField = (Window.atCursor text cursor).startsField := by
    rw [window]; rfl
  have compared : (Window.atCursor other cursor).comparedName? = (Window.atCursor text cursor).comparedName? := by
    rw [window]; rfl
  have path : (Window.atCursor other cursor).path other cursor = (Window.atCursor text cursor).path text cursor := by
    rw [window]; exact Window.path_of_same same
  rw [contextAt, contextAt]
  dsimp only
  rw [starts, compared, path, window]
  dsimp only
  split
  · rfl
  split
  · exact schema.fieldContext_setToken _ _ _
  split
  · rfl
  split
  · exact schema.valueContext_setToken _ ((Window.atCursor text cursor).bare schema) _
  · split
    · exact schema.comparisonContext_setToken _ ((Window.atCursor text cursor).bare schema) _
    · split <;> rfl
  · rfl

/-- What is typed is the piece of the text that ends at the cursor and is as long. -/
theorem typed_eq_slice (schema : Schema) (within : cursor ≤ text.length) :
    (schema.contextAt text cursor).typed.length ≤ cursor ∧
      (schema.contextAt text cursor).typed =
        text.slice (cursor - (schema.contextAt text cursor).typed.length : Int) cursor := by
  have suffix := schema.contextAt_typed_suffix text cursor
  generalize (schema.contextAt text cursor).typed = typed at suffix ⊢
  have bound := suffix.length_le
  have length : (text.take cursor).length = cursor := List.length_take_of_le within
  rw [length] at bound
  refine ⟨bound, ?_⟩
  rw [← Int.ofNat_sub bound, Text.slice_natCast (by omega)]
  conv_lhs => rw [List.suffix_iff_eq_drop.mp suffix, length]

end Schema

end QueryCompletion
