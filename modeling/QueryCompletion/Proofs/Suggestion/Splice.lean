import QueryCompletion.Proofs.Context.Token
import QueryCompletion.Proofs.Text.Trim
import QueryCompletion.Suggestion.Acceptance

/-!
What accepting a suggestion leaves of a text. The text before what was typed stays as it is. What was
typed makes room for the suggestion if there is a token under the cursor; without one it ends up
behind the suggestion.
-/

namespace QueryCompletion

namespace Context

variable {context : Context} {text : Text} {cursor : Nat}

theorem typed_length_le (typed : context.typed <:+ text.take cursor) :
    context.typed.length ≤ cursor := by
  have bound := typed.length_le
  rw [List.length_take] at bound
  omega

theorem take_append_typed (within : cursor ≤ text.length) (typed : context.typed <:+ text.take cursor) :
    text.take (cursor - context.typed.length) ++ context.typed = text.take cursor := by
  obtain ⟨front, split⟩ := typed
  have length := congrArg List.length split
  rw [List.length_append, List.length_take, Nat.min_eq_left within] at length
  have start : text.take (cursor - context.typed.length) = front := by
    rw [show cursor - context.typed.length = min front.length cursor by omega, ← List.take_take, ← split,
      List.take_left]
  rw [start, split]

theorem before_start (typed : context.typed <:+ text.take cursor) (other : Text) :
    other.before (cursor - context.typed.length) = other.take (cursor - context.typed.length) := by
  rw [← Int.ofNat_sub (typed_length_le typed)]
  exact Text.before_natCast _ _

theorem after_start (typed : context.typed <:+ text.take cursor) (other : Text) :
    other.after (cursor - context.typed.length) = other.drop (cursor - context.typed.length) := by
  rw [← Int.ofNat_sub (typed_length_le typed)]
  exact Text.after_natCast _ _

/-- What stands before the typed text stays there. -/
theorem textBefore_eq (within : cursor ≤ text.length) (typed : context.typed <:+ text.take cursor) :
    context.textBefore text cursor = text.take (cursor - context.typed.length) := by
  have length : (text.take (cursor - context.typed.length)).length = cursor - context.typed.length := by
    rw [List.length_take]
    omega
  rw [textBefore, before_start typed, withoutToken]
  split
  · rw [before_start typed, List.take_append_of_le_length (by omega), List.take_take, Nat.min_self]
  · rfl

theorem textAfter_of_token (within : cursor ≤ text.length) (typed : context.typed <:+ text.take cursor)
    {token : Token} (found : context.token = some token) :
    context.textAfter text cursor = Text.trim (text.drop token.stop) := by
  have length : (text.take (cursor - context.typed.length)).length = cursor - context.typed.length := by
    rw [List.length_take]
    omega
  rw [textAfter, after_start typed, withoutToken, found]
  dsimp only
  rw [before_start typed, Text.after_natCast, List.drop_append_of_le_length (by omega),
    List.drop_eq_nil_of_le (by omega), List.nil_append]

theorem textAfter_of_none (within : cursor ≤ text.length) (typed : context.typed <:+ text.take cursor)
    (none' : context.token = none) :
    context.textAfter text cursor = Text.trim (context.typed ++ text.drop cursor) := by
  have length : (text.take (cursor - context.typed.length)).length = cursor - context.typed.length := by
    rw [List.length_take]
    omega
  have split := take_append_typed within typed
  rw [textAfter, after_start typed, withoutToken, none']
  dsimp only
  conv => lhs; rw [← List.take_append_drop cursor text, ← split, List.append_assoc]
  rw [List.drop_append_of_le_length (by omega), List.drop_eq_nil_of_le (by omega), List.nil_append]

end Context

/-- With a token under the cursor, nothing before the cursor is left behind the suggestion. -/
theorem Schema.textAfter_suffix {schema : Schema} {text : Text} {cursor : Nat} {token : Token}
    (within : cursor ≤ text.length) (found : (schema.contextAt text cursor).token = some token) :
    ∃ rest, rest <:+ text.drop cursor ∧
      (schema.contextAt text cursor).textAfter text cursor = Text.trim rest := by
  have reaches := cursor_le_stop within found
  refine ⟨text.drop token.stop, ?_,
    Context.textAfter_of_token within (schema.contextAt_typed_suffix text cursor) found⟩
  rw [show token.stop = cursor + (token.stop - cursor) by omega, ← List.drop_drop]
  exact List.drop_suffix _ _

namespace Suggestion

theorem accept_text (suggestion : Suggestion) (schema : Schema) {text : Text} {cursor : Nat}
    (within : cursor ≤ text.length) :
    (suggestion.accept schema text cursor).text =
      text.take (cursor - (schema.contextAt text cursor).typed.length) ++
        suggestion.pasted (text.take (cursor - (schema.contextAt text cursor).typed.length))
          ((schema.contextAt text cursor).textAfter text cursor) ++
        (schema.contextAt text cursor).textAfter text cursor := by
  rw [accept, acceptIn]
  dsimp only
  rw [Context.textBefore_eq within (schema.contextAt_typed_suffix text cursor)]

/-- The text before what was typed stays, and the typed text is replaced exactly when there is a token
under the cursor or nothing but white space was typed. -/
theorem accept_replaces_typed_iff (suggestion : Suggestion) (schema : Schema) {text : Text} {cursor : Nat}
    (within : cursor ≤ text.length) :
    let context := schema.contextAt text cursor
    let before := text.take (cursor - context.typed.length)
    before ++ context.typed = text.take cursor ∧
      ((∃ rest, rest <:+ text.drop cursor ∧
          (suggestion.accept schema text cursor).text =
            before ++ suggestion.pasted before (context.textAfter text cursor) ++ Text.trim rest) ↔
        context.token.isSome = true ∨ ∀ c ∈ context.typed, Text.isSpace c = true) := by
  intro context before
  have typed : context.typed <:+ text.take cursor := schema.contextAt_typed_suffix text cursor
  refine ⟨Context.take_append_typed within typed, ?_⟩
  rw [suggestion.accept_text schema within]
  constructor
  · rintro ⟨rest, behind, same⟩
    have after := List.append_cancel_left same
    by_contra neither
    obtain ⟨noToken, solid⟩ := not_or.mp neither
    rw [Context.textAfter_of_none within typed (by simpa using noToken)] at after
    exact Text.trim_append_ne (by simpa using solid) behind after
  · intro replaced
    cases found : context.token with
    | some token =>
      obtain ⟨rest, behind, after⟩ := Schema.textAfter_suffix within found
      exact ⟨rest, behind, by rw [after]⟩
    | none =>
      have spaces := replaced.resolve_left (by simp [found])
      refine ⟨text.drop cursor, List.suffix_refl _, ?_⟩
      rw [Context.textAfter_of_none within typed found, Text.trim_spaces_append _ spaces]

theorem accept_replaces_typed_in_word :
    ∃ rest, rest <:+ "xyz = 1".toList ∧
      (Suggestion.accept ⟨"price".toList, [], [' '], none⟩ {} "prxyz = 1".toList (2 : Nat)).text =
        [] ++ "price ".toList ++ Text.trim rest := by
  have replaced := @accept_replaces_typed_iff ⟨"price".toList, [], [' '], none⟩ {} "prxyz = 1".toList 2
    (by decide)
  obtain ⟨rest, behind, same⟩ := replaced.2.mpr (Or.inl (by decide +kernel))
  have drop : "prxyz = 1".toList.drop 2 = "xyz = 1".toList := by decide +kernel
  have before : "prxyz = 1".toList.take
      (2 - (({} : Schema).contextAt "prxyz = 1".toList (2 : Nat)).typed.length) = [] := by decide +kernel
  have pasted : Suggestion.pasted ⟨"price".toList, [], [' '], none⟩ []
      ((({} : Schema).contextAt "prxyz = 1".toList (2 : Nat)).textAfter "prxyz = 1".toList (2 : Nat)) =
      "price ".toList := by decide +kernel
  rw [drop] at behind
  rw [before, pasted] at same
  exact ⟨rest, behind, same⟩

/-- A half-typed operator makes no token, so it ends up behind the operator that was to replace it. -/
theorem accept_keeps_half_operator :
    Suggestion.accept ⟨['!', '='], [], " \"|\"".toList, none⟩
        { currentModel := some ['b'], models := [(['b'], [("name".toList, { type := .str })])] }
        "name !".toList (6 : Nat) =
      ⟨"name != \"\"!".toList, 9⟩ := by
  decide +kernel

end Suggestion

end QueryCompletion
