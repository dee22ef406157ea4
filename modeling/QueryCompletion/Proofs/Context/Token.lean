import QueryCompletion.Proofs.Context.Basic
import QueryCompletion.Proofs.Lexer.Reach

/-!
The token under the cursor. It is looked up by the number of tokens before the cursor, and that
number is right as long as no token is cut into several by the cursor.
-/

namespace QueryCompletion

namespace Window

open Lexer

theorem touches_concat (tokens : List Token) (last : Token) (cursor : Nat) :
    touches (tokens ++ [last]) cursor = decide (cursor ≤ last.stop) := by
  simp [touches]

theorem touches_iff {tokens : List Token} {cursor : Nat} :
    touches tokens cursor = true ↔ ∃ front last, tokens = front ++ [last] ∧ cursor ≤ last.stop := by
  unfold touches
  constructor
  · intro touching
    split at touching
    · rename_i last found
      obtain ⟨front, rfl⟩ := List.getLast?_eq_some_iff.mp found
      exact ⟨front, last, rfl, by simpa using touching⟩
    · cases touching
  · rintro ⟨front, last, rfl, reaches⟩
    simpa using reaches

theorem atCursor_token (text : Text) (cursor : Nat) :
    (atCursor text cursor).token =
      if touches (tokenize (text.take cursor)) cursor then
        (tokenize text)[(tokenize (text.take cursor)).length - 1]?
      else none := by
  rw [atCursor, Text.before_natCast]

/-- Where the loop over the text reaches the cursor, the token looked up ends there. -/
theorem token_of_reach {text : Text} {before : List Token} {cursor : Nat} {token : Token}
    (reach : Reach text before cursor) (found : (atCursor text cursor).token = some token) :
    token ∈ tokenize text ∧ token.start < cursor ∧ cursor = token.stop := by
  rw [atCursor_token, reach.tokenize_take] at found
  split at found
  · rename_i touching
    obtain ⟨front, last, rfl, reaches⟩ := touches_iff.mp touching
    have same : token = last := by
      rw [reach.tokenize_eq, List.length_append, List.length_singleton, Nat.add_sub_cancel,
        List.append_assoc, List.getElem?_append_right (Nat.le_refl _)] at found
      simpa using found.symm
    obtain ⟨_, _, emits, bound⟩ := reach.mem (show last ∈ front ++ [last] by simp)
    obtain ⟨_, _, stop, kind, _⟩ := emitted_eq_some emits
    have positive := longest_pos_of_kind kind
    subst same
    refine ⟨?_, by omega, by omega⟩
    rw [reach.tokenize_eq]
    simp
  · cases found

/-- Where a match runs over the cursor, it makes a token of the text, and what was typed of it makes
tokens of its own. The token looked up is that of the match if these are one token; otherwise it lies
behind it. -/
theorem token_of_cut {text : Text} {before : List Token} {place cursor : Nat} {token : Token}
    (reach : Reach text before place) (left : place < cursor)
    (right : cursor < place + (longest (text.drop place)).length)
    (found : (atCursor text cursor).token = some token) :
    ∃ whole, emitted text place = some whole ∧
      (token = whole ∧ (tokenize ((text.take cursor).drop place)).length = 1 ∨
        token ∈ tokenize text ∧ whole.stop ≤ token.start ∧
          1 < (tokenize ((text.take cursor).drop place)).length) := by
  rw [← scan_length place]
  rw [atCursor_token, (reach.take (Nat.le_of_lt left)).tokenize_eq] at found
  generalize split : scan place ((text.take cursor).drop place) = pieces at *
  split at found
  · rename_i touching
    obtain ⟨front, last, tokens, reaches⟩ := touches_iff.mp touching
    have some' : pieces ≠ [] := by
      rintro rfl
      have inside : last ∈ before := by rw [← List.append_nil before, tokens]; simp
      obtain ⟨_, _, _, bound⟩ := reach.mem inside
      omega
    have positive := List.length_pos_iff.mpr some'
    have within : place < text.length := by
      have bound := longest_length_le (text.drop place)
      rw [List.length_drop] at bound
      omega
    obtain ⟨whole, emits⟩ := exists_emitted_of_pieces left right (split ▸ some')
    obtain ⟨_, stop, _⟩ := emitted_eq_some emits
    have all := (reach.next within).tokenize_eq
    rw [emits, ← stop] at all
    refine ⟨whole, emits, ?_⟩
    rw [all, Option.toList_some, List.append_assoc, List.length_append,
      List.getElem?_append_right (by omega)] at found
    rcases Nat.lt_or_eq_of_le positive with several | single
    · refine Or.inr ?_
      rw [show before.length + pieces.length - 1 - before.length = (pieces.length - 2) + 1 by omega]
        at found
      have inside : token ∈ scan whole.stop (text.drop whole.stop) := List.mem_of_getElem? found
      exact ⟨by rw [all]; simp [inside], le_start_of_mem_scan inside, by omega⟩
    · refine Or.inl ⟨?_, by omega⟩
      rw [show before.length + pieces.length - 1 - before.length = 0 by omega] at found
      simpa using found.symm
  · cases found

/-- The token looked up ends at the cursor, or some token of the text is cut by the cursor. -/
theorem token_cases {text : Text} {cursor : Nat} {token : Token} (within : cursor ≤ text.length)
    (found : (atCursor text cursor).token = some token) :
    token ∈ tokenize text ∧
      ((∃ before, Reach text before cursor ∧ token.start < cursor ∧ cursor = token.stop) ∨
        ∃ before whole, Reach text before whole.start ∧ emitted text whole.start = some whole ∧
          whole.start < cursor ∧ cursor < whole.stop ∧
          (token = whole ∧ (tokenize (text.slice whole.start cursor)).length = 1 ∨
            whole.stop ≤ token.start ∧ 1 < (tokenize (text.slice whole.start cursor)).length)) := by
  obtain ⟨before, place, reach, rfl | ⟨left, right⟩⟩ := exists_reach within
  · obtain ⟨inside, start, stop⟩ := token_of_reach reach found
    exact ⟨inside, Or.inl ⟨before, reach, start, stop⟩⟩
  · obtain ⟨whole, emits, number⟩ := token_of_cut reach left right found
    obtain ⟨start, _, stop, _⟩ := emitted_eq_some emits
    have inText : whole ∈ tokenize text := by
      rw [(reach.next (Nat.lt_of_lt_of_le left within)).tokenize_eq, emits]
      simp
    have slice : text.slice whole.start cursor = (text.take cursor).drop place := by
      rw [start]
      exact Text.slice_natCast (by omega)
    have inside : token ∈ tokenize text := by
      rcases number with ⟨rfl, _⟩ | ⟨inside, _⟩
      · exact inText
      · exact inside
    refine ⟨inside, Or.inr ⟨before, whole, start ▸ reach, by rw [start]; exact emits, by omega,
      by omega, ?_⟩⟩
    rw [slice]
    exact number.imp_right And.right

end Window

namespace Schema

open Lexer

/-- The token looked up reaches the cursor in any case. -/
theorem cursor_le_stop {schema : Schema} {text : Text} {cursor : Nat} {token : Token}
    (within : cursor ≤ text.length) (found : (schema.contextAt text cursor).token = some token) :
    cursor ≤ token.stop := by
  rw [contextAt_token] at found
  obtain ⟨inside, ⟨_, _, _, stop⟩ | ⟨_, whole, _, _, _, across, number⟩⟩ := Window.token_cases within found
  · exact Nat.le_of_eq stop
  · obtain ⟨_, _, emits, _⟩ := (reach_length text).mem inside
    obtain ⟨_, _, stop, _⟩ := emitted_eq_some emits
    rcases number with ⟨rfl, _⟩ | ⟨behind, _⟩ <;> omega

/-- The token looked up is a token of the text, and it lies under the cursor exactly when no token of
the text is cut by the cursor so that its beginning makes several tokens. -/
theorem token_under_cursor_iff {schema : Schema} {text : Text} {cursor : Nat} {token : Token}
    (within : cursor ≤ text.length) (found : (schema.contextAt text cursor).token = some token) :
    token ∈ tokenize text ∧
      (token.start < cursor ∧ cursor ≤ token.stop ↔
        ∀ whole ∈ tokenize text, whole.start < cursor → cursor < whole.stop →
          (tokenize (text.slice whole.start cursor)).length ≤ 1) := by
  have reaches := cursor_le_stop within found
  rw [contextAt_token] at found
  obtain ⟨inside, ⟨_, reach, start, _⟩ | ⟨_, cut, reach, emits, left, right, number⟩⟩ :=
    Window.token_cases within found
  · refine ⟨inside, fun _ whole member left right => ?_, fun _ => ⟨start, reaches⟩⟩
    exact absurd ⟨member, left, right⟩ reach.not_crosses
  · have crosses : Crosses text cursor cut := ⟨reach.mem_tokenize emits, left, right⟩
    refine ⟨inside, fun under whole member left' right' => ?_, fun short => ⟨?_, reaches⟩⟩
    · have same : whole = cut := Crosses.unique ⟨member, left', right'⟩ crosses
      rw [same]
      rcases number with ⟨_, one⟩ | ⟨behind, _⟩ <;> omega
    · have one := short cut crosses.member left right
      rcases number with ⟨rfl, _⟩ | ⟨_, several⟩ <;> omega

theorem token_under_cursor_iff_in_word :
    (({} : Schema).contextAt "prxyz = 1".toList (2 : Nat)).token =
        some ⟨.name, "prxyz".toList, 0, 5⟩ ∧
      ((0 < 2 ∧ 2 ≤ 5) ↔
        ∀ whole ∈ tokenize "prxyz = 1".toList, whole.start < 2 → 2 < whole.stop →
          (tokenize (Text.slice "prxyz = 1".toList whole.start (2 : Nat))).length ≤ 1) := by
  have found : (({} : Schema).contextAt "prxyz = 1".toList (2 : Nat)).token =
      some ⟨.name, "prxyz".toList, 0, 5⟩ := by decide +kernel
  exact ⟨found, (token_under_cursor_iff (by decide) found).2⟩

/-- Behind the dot of a name the text before the cursor has one token more than the text, so the
token looked up is the operator behind the name. -/
theorem token_behind_dotted_name :
    (({} : Schema).contextAt "author.name = 1".toList (7 : Nat)).token =
        some ⟨.equals, ['='], 12, 13⟩ ∧
      ¬ (12 < 7 ∧ 7 ≤ 13) :=
  ⟨by decide +kernel, by decide⟩

end Schema

end QueryCompletion
