import QueryCompletion.Proofs.Context.Field
import QueryCompletion.Proofs.Lexer.Parts

/-!
Behind a connector the analysis starts afresh: the context there is that of the text behind the
connector alone, with its token as much further on as the text stands.
-/

namespace QueryCompletion

open Lexer

/-- A text that ends with a connector: whatever stands behind it has the tokens that it has alone, and
before these the connector is the last token. -/
structure Joins (head : Text) (before : List Token) (connector : Token) : Prop where
  logical : connector.kind.isLogical = true
  spelled : ∃ word, head.drop connector.start = word ++ [' ']
  blank : head.drop connector.stop = [' ']
  tokens : ∀ rest, tokenize (head ++ rest) =
    before ++ connector :: (tokenize rest).map (Token.shift head.length)

theorem exists_joins {front joint : Text} (closed : QuotesClosed front) (connects : joint ∈ connectors) :
    ∃ before connector, Joins (front ++ joint) before connector := by
  obtain ⟨word, rfl, identifier, logical⟩ := exists_word_of_connector connects
  refine ⟨_, _, logical, ⟨word, ?_⟩, ?_, closed.tokenize_append identifier⟩
  · rw [← List.drop_drop, List.drop_left]
    rfl
  · rw [Nat.add_assoc, ← List.drop_drop, List.drop_left, Nat.add_comm, List.drop_succ_cons, List.drop_left]

namespace Joins

open Window

variable {head rest : Text} {before : List Token} {connector : Token} {cursor : Nat}

theorem length (joins : Joins head before connector) : connector.stop + 1 = head.length := by
  have length := congrArg List.length joins.blank
  rw [List.length_drop, List.length_singleton] at length
  omega

/-- The connector never touches the cursor. -/
theorem touches_eq (joins : Joins head before connector) (tokens : List Token) :
    touches (before ++ connector :: tokens.map (Token.shift head.length)) (head.length + cursor : Nat) =
      touches tokens cursor := by
  have length := joins.length
  rcases List.eq_nil_or_concat' tokens with rfl | ⟨init, last, rfl⟩
  · rw [List.map_nil, touches_concat, decide_eq_false (by omega)]
    rfl
  · rw [List.map_append, List.map_singleton, ← List.cons_append, ← List.append_assoc, touches_concat,
      touches_concat, Token.shift_stop]
    exact decide_eq_decide.mpr (by omega)

theorem keptAt_eq (joins : Joins head before connector) :
    keptAt (head ++ rest) (head.length + cursor) =
      before ++ connector :: (keptAt rest cursor).map (Token.shift head.length) := by
  unfold keptAt settled
  rw [List.take_length_add_append, joins.tokens, joins.touches_eq]
  split
  · rename_i touching
    obtain ⟨init, last, same, _⟩ := touches_iff.mp touching
    rw [same, List.map_append, List.map_singleton, ← List.cons_append, ← List.append_assoc,
      List.dropLast_concat, List.dropLast_concat]
  · rfl

/-- The token looked up is that of the text behind the connector. -/
theorem atCursor_token_eq (joins : Joins head before connector) :
    (atCursor (head ++ rest) (head.length + cursor : Nat)).token =
      (atCursor rest cursor).token.map (Token.shift head.length) := by
  rw [atCursor_token, atCursor_token, List.take_length_add_append, joins.tokens, joins.touches_eq, joins.tokens]
  split
  · rename_i touching
    obtain ⟨init, last, same, _⟩ := touches_iff.mp touching
    rw [same]
    simp only [List.length_append, List.length_cons, List.length_map, List.length_nil]
    rw [List.getElem?_append_right (by omega), ← List.getElem?_map,
      show before.length + (init.length + 1 + 1) - 1 - before.length = init.length + 1 by omega]
    rfl
  · rfl

/-- The text behind the last token. -/
theorem behind_eq (joins : Joins head before connector) :
    ((head ++ rest).take (head.length + cursor)).drop (edge (keptAt (head ++ rest) (head.length + cursor))) =
      if keptAt rest cursor = [] then ' ' :: rest.take cursor
      else (rest.take cursor).drop (edge (keptAt rest cursor)) := by
  have length := joins.length
  rw [List.take_length_add_append, joins.keptAt_eq]
  split
  · rename_i empty
    rw [empty, List.map_nil, edge, List.getLast?_concat, Option.map_some, Option.getD_some,
      List.drop_append_of_le_length (by omega), joins.blank]
    rfl
  · rename_i some'
    obtain ⟨init, last, same⟩ := (List.eq_nil_or_concat' (keptAt rest cursor)).resolve_left some'
    rw [same, List.map_append, List.map_singleton, ← List.cons_append, ← List.append_assoc, edge, edge,
      List.getLast?_concat, List.getLast?_concat, Option.map_some, Option.map_some, Option.getD_some,
      Option.getD_some, Token.shift_stop, Nat.add_comm, List.drop_length_add_append]

theorem typedIn_blank {c : Char} (raw : Text) (blank : isBlank c = true) :
    typedIn (c :: raw) = typedIn raw := by
  simp only [typedIn, runLength, blank, if_true, List.drop_succ_cons]

theorem typed_eq (joins : Joins head before connector) :
    (atCursor (head ++ rest) (head.length + cursor : Nat)).typed = (atCursor rest cursor).typed := by
  rw [atCursor_typed, atCursor_typed, joins.behind_eq]
  split
  · rename_i empty
    rw [typedIn_blank _ rfl, empty]
    rfl
  · rfl

/-- Where no token stands before what is typed, the connector does, with a blank between. -/
theorem window_of_empty (joins : Joins head before connector) (empty : keptAt rest cursor = []) :
    (atCursor (head ++ rest) (head.length + cursor : Nat)).last = some connector ∧
      (atCursor (head ++ rest) (head.length + cursor : Nat)).spaced = true := by
  constructor
  · rw [atCursor_last, joins.keptAt_eq, empty, List.map_nil, List.getLast?_concat]
  · rw [atCursor_spaced, joins.behind_eq, if_pos empty]
    rfl

/-- Where tokens stand before what is typed, the last is theirs, and the connector stands before it if
there is only one. -/
theorem window_of_last (joins : Joins head before connector) {last : Token}
    (atLast : (atCursor rest cursor).last = some last) :
    (atCursor (head ++ rest) (head.length + cursor : Nat)).last = some (last.shift head.length) ∧
      (atCursor (head ++ rest) (head.length + cursor : Nat)).spaced = (atCursor rest cursor).spaced ∧
      (atCursor (head ++ rest) (head.length + cursor : Nat)).beforeLast =
        some (((atCursor rest cursor).beforeLast.map (Token.shift head.length)).getD connector) := by
  rw [atCursor_last] at atLast
  obtain ⟨init, kept⟩ := List.getLast?_eq_some_iff.mp atLast
  have some' : keptAt rest cursor ≠ [] := by simp [kept]
  have whole : keptAt (head ++ rest) (head.length + cursor) =
      before ++ connector :: init.map (Token.shift head.length) ++ [last.shift head.length] := by
    rw [joins.keptAt_eq, kept, List.map_append, List.map_singleton, List.append_assoc, List.cons_append]
  refine ⟨by rw [atCursor_last, whole, List.getLast?_concat], ?_, ?_⟩
  · rw [atCursor_spaced, atCursor_spaced, joins.behind_eq, if_neg some']
  · rw [atCursor_beforeLast, atCursor_beforeLast, whole, kept, List.dropLast_concat, List.dropLast_concat]
    rcases List.eq_nil_or_concat' init with rfl | ⟨others, next, rfl⟩
    · rw [List.map_nil, List.getLast?_concat]
      rfl
    · rw [List.map_append, List.map_singleton, ← List.cons_append, ← List.append_assoc,
        List.getLast?_concat, List.getLast?_concat]
      rfl

theorem startsField_eq (joins : Joins head before connector) {last : Token}
    (atLast : (atCursor rest cursor).last = some last) :
    (atCursor (head ++ rest) (head.length + cursor : Nat)).startsField =
      (atCursor rest cursor).startsField := by
  obtain ⟨last', spaced, beforeLast⟩ := joins.window_of_last atLast
  rw [startsField, startsField, last', atLast, spaced, joins.typed_eq, beforeLast]
  cases (atCursor rest cursor).beforeLast with
  | none => simp [joins.logical]
  | some other => simp

theorem comparedName?_eq (joins : Joins head before connector) {last : Token}
    (atLast : (atCursor rest cursor).last = some last) :
    (atCursor (head ++ rest) (head.length + cursor : Nat)).comparedName? =
      (atCursor rest cursor).comparedName? := by
  obtain ⟨last', _, beforeLast⟩ := joins.window_of_last atLast
  have noName : connector.kind ≠ .name := by
    intro name
    have logical := joins.logical
    rw [name] at logical
    cases logical
  rw [comparedName?, comparedName?, last', atLast, beforeLast]
  cases (atCursor rest cursor).beforeLast with
  | none => simp [noName]
  | some other => simp

theorem path_eq (joins : Joins head before connector) {last : Token}
    (atLast : (atCursor rest cursor).last = some last) :
    (atCursor (head ++ rest) (head.length + cursor : Nat)).path (head ++ rest)
        (head.length + cursor : Nat) =
      (atCursor rest cursor).path rest cursor := by
  obtain ⟨last', _, _⟩ := joins.window_of_last atLast
  have within := start_le_of_last atLast
  rw [List.length_take] at within
  rw [path, path, last', atLast, joins.typed_eq]
  dsimp only
  rw [Token.shift_start, Text.slice_natCast (by rw [List.length_append]; omega), Text.slice_natCast (by omega),
    List.take_length_add_append, Nat.add_comm, List.drop_length_add_append]

end Joins

namespace Schema

variable {schema : Schema} {head rest : Text} {before : List Token} {connector : Token} {cursor : Nat}

/-- Behind a dot with no name before it nothing can be suggested. -/
theorem HasIdentifiers.fieldContext_of_no_name (identifiers : schema.HasIdentifiers) {front : Text}
    (token : Option Token) (noName : ¬ Dotted front) :
    schema.fieldContext (front ++ ['.']) token = ⟨[], none, none, none, token, schema.rootStack⟩ := by
  have nowhere : (schema.resolve front).model = none := by
    by_contra leads
    exact noName (identifiers.dotted (Option.isSome_iff_ne_none.mpr leads))
  rw [schema.fieldContext_append token List.not_mem_nil, nowhere]
  rfl

/-- Where no token stands before what is typed, a field path is typed, unless it is a lone closing
parenthesis. -/
theorem contextAt_of_empty (empty : Window.keptAt rest cursor = []) (opens : rest.take cursor ≠ [')']) :
    schema.contextAt rest cursor =
      schema.fieldContext (Window.atCursor rest cursor).typed (Window.atCursor rest cursor).token := by
  have noLast : (Window.atCursor rest cursor).last = none := by
    rw [Window.atCursor_last, empty]
    rfl
  have starts : (Window.atCursor rest cursor).startsField = true := by
    rw [Window.startsField, noLast]
  have path : (Window.atCursor rest cursor).path rest cursor = (Window.atCursor rest cursor).typed := by
    rw [Window.path, noLast]
  have open' : ¬ ((Window.atCursor rest cursor).typed = [')'] ∧ (Window.atCursor rest cursor).spaced = false) := by
    rintro ⟨typed, spaced⟩
    rw [Window.atCursor_typed, empty] at typed
    rw [Window.atCursor_spaced, empty] at spaced
    have noBlank : runLength isBlank (rest.take cursor) = 0 := by simpa [Window.edge] using spaced
    rcases Window.typedIn_cases (rest.take cursor) with split | ⟨nothing, _⟩
    · rw [noBlank, List.take_zero, List.nil_append] at split
      exact opens (split.trans typed)
    · exact absurd (nothing.symm.trans typed) (by simp)
  rw [contextAt_of_startsField schema starts open', path]

/-- Behind the connector alone a field path is typed too, and a lone dot leads nowhere in either
place. -/
theorem contextAt_joins_of_empty (identifiers : schema.HasIdentifiers) (joins : Joins head before connector)
    (empty : Window.keptAt rest cursor = []) :
    schema.contextAt (head ++ rest) (head.length + cursor : Nat) =
      schema.fieldContext (Window.atCursor rest cursor).typed
        (Window.atCursor (head ++ rest) (head.length + cursor : Nat)).token := by
  obtain ⟨last, spaced⟩ := joins.window_of_empty empty
  have starts : (Window.atCursor (head ++ rest) (head.length + cursor : Nat)).startsField = true := by
    rw [Window.startsField, last, spaced]
    simp [joins.logical]
  have behind (lone : (Window.atCursor (head ++ rest) (head.length + cursor : Nat)).typed = [')'] ∧
      (Window.atCursor (head ++ rest) (head.length + cursor : Nat)).spaced = false) : False := by
    rw [spaced] at lone
    cases lone.2
  rw [contextAt_of_startsField schema starts behind, Window.path, last, joins.typed_eq]
  dsimp only
  split
  · rename_i dot
    obtain ⟨word, spelled⟩ := joins.spelled
    have start : connector.start ≤ head.length := by
      by_contra beyond
      rw [List.drop_eq_nil_of_le (by omega)] at spelled
      simp at spelled
    obtain ⟨blanks, typed⟩ : ∃ blanks, rest.take cursor = blanks ++ ['.'] := by
      have raw := dot
      rw [Window.atCursor_typed, empty] at raw
      rcases Window.typedIn_cases (rest.take cursor) with split | ⟨nothing, _⟩
      · exact ⟨_, split.trans (congrArg _ raw)⟩
      · exact absurd (nothing.symm.trans raw) (by simp)
    have noName : ¬ Dotted (word ++ [' '] ++ blanks) := by
      intro dotted
      rcases dotted.chars ' ' (by simp) with part | same
      · cases part
      · cases same
    have noWord : ¬ Dotted [] := by
      intro dotted
      exact absurd dotted.length_pos (Nat.lt_irrefl 0)
    rw [Text.slice_natCast (by rw [List.length_append]; omega), List.take_length_add_append,
      List.drop_append_of_le_length start, spelled, typed, ← List.append_assoc, dot,
      identifiers.fieldContext_of_no_name _ noName, ← List.nil_append ['.'],
      identifiers.fieldContext_of_no_name _ noWord]
  · rfl

/-- Behind a text without open quotes and a connector the context is that of the text behind them alone,
unless that is a lone closing parenthesis. -/
theorem contextAt_behind_connector {front joint rest : Text} {cursor : Nat}
    (identifiers : schema.HasIdentifiers) (closed : QuotesClosed front) (connects : joint ∈ connectors)
    (opens : rest.take cursor ≠ [')']) :
    schema.contextAt (front ++ joint ++ rest) ((front ++ joint).length + cursor : Nat) =
      { schema.contextAt rest cursor with
        token := (schema.contextAt rest cursor).token.map (Token.shift (front ++ joint).length) } := by
  obtain ⟨before, connector, joins⟩ := exists_joins closed connects
  generalize front ++ joint = head at joins ⊢
  rw [contextAt_token, ← joins.atCursor_token_eq]
  cases atLast : (Window.atCursor rest cursor).last with
  | none =>
    rw [Window.atCursor_last, List.getLast?_eq_none_iff] at atLast
    rw [contextAt_joins_of_empty identifiers joins atLast, contextAt_of_empty atLast opens,
      ← fieldContext_setToken]
  | some last =>
    obtain ⟨last', spaced, _⟩ := joins.window_of_last atLast
    rw [contextAt, contextAt]
    dsimp only
    rw [joins.startsField_eq atLast, joins.comparedName?_eq atLast, joins.path_eq atLast, joins.typed_eq,
      spaced, last', atLast]
    split
    · rfl
    split
    · exact schema.fieldContext_setToken _ _ _
    split
    · rfl
    cases (Window.atCursor rest cursor).comparedName? with
    | some name => exact schema.valueContext_setToken name ((Window.atCursor rest cursor).bare schema) _
    | none =>
      cases name : last.kind == .name with
      | true =>
        simp only [Token.shift_kind, Token.shift_value, name, ↓reduceIte]
        exact schema.comparisonContext_setToken last.value ((Window.atCursor rest cursor).bare schema) _
      | false =>
        cases ends : last.kind.endsValue <;>
          simp only [Token.shift_kind, name, ends, Bool.false_eq_true, ↓reduceIte]

/-- Behind a comparison with quotes in its string, a relation in parentheses is typed as it is alone. -/
theorem contextAt_behind_connector_in_parentheses :
    let schema : Schema :=
      { currentModel := some "core.book".toList
        models := [("core.book".toList, [("author".toList, { type := .relation, relation := some "auth.user".toList }),
            ("name".toList, { type := .str })]),
          ("auth.user".toList, [("email".toList, { type := .str })])] }
    QuotesClosed "name = \"a \\\" or b\"".toList ∧
      schema.contextAt "name = \"a \\\" or b\" and (author.em = 1".toList (33 : Nat) =
        ⟨"em".toList, some .field, some "auth.user".toList, none, some ⟨.name, "author.em".toList, 24, 33⟩,
          ["core.book".toList, "auth.user".toList]⟩ := by
  intro schema
  have closed : QuotesClosed "name = \"a \\\" or b\"".toList := by decide +kernel
  refine ⟨closed, ?_⟩
  have same := @contextAt_behind_connector schema _ " and ".toList "(author.em = 1".toList 10 (by decide)
    closed (by decide) (by decide)
  refine Eq.trans same ?_
  decide +kernel

end Schema

end QueryCompletion
