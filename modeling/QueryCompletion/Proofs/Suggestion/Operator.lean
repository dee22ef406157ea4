import QueryCompletion.Proofs.Lexer.Parts
import QueryCompletion.Proofs.Suggestion.Field

/-!
Operators and connectors that are accepted at the end of a text. An operator stands between the name
before it and a blank, with a quote open behind the blank where values are quoted, and asks for a value of
the field that the name leads to; a connector asks for the next field path.
-/

namespace QueryCompletion

open Lexer

/-- The operators that are written with symbols. -/
def Operator.symbols : List Text :=
  (Operator.equality ++ Operator.containment ++ Operator.ordering).map Operator.symbol

theorem TokenKind.of_isComparison {kind : TokenKind} (compares : kind.isComparison = true) :
    kind.isLogical = false ∧ kind ≠ .parenL := by
  revert compares
  cases kind <;> decide

/-- The quote that an operator leaves open before the cursor. -/
def openQuote (quoted : Bool) : Text := if quoted then ['"'] else []

/-- An operator with a blank behind it is a token by itself, and a quote behind these makes none. -/
theorem tokenize_operator {symbol : Text} (inside : symbol ∈ Operator.symbols) (quoted : Bool) :
    symbol ≠ [] ∧ (∀ c ∈ (symbol ++ ' ' :: openQuote quoted).head?, isBlank c = false) ∧
      ∃ kind, kind.isComparison = true ∧
        tokenize (symbol ++ ' ' :: openQuote quoted) = [⟨kind, symbol, 0, symbol.length⟩] := by
  have all : ∀ symbol ∈ Operator.symbols, symbol ≠ [] ∧
      (symbol ++ ' ' :: openQuote quoted).head?.all (isBlank · = false) = true ∧
        (tokenize (symbol ++ ' ' :: openQuote quoted)).map
            (fun token => (token.kind.isComparison, token.value, token.start, token.stop)) =
          [(true, symbol, 0, symbol.length)] := by
    cases quoted <;> decide +kernel
  obtain ⟨some', solid, tokens⟩ := all symbol inside
  obtain ⟨⟨kind, value, start, stop⟩, only, parts⟩ := List.map_eq_singleton_iff.mp tokens
  simp only [Prod.mk.injEq] at parts
  obtain ⟨compares, rfl, rfl, rfl⟩ := parts
  exact ⟨some', fun c first => of_decide_eq_true ((Option.all_eq_true _ _).mp solid c first), kind, compares, only⟩

namespace Suggestion

variable {suggestion : Suggestion} {quoted : Bool}

/-- What is pasted for an operator, wherever no blank follows. -/
theorem pasted_operator (plain : suggestion.snippetBefore = []) (some' : suggestion.text ≠ [])
    (snippet : suggestion.snippetAfter = operandSnippet quoted) (before : Text) {after : Text}
    (solid : ∀ c ∈ after.head?, Text.isSpace c = false) :
    suggestion.pasted before after = suggestion.text ++ ' ' :: openQuote quoted ++ openQuote quoted := by
  have snippets : suggestion.snippets = ([], ' ' :: openQuote quoted ++ openQuote quoted) := by
    rw [Suggestion.snippets, plain, snippet]
    cases quoted with
    | false => rfl
    | true => simp [operandSnippet, openQuote, Text.pieces, some']
  have kept : (' ' :: openQuote quoted ++ openQuote quoted).isPrefixOf after = false := by
    cases after with
    | nil => rfl
    | cons c rest =>
      have differs : ' ' ≠ c := by
        rintro rfl
        cases solid ' ' rfl
      simp [List.isPrefixOf, differs]
  rw [Suggestion.pasted, snippets]
  dsimp only
  rw [kept, ite_self, List.nil_append, if_neg Bool.false_ne_true, List.append_assoc]

theorem markDistance_operator (snippet : suggestion.snippetAfter = operandSnippet quoted) :
    suggestion.markDistance = (openQuote quoted).length := by
  rw [markDistance, snippet]
  cases quoted <;> rfl

end Suggestion

/-- An operator written with symbols that is listed is pasted with a blank behind it, and with quotes if
values are quoted. -/
theorem mem_operatorCandidates {schema : Schema} {context : Context} {suggestion : Suggestion}
    (listed : suggestion ∈ (operatorCandidates schema context).complete.suggestions)
    (symbol : suggestion.text ∈ Operator.symbols) :
    suggestion.snippetBefore = [] ∧ ∃ quoted, suggestion.snippetAfter = operandSnippet quoted := by
  have offered : suggestion ∈ operatorSuggestions (context.fieldDef? schema) := (List.mem_filter.mp listed).1
  unfold operatorSuggestions at offered
  split at offered
  · obtain ⟨operator, _, rfl⟩ := List.mem_map.mp offered
    exact ⟨rfl, false, rfl⟩
  · rename_i field _
    have plain (inside : suggestion ∈ field.operators.map
        (operatorSuggestions.suggest (operandSnippet field.quotesOperand))) :
        suggestion.snippetBefore = [] ∧ ∃ quoted, suggestion.snippetAfter = operandSnippet quoted := by
      obtain ⟨operator, _, rfl⟩ := List.mem_map.mp inside
      exact ⟨rfl, field.quotesOperand, rfl⟩
    dsimp only at offered
    split at offered
    · exact plain offered
    · rcases List.mem_append.mp offered with inside | membership
      · exact plain inside
      · simp only [List.mem_cons, List.not_mem_nil, or_false] at membership
        rcases membership with rfl | rfl
        · exact absurd symbol (show ['i', 'n'] ∉ Operator.symbols by decide)
        · exact absurd symbol (show "not in".toList ∉ Operator.symbols by decide)

namespace Schema

variable {schema : Schema} {text : Text} {cursor : Nat}

theorem fieldContext_scope (schema : Schema) (path : Text) (token : Option Token) :
    (schema.fieldContext path token).scope = some .field ∨ (schema.fieldContext path token).scope = none := by
  rcases schema.fieldContext_cases path token with ⟨_, same⟩ | ⟨_, _, _, _, ⟨_, _, same⟩ | same⟩
  · exact Or.inl (by rw [same])
  · exact Or.inl (by rw [same])
  · exact Or.inr (by rw [same])

theorem valueContext_scope (schema : Schema) (name : Text) (window : Window) :
    (schema.valueContext name (window.bare schema)).scope = some .value ∨
      (schema.valueContext name (window.bare schema)).scope = none := by
  rw [valueContext]
  dsimp only
  split
  · exact Or.inl rfl
  · exact Or.inr rfl

/-- An operator is asked for behind a name and blanks. -/
theorem contextAt_of_comparison (scope : (schema.contextAt text cursor).scope = some .comparison) :
    ∃ last, (Window.atCursor text cursor).last = some last ∧ last.kind = .name ∧
      (Window.atCursor text cursor).spaced = true ∧
      schema.contextAt text cursor =
        schema.comparisonContext last.value ((Window.atCursor text cursor).bare schema) := by
  rcases schema.contextAt_outcomes text cursor with
    ⟨_, same⟩ | same | ⟨spaced, ⟨name, _, same⟩ | ⟨last, atLast, name, same⟩ | same⟩
  · rw [same] at scope
    rcases schema.fieldContext_scope _ _ with other | other <;> cases scope.symm.trans other
  · rw [same] at scope
    cases scope
  · rw [same] at scope
    rcases schema.valueContext_scope _ _ with other | other <;> cases scope.symm.trans other
  · exact ⟨last, atLast, name, spaced, same⟩
  · rw [same] at scope
    cases scope

/-- A connector is asked for behind blanks. -/
theorem contextAt_of_logical (scope : (schema.contextAt text cursor).scope = some .logical) :
    (Window.atCursor text cursor).spaced = true ∧
      schema.contextAt text cursor =
        { (Window.atCursor text cursor).bare schema with scope := some .logical } := by
  rcases schema.contextAt_outcomes text cursor with
    ⟨_, same⟩ | same | ⟨spaced, ⟨name, _, same⟩ | ⟨last, _, _, same⟩ | same⟩
  · rw [same] at scope
    rcases schema.fieldContext_scope _ _ with other | other <;> cases scope.symm.trans other
  · rw [same] at scope
    cases scope
  · rw [same] at scope
    rcases schema.valueContext_scope _ _ with other | other <;> cases scope.symm.trans other
  · rw [same, comparisonContext] at scope
    split at scope <;> cases scope
  · exact ⟨spaced, same⟩

/-- Behind an operator that stands behind a name, a value of the named field is asked for. -/
theorem contextAt_of_operator {name operator : Token}
    (atLast : (Window.atCursor text cursor).last = some operator) (compares : operator.kind.isComparison = true)
    (before : (Window.atCursor text cursor).beforeLast = some name) (named : name.kind = .name)
    (spaced : (Window.atCursor text cursor).spaced = true) :
    schema.contextAt text cursor =
      schema.valueContext name.value ((Window.atCursor text cursor).bare schema) := by
  have starts : (Window.atCursor text cursor).startsField = false := by
    obtain ⟨noConnector, noParen⟩ := TokenKind.of_isComparison compares
    simp [Window.startsField, atLast, spaced, noConnector, noParen]
  have compared : (Window.atCursor text cursor).comparedName? = some name.value := by
    simp [Window.comparedName?, atLast, before, compares, named]
  rw [contextAt]
  simp only [starts, compared, spaced]
  simp [Window.bare]

/-- Behind a name, an operator and a blank, with or without a quote open, a value of the named field is asked
for. -/
theorem contextAt_behind_operator (schema : Schema) {earlier : List Token} {name operator : Token} {quoted : Bool}
    (tokens : tokenize (text.take cursor) = earlier ++ [name] ++ [operator]) (named : name.kind = .name)
    (compares : operator.kind.isComparison = true)
    (behind : (text.take cursor).drop operator.stop = ' ' :: openQuote quoted) :
    schema.contextAt text cursor =
        schema.valueContext name.value ((Window.atCursor text cursor).bare schema) ∧
      (Window.atCursor text cursor).typed = openQuote quoted := by
  have ends : operator.stop < cursor := by
    have length := congrArg List.length behind
    rw [List.length_drop, List.length_take, List.length_cons] at length
    omega
  have kept : Window.keptAt text cursor = earlier ++ [name] ++ [operator] := by
    rw [Window.keptAt, tokens, Window.settled, Window.touches_concat, if_neg (by simpa using ends)]
  have edge : Window.edge (Window.keptAt text cursor) = operator.stop := by
    rw [kept, Window.edge, List.getLast?_concat]
    rfl
  refine ⟨contextAt_of_operator ?_ compares ?_ named ?_, ?_⟩
  · rw [Window.atCursor_last, kept, List.getLast?_concat]
  · rw [Window.atCursor_beforeLast, kept, List.dropLast_concat, List.getLast?_concat]
  · rw [Window.atCursor_spaced, edge, behind]
    rfl
  · rw [Window.atCursor_typed, edge, behind]
    cases quoted <;> rfl

theorem contextAt_of_connector {connector : Token}
    (atLast : (Window.atCursor text cursor).last = some connector) (logical : connector.kind.isLogical = true)
    (typed : (Window.atCursor text cursor).typed = []) (spaced : (Window.atCursor text cursor).spaced = true) :
    schema.contextAt text cursor = schema.fieldContext [] (Window.atCursor text cursor).token := by
  have starts : (Window.atCursor text cursor).startsField = true := by
    simp [Window.startsField, atLast, logical, spaced]
  have path : (Window.atCursor text cursor).path text cursor = [] := by
    simp [Window.path, atLast, typed]
  rw [contextAt_of_startsField schema starts (by simp [typed]), path]

/-- A text in which an operator is typed behind a name: the name is a token, then come blanks, then what is
typed. -/
structure OperatorPlace (text front blanks typed : Text) (earlier : List Token) (name : Token) : Prop where
  split : text = front ++ blanks ++ typed
  reach : Reach text (earlier ++ [name]) front.length
  named : name.kind = .name
  spaced : blanks ≠ []
  blank : ∀ c ∈ blanks, isBlank c = true

theorem exists_operatorPlace (scope : (schema.contextAt text text.length).scope = some .comparison)
    (noParen : text.getLast? ≠ some '(') :
    ∃ front blanks earlier name,
      OperatorPlace text front blanks (schema.contextAt text text.length).typed earlier name ∧
        schema.contextAt text text.length =
          schema.comparisonContext name.value ((Window.atCursor text text.length).bare schema) := by
  obtain ⟨name, atLast, named, spaced, same⟩ := contextAt_of_comparison scope
  have typed : (schema.contextAt text text.length).typed = (Window.atCursor text text.length).typed := by
    rw [same, comparisonContext_typed]
    rfl
  rw [Window.atCursor_last] at atLast
  obtain ⟨earlier, kept⟩ := List.getLast?_eq_some_iff.mp atLast
  have edge : Window.edge (Window.keptAt text text.length) = name.stop := by
    rw [Window.edge, atLast]
    rfl
  rw [Window.atCursor_spaced, edge, List.take_length, decide_eq_true_eq] at spaced
  rw [Window.atCursor_typed, edge, List.take_length] at typed
  obtain ⟨later, tokens⟩ := Window.keptAt_initial text text.length
  rw [kept, List.take_length, List.append_assoc] at tokens
  obtain ⟨reach, emits, stop⟩ := (reach_length text).split tokens.symm
  have length : (text.take name.stop).length = name.stop := List.length_take_of_le stop
  refine ⟨text.take name.stop, (text.drop name.stop).take (runLength isBlank (text.drop name.stop)), earlier,
    name, ⟨?_, length.symm ▸ reach.emit emits, named, ?_, fun c inside => mem_take_runLength inside⟩, same⟩
  · rcases Window.typedIn_cases (text.drop name.stop) with parts | ⟨_, paren⟩
    · rw [typed, List.append_assoc, ← parts, List.take_append_drop]
    · refine absurd ?_ noParen
      rw [← List.take_append_drop name.stop text, List.getLast?_append, paren]
      rfl
  · have bound := runLength_le_length isBlank (text.drop name.stop)
    rw [← List.length_pos_iff, List.length_take]
    omega

/-- What stands before the text that is typed at the end. -/
theorem textBefore_of_split {head : Text} (split : text = head ++ (schema.contextAt text text.length).typed) :
    (schema.contextAt text text.length).textBefore text text.length = head := by
  have length := congrArg List.length split
  rw [List.length_append] at length
  rw [Context.textBefore_eq (Nat.le_refl _) (schema.contextAt_typed_suffix text text.length),
    show text.length - (schema.contextAt text text.length).typed.length = head.length by omega]
  exact (congrArg (List.take head.length) split).trans List.take_left

/-- What an operator gives in its place. -/
theorem OperatorPlace.accept {front blanks : Text} {earlier : List Token} {name : Token}
    (place : OperatorPlace text front blanks (schema.contextAt text text.length).typed earlier name)
    {suggestion : Suggestion} {quoted : Bool} (plain : suggestion.snippetBefore = [])
    (some' : suggestion.text ≠ []) (snippet : suggestion.snippetAfter = operandSnippet quoted) :
    ∃ more, suggestion.accept schema text text.length =
      ⟨front ++ blanks ++ (suggestion.text ++ ' ' :: openQuote quoted) ++ more,
        (front ++ blanks ++ (suggestion.text ++ ' ' :: openQuote quoted)).length⟩ := by
  have solid : ∀ c ∈ ((schema.contextAt text text.length).textAfter text text.length).head?,
      Text.isSpace c = false := Text.head?_trim _
  refine ⟨openQuote quoted ++ (schema.contextAt text text.length).textAfter text text.length, ?_⟩
  rw [Suggestion.accept, Suggestion.acceptIn, textBefore_of_split place.split,
    Suggestion.pasted_operator plain some' snippet _ solid, Suggestion.markDistance_operator snippet]
  simp only [List.length_append, List.append_assoc, Edited.mk.injEq, true_and]
  omega

/-- With an operator in its place, a value of the named field is asked for. -/
theorem OperatorPlace.contextAt_operator (schema : Schema) {front blanks typed symbol : Text} {earlier : List Token}
    {name : Token} (place : OperatorPlace text front blanks typed earlier name) (closed : QuotesClosed text)
    (inside : symbol ∈ Operator.symbols) (quoted : Bool) (more : Text) :
    ∃ window : Window,
      schema.contextAt (front ++ blanks ++ (symbol ++ ' ' :: openQuote quoted) ++ more)
          (front ++ blanks ++ (symbol ++ ' ' :: openQuote quoted)).length =
        schema.valueContext name.value (window.bare schema) := by
  obtain ⟨_, solid, kind, compares, only⟩ := tokenize_operator inside quoted
  obtain ⟨operator, kind', stop, tokens⟩ : ∃ operator : Token, operator.kind = kind ∧
      operator.stop = (front ++ blanks ++ symbol).length ∧
      tokenize (front ++ blanks ++ (symbol ++ ' ' :: openQuote quoted)) = earlier ++ [name] ++ [operator] := by
    have reach := place.reach
    rw [place.split] at closed reach
    refine ⟨Token.shift (front ++ blanks).length ⟨kind, symbol, 0, symbol.length⟩, rfl, ?_, ?_⟩
    · simp only [Token.shift_stop, List.length_append]
      omega
    · rw [closed.tokenize_exchange reach place.spaced place.blank solid, only]
      rfl
  have behind : (front ++ blanks ++ (symbol ++ ' ' :: openQuote quoted)).drop operator.stop =
      ' ' :: openQuote quoted := by
    rw [stop, ← List.append_assoc, List.drop_left]
  have before := @List.take_left _ (front ++ blanks ++ (symbol ++ ' ' :: openQuote quoted)) more
  exact ⟨_, (schema.contextAt_behind_operator (before.symm ▸ tokens) place.named (kind' ▸ compares)
    (before.symm ▸ behind)).1⟩

/-- Behind a connector and a blank a field path begins. -/
theorem fieldContext_behind_connector (schema : Schema) {head word : Text} (opens : EndsOpen head)
    (identifier : IsIdentifier word) (logical : (wordKind word).isLogical = true) :
    ∃ token, schema.contextAt (head ++ (word ++ [' '])) (head ++ (word ++ [' '])).length =
      ⟨[], some .field, schema.currentModel, none, token, schema.rootStack⟩ := by
  obtain ⟨c, more, parts, start, _⟩ := id identifier
  have solid : ∀ d ∈ (word ++ [' ']).head?, isBlank d = false := by
    rw [parts]
    rintro d ⟨⟩
    exact (isNameStart_cases start).1
  have noQuote : '"' ∉ word ++ [' '] := by
    intro inside
    rcases List.mem_append.mp inside with quote | quote
    · cases identifier.parts _ quote
    · cases List.mem_singleton.mp quote
  obtain ⟨tokens, reach⟩ := reach_open opens solid noQuote
  obtain ⟨token, window⟩ := Window.atCursor_behind_word reach (.single identifier) rfl
  refine ⟨token, ?_⟩
  rw [contextAt_of_connector (by rw [window]) logical (by rw [window]; rfl) (by rw [window]; rfl), window]
  exact schema.fieldContext_of_not_mem token List.not_mem_nil

/-- A connector accepted at the end of a text stands there with a blank, in the place of what is typed. -/
theorem accept_connector (scope : (schema.contextAt text text.length).scope = some .logical)
    {word : Text} (identifier : IsIdentifier word)
    (inside : ∀ c ∈ (schema.contextAt text text.length).typed, c ∈ word) :
    ∃ head, EndsOpen head ∧ (literalSuggestion word).accept schema text text.length =
      ⟨head ++ (word ++ [' ']), (head ++ (word ++ [' '])).length⟩ := by
  obtain ⟨spaced, same⟩ := contextAt_of_logical scope
  have typed : (schema.contextAt text text.length).typed = (Window.atCursor text text.length).typed := by
    rw [same]
    rfl
  rw [Window.atCursor_spaced, List.take_length, decide_eq_true_eq] at spaced
  rw [Window.atCursor_typed, List.take_length] at typed
  obtain ⟨head, split, opens, _⟩ :=
    @Window.exists_open_head (text.take (Window.edge (Window.keptAt text text.length))) _ (Or.inl spaced)
  rw [List.take_append_drop, ← typed] at split
  have nothing : (schema.contextAt text text.length).textAfter text text.length = [] :=
    textAfter_length fun c member => identifier.parts c (inside c member)
  -- A connector is pasted like a field that is no relation.
  have pasted : (literalSuggestion word).pasted head [] = word ++ [' '] :=
    FieldDef.suggestion_pasted { type := .bool } word head []
  refine ⟨head, opens, ?_⟩
  rw [Suggestion.accept, Suggestion.acceptIn, nothing, textBefore_of_split split, pasted, List.append_nil,
    show (literalSuggestion word).markDistance = 0 from rfl, List.length_append]
  simp

end Schema

theorem mem_connectorCandidates {context : Context} {suggestion : Suggestion}
    (listed : suggestion ∈ (connectorCandidates context).complete.suggestions) :
    ∃ word, suggestion = literalSuggestion word ∧ IsIdentifier word ∧ (wordKind word).isLogical = true ∧
      ∀ c ∈ context.typed, c ∈ word := by
  obtain ⟨offered, matched⟩ := List.mem_filter.mp listed
  have inside : ∀ c ∈ context.typed, c ∈ suggestion.text := Text.mem_of_hasInside matched
  simp only [connectorCandidates, List.mem_cons, List.not_mem_nil, or_false] at offered
  rcases offered with rfl | rfl
  · exact ⟨['a', 'n', 'd'], rfl, by decide, by decide, inside⟩
  · exact ⟨['o', 'r'], rfl, by decide, by decide, inside⟩

/-- Accepting an operator or a connector at the end of a text moves on: a symbolic operator behind a text
without open quotes asks for a value of the same field, reached through the same models, and a connector
asks for a field of the current model. -/
theorem accept_moves_to_next_scope {schema : Schema} {model : Text}
    (named : ∀ entry ∈ schema.models, entry.1 ≠ []) (current : schema.currentModel = some model)
    (declared : schema.hasModel model = true) (text : Text) (suggestion : Suggestion) :
    let context := schema.contextAt text text.length
    let edited := suggestion.accept schema text text.length
    let next := schema.contextAt edited.text edited.cursor
    (context.scope = some .comparison → QuotesClosed text → text.getLast? ≠ some '(' →
      suggestion ∈ (operatorCandidates schema context).complete.suggestions →
      suggestion.text ∈ Operator.symbols →
        next.scope = some .value ∧ next.model = context.model ∧ next.field = context.field ∧
          next.stack = context.stack) ∧
    (context.scope = some .logical → suggestion ∈ (connectorCandidates context).complete.suggestions →
      next.scope = some .field ∧ next.typed = [] ∧ next.model = some model ∧ next.stack = [model]) := by
  intro context edited next
  constructor
  · intro scope closed noParen listed symbol
    obtain ⟨plain, quoted, snippet⟩ := mem_operatorCandidates listed symbol
    obtain ⟨some', _⟩ := tokenize_operator symbol quoted
    obtain ⟨front, blanks, earlier, name, place, same⟩ := Schema.exists_operatorPlace scope noParen
    obtain ⟨more, accepted⟩ := place.accept plain some' snippet
    obtain ⟨window, compared⟩ := place.contextAt_operator schema closed symbol quoted more
    have after : next = schema.valueContext name.value (window.bare schema) := by
      show schema.contextAt (suggestion.accept schema text text.length).text
        (suggestion.accept schema text text.length).cursor = _
      rw [accepted]
      exact compared
    have before : context = schema.comparisonContext name.value ((Window.atCursor text text.length).bare schema) :=
      same
    have found : (named? (schema.resolve name.value).model).isSome = true := by
      by_contra missing
      rw [before, Schema.comparisonContext, if_neg missing] at scope
      cases scope
    rw [after, before, Schema.valueContext, Schema.comparisonContext, if_pos found, if_pos found]
    exact ⟨rfl, rfl, rfl, rfl⟩
  · intro scope listed
    obtain ⟨word, rfl, identifier, logical, inside⟩ := mem_connectorCandidates listed
    obtain ⟨head, opens, accepted⟩ := Schema.accept_connector scope identifier inside
    obtain ⟨token, field⟩ := schema.fieldContext_behind_connector opens identifier logical
    have after : next = ⟨[], some .field, schema.currentModel, none, token, schema.rootStack⟩ := by
      show schema.contextAt ((literalSuggestion word).accept schema text text.length).text
        ((literalSuggestion word).accept schema text text.length).cursor = _
      rw [accepted]
      exact field
    have root := Schema.rootStack_of_current (Schema.ne_nil_of_hasModel named declared) current
    rw [after, current, root]
    exact ⟨rfl, rfl, rfl, rfl⟩

/-- Half an operator is typed, of which no token is made, and half a connector, which is taken for a name. -/
theorem accept_moves_to_next_scope_from_halves :
    let book := "core.book".toList
    let schema : Schema :=
      { currentModel := some book, models := [(book, [("name".toList, { type := .str })])] }
    let differs : Suggestion := ⟨['!', '='], [], " \"|\"".toList, some "is not equal to".toList⟩
    let value := differs.accept schema "name !".toList "name !".toList.length
    let joined := (literalSuggestion "and".toList).accept schema "name = 1 an".toList "name = 1 an".toList.length
    (schema.contextAt value.text value.cursor).scope = some .value ∧
      (schema.contextAt value.text value.cursor).field = some "name".toList ∧
      (schema.contextAt joined.text joined.cursor).scope = some .field ∧
      (schema.contextAt joined.text joined.cursor).stack = [book] := by
  intro book schema differs value joined
  have named : ∀ entry ∈ schema.models, entry.1 ≠ [] := by decide
  obtain ⟨operator, _⟩ := accept_moves_to_next_scope named rfl rfl "name !".toList differs
  obtain ⟨_, connector⟩ := accept_moves_to_next_scope named rfl rfl "name = 1 an".toList
    (literalSuggestion "and".toList)
  obtain ⟨scope, _, field, _⟩ := operator (by decide +kernel) (by decide +kernel) (by decide +kernel)
    (by decide +kernel) (by decide +kernel)
  obtain ⟨scope', _, _, stack⟩ := connector (by decide +kernel) (by decide +kernel)
  refine ⟨scope, field.trans ?_, scope', stack⟩
  decide +kernel

end QueryCompletion
