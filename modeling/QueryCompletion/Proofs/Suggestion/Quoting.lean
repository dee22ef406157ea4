import QueryCompletion.Proofs.Lexer.Escapes
import QueryCompletion.Proofs.Suggestion.Operator
import QueryCompletion.Session.Completion

/-!
Listed values that are accepted behind an equals sign. They are pasted between quotes as they are listed, so
that what is pasted stands for a value exactly if no character of it would have to be escaped.
-/

namespace QueryCompletion

open Lexer

/-- A name with an equals sign behind it and what follows. -/
def equation (name rest : Text) : Text := name ++ [' ', '='] ++ [' '] ++ rest

variable {name : Text}

theorem equation_length (name rest : Text) : (equation name rest).length = name.length + 3 + rest.length := by
  simp only [equation, List.length_append, List.length_cons, List.length_nil]

theorem reach_equation (dotted : Dotted name) :
    Reach (equation name [])
      [⟨wordKind name, name, 0, name.length⟩, ⟨.equals, ['='], name.length + 1, name.length + 2⟩]
      (name ++ [' ', '=']).length := by
  have word := @Reach.word [] name [' ', '=', ' '] [] .start dotted rfl
  simp only [List.nil_append, List.length_nil, Nat.zero_add] at word
  have blank := word.blank rfl (by simp; rfl)
  have step := @Reach.step (name ++ [' ']) [' '] _ (some .equals) ['=']
    (by simpa using blank) (by decide +kernel) (List.cons_ne_nil _ _)
  simpa [equation, tokenValue] using step

theorem tokenize_equation (dotted : Dotted name) {rest : Text} (solid : ∀ c ∈ rest.head?, isBlank c = false) :
    tokenize (equation name rest) =
      [⟨wordKind name, name, 0, name.length⟩, ⟨.equals, ['='], name.length + 1, name.length + 2⟩] ++
        (tokenize rest).map (Token.shift (name.length + 3)) := by
  have closed : QuotesClosed (equation name []) := by
    intro i _ quote
    have inside := List.mem_of_getElem? quote
    simp [equation, dotted.no_quote] at inside
  have exchanged := closed.tokenize_exchange (reach_equation dotted) (List.cons_ne_nil _ _) (by simp; rfl) solid
  simpa [equation] using exchanged

/-- Behind the equals sign a text between quotes is a literal for itself exactly if all its characters are
plain. -/
theorem endsInLiteral_equation_iff (dotted : Dotted name) {value : Text} :
    EndsInLiteral (equation name ('"' :: (value ++ ['"']))) value ↔ ∀ c ∈ value, isPlain c = true := by
  have solid : ∀ c ∈ ('"' :: (value ++ ['"'])).head?, isBlank c = false := by rintro c ⟨⟩; rfl
  have tokens := tokenize_equation dotted solid
  have length := equation_length name ('"' :: (value ++ ['"']))
  rw [← endsInLiteral_self_iff]
  constructor
  · rintro ⟨token, last, string, stop, denotes⟩
    rw [tokens, List.getLast?_append] at last
    cases inner : (tokenize ('"' :: (value ++ ['"']))).getLast? with
    | none =>
      -- Between the quotes nothing is recognized, and the text ends in the equals sign.
      rw [List.getLast?_map, inner] at last
      cases last
      cases string
    | some literal =>
      rw [List.getLast?_map, inner] at last
      cases last
      rw [Token.shift_stop] at stop
      exact ⟨literal, inner, string, by omega, denotes⟩
  · rintro ⟨literal, last, string, stop, denotes⟩
    refine ⟨literal.shift (name.length + 3), ?_, string, ?_, denotes⟩
    · rw [tokens, List.getLast?_append, List.getLast?_map, last]
      rfl
    · rw [Token.shift_stop, stop, length]
      omega

namespace Schema

variable {schema : Schema} {model field : Text} {stack : List Text} {values : List Text}

/-- A name that leads to a field whose values are listed. -/
structure ListsValues (schema : Schema) (name model field : Text) (stack values : List Text) : Prop where
  dotted : Dotted name
  unreserved : reservedWords.lookup name = none
  resolved : schema.resolve name = ⟨some model, some field, stack⟩
  listed : (schema.field? (some model) (some field)).bind FieldDef.listed? = some values

/-- Behind the equals sign, with or without a quote open, a value of the field is asked for and nothing is
typed. -/
theorem ListsValues.contextAt_equation (lists : schema.ListsValues name model field stack values)
    (named : model ≠ []) (opened : Bool) :
    ∃ token, schema.contextAt (equation name (openQuote opened)) (equation name (openQuote opened)).length =
      ⟨[], some .value, some model, some field, token, stack⟩ := by
  have solid : ∀ c ∈ (openQuote opened).head?, isBlank c = false := by
    cases opened <;> rintro c ⟨⟩
    rfl
  have silent : tokenize (openQuote opened) = [] := by cases opened <;> decide +kernel
  have tokens : tokenize ((equation name (openQuote opened)).take (equation name (openQuote opened)).length) =
      [] ++ [⟨wordKind name, name, 0, name.length⟩] ++ [⟨.equals, ['='], name.length + 1, name.length + 2⟩] := by
    rw [List.take_length, tokenize_equation lists.dotted solid, silent]
    rfl
  have behind : ((equation name (openQuote opened)).take (equation name (openQuote opened)).length).drop
      (name.length + 2) = ' ' :: openQuote opened := by
    rw [List.take_length]
    simp [equation]
  have named' : wordKind name = .name := by
    rw [wordKind, lists.unreserved]
    rfl
  obtain ⟨found, atField, listed⟩ := Option.bind_eq_some_iff.mp lists.listed
  have quotes : schema.quotesValues (some model) (some field) = true := by
    simp [quotesValues, atField, FieldDef.hasChoices, listed]
  obtain ⟨context, typed⟩ := schema.contextAt_behind_operator tokens named' rfl behind
  refine ⟨(Window.atCursor (equation name (openQuote opened)) (equation name (openQuote opened)).length).token, ?_⟩
  rw [context]
  simp only [valueContext, lists.resolved, Window.bare, named?_isSome named, typed, quotes, if_true]
  cases opened <;> rfl

/-- A value accepted behind the equals sign stands there between quotes, of which one may be there already. -/
theorem ListsValues.accept_text (lists : schema.ListsValues name model field stack values) (named : model ≠ [])
    (opened : Bool) (value : Text) :
    ((⟨value, ['"'], ['"'], none⟩ : Suggestion).accept schema (equation name (openQuote opened))
        (equation name (openQuote opened)).length).text =
      equation name ('"' :: (value ++ ['"'])) := by
  obtain ⟨token, context⟩ := lists.contextAt_equation named opened
  have typed : (schema.contextAt (equation name (openQuote opened))
      (equation name (openQuote opened)).length).typed = [] := by rw [context]
  have after := @textAfter_length schema (equation name (openQuote opened)) (by rw [typed]; simp)
  have before := @textBefore_of_split schema (equation name (openQuote opened)) _ (by rw [typed, List.append_nil])
  rw [Suggestion.accept, Suggestion.acceptIn]
  dsimp only
  rw [after, before, List.append_nil]
  cases opened <;>
    simp [equation, openQuote, Suggestion.pasted, Suggestion.snippets, Text.pieces, List.isSuffixOf, List.isPrefixOf]

theorem ListsValues.model_ne_nil (lists : schema.ListsValues name model field stack values)
    (named : ∀ entry ∈ schema.models, entry.1 ≠ []) : model ≠ [] := by
  obtain ⟨found, atField, _⟩ := Option.bind_eq_some_iff.mp lists.listed
  exact named _ (exists_entry (mem_of_lookup atField))

end Schema

namespace Session

variable {session : Session} {model field : Text} {stack values : List Text}

/-- The candidates are the values listed, to be pasted between quotes. -/
theorem valueCandidates_of_listed (lists : session.schema.ListsValues name model field stack values)
    (typed : Text) (token : Option Token) (loadMore : Bool) :
    (session.valueCandidates ⟨typed, some .value, some model, some field, token, stack⟩ loadMore).1.suggestions =
      values.map fun value => ⟨value, ['"'], ['"'], none⟩ := by
  obtain ⟨found, atField, listed⟩ := Option.bind_eq_some_iff.mp lists.listed
  have choices : found.hasChoices = true := by rw [FieldDef.hasChoices, listed]; rfl
  simp only [valueCandidates, Context.fieldDef?, atField, choices, listed, if_true, choiceCandidates]

/-- Every listed value can be accepted behind an equals sign, with or without a quote open, and the text then
ends in a literal for it exactly if no character of the value would have to be escaped. -/
theorem accepted_value_denotes_itself_iff (named : ∀ entry ∈ session.schema.models, entry.1 ≠ [])
    (lists : session.schema.ListsValues name model field stack values) {value : Text} (listed : value ∈ values)
    (opened loadMore : Bool) :
    let text := equation name (openQuote opened)
    let context := session.schema.contextAt text text.length
    let candidates := (session.valueCandidates context loadMore).1
    context.scope = some .value ∧ (∃ suggestion ∈ candidates.suggestions, suggestion.text = value) ∧
      ∀ suggestion ∈ candidates.suggestions, suggestion.text = value →
        (EndsInLiteral (suggestion.accept session.schema text text.length).text value ↔
          ∀ c ∈ value, isPlain c = true) := by
  intro text context candidates
  have some' := lists.model_ne_nil named
  obtain ⟨token, same⟩ := lists.contextAt_equation some' opened
  have atContext : context = ⟨[], some .value, some model, some field, token, stack⟩ := same
  have offered : candidates.suggestions = values.map fun value => ⟨value, ['"'], ['"'], none⟩ := by
    show (session.valueCandidates context loadMore).1.suggestions = _
    rw [atContext, valueCandidates_of_listed lists]
  refine ⟨by rw [atContext], ⟨_, by rw [offered]; exact List.mem_map_of_mem listed, rfl⟩, ?_⟩
  intro suggestion inside spelled
  rw [offered] at inside
  obtain ⟨other, _, rfl⟩ := List.mem_map.mp inside
  cases spelled
  rw [lists.accept_text some' opened, endsInLiteral_equation_iff lists.dotted]

/-- A value of a field of the author, with a bar and a letter that is not ASCII in it, behind an open quote. -/
theorem accepted_value_denotes_itself_of_author :
    let book := "core.book".toList
    let user := "auth.user".toList
    let schema : Schema :=
      { currentModel := some book
        models := [(book, [("author".toList, { type := .relation, relation := some user })]),
          (user, [("motto".toList, { type := .str, choices := .listed ["a|é".toList, "b".toList] })])] }
    let session : Session := { schema, service := { cache := ⟨1, []⟩, fetchDelay := .zero } }
    let text := "author.motto = \"".toList
    let suggestion : Suggestion := ⟨"a|é".toList, ['"'], ['"'], none⟩
    schema.ListsValues "author.motto".toList user "motto".toList [book, user] ["a|é".toList, "b".toList] ∧
      suggestion ∈ (session.valueCandidates (schema.contextAt text text.length) false).1.suggestions ∧
      EndsInLiteral (suggestion.accept schema text text.length).text "a|é".toList := by
  intro book user schema session text suggestion
  have dotted : Dotted "author.motto".toList :=
    .step (show IsIdentifier "author".toList by decide) (.single (show IsIdentifier "motto".toList by decide))
  have lists : session.schema.ListsValues "author.motto".toList user "motto".toList [book, user]
      ["a|é".toList, "b".toList] := ⟨dotted, by decide, by decide, by decide⟩
  have offered : suggestion ∈
      (session.valueCandidates (schema.contextAt text text.length) false).1.suggestions := by decide +kernel
  have named : ∀ entry ∈ session.schema.models, entry.1 ≠ [] := by decide
  have listed : "a|é".toList ∈ ["a|é".toList, "b".toList] := by decide
  obtain ⟨_, _, denotes⟩ := accepted_value_denotes_itself_iff named lists listed true false
  have plain : "a|é".toList.all isPlain = true := by decide
  exact ⟨lists, offered, (denotes suggestion offered rfl).mpr (List.all_eq_true.mp plain)⟩

/-- A value with a quote in it is pasted as it is, so that the literal ends at that quote and the text in a
name. -/
theorem accepted_quote_ends_literal :
    let book := "core.book".toList
    let schema : Schema :=
      { currentModel := some book
        models := [(book, [("name".toList, { type := .str, choices := .listed ["a\"b".toList] })])] }
    let session : Session := { schema, service := { cache := ⟨1, []⟩, fetchDelay := .zero } }
    let text := "name = ".toList
    let suggestion : Suggestion := ⟨"a\"b".toList, ['"'], ['"'], none⟩
    let edited := suggestion.accept schema text text.length
    schema.ListsValues "name".toList book "name".toList [book] ["a\"b".toList] ∧
      suggestion ∈ (session.valueCandidates (schema.contextAt text text.length) false).1.suggestions ∧
      edited.text = "name = \"a\"b\"".toList ∧
      (tokenize edited.text).getLast? = some ⟨.name, ['b'], 10, 11⟩ ∧ ¬ EndsInLiteral edited.text "a\"b".toList := by
  intro book schema session text suggestion edited
  have last : (tokenize edited.text).getLast? = some ⟨.name, ['b'], 10, 11⟩ := by decide +kernel
  refine ⟨⟨.single (by decide), by decide, by decide, by decide⟩, by decide +kernel, by decide +kernel, last, ?_⟩
  rintro ⟨token, same, string, _⟩
  rw [last] at same
  cases same
  cases string

end Session

end QueryCompletion
