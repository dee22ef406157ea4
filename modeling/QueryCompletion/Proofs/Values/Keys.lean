import QueryCompletion.Proofs.Context.Route
import QueryCompletion.Proofs.Lexer.Words
import QueryCompletion.Proofs.Suggestion.Operator
import QueryCompletion.Values

/-!
Keys of value queries. A key is written without escapes, but of its three parts only the search may hold the
bar, and the field holds no dot; so what a context asks for can be read off its key.
-/

namespace QueryCompletion

open Lexer

namespace ValueQuery

/-- The separators in the key stand where the parts meet: the bar neither in the model nor in the field, and
no dot in the field. -/
structure Separable (query : ValueQuery) : Prop where
  model_bar : '|' ∉ query.model
  field_bar : '|' ∉ query.field
  field_dot : '.' ∉ query.field

/-- The first bar ends the field, and the last dot before it ends the model. -/
theorem Separable.eq_of_key {query other : ValueQuery} (separable : query.Separable) (separable' : other.Separable)
    (same : query.key = other.key) : query = other := by
  have barless {query : ValueQuery} (separable : query.Separable) : '|' ∉ query.model ++ '.' :: query.field := by
    intro inside
    rcases List.mem_append.mp inside with model | behind
    · exact separable.model_bar model
    · rcases List.mem_cons.mp behind with dot | field
      · cases dot
      · exact separable.field_bar field
  obtain ⟨path, search⟩ := Text.append_separator_inj (barless separable) (barless separable') same
  obtain ⟨model, field⟩ := Text.append_last_separator_inj separable.field_dot separable'.field_dot path
  cases query
  cases other
  cases model
  cases field
  cases search
  rfl

/-- With a bar in the name of a model, one key stands for two queries. -/
example : (⟨"a.b|c".toList, ['d'], ['e']⟩ : ValueQuery).key = (⟨['a'], ['b'], "c.d|e".toList⟩ : ValueQuery).key := rfl

end ValueQuery

/-- A context in which values of a field are asked for, and the query for them: what is typed is searched for. -/
structure Context.Asks (context : Context) (query : ValueQuery) : Prop where
  scope : context.scope = some .value
  model : context.model = some query.model
  field : context.field = some query.field
  search : context.typed = query.search

/-- The tokens before the typed text are tokens of the text before the cursor. -/
theorem Window.mem_of_beforeLast {text : Text} {cursor : Int} {token : Token}
    (before : (Window.atCursor text cursor).beforeLast = some token) : token ∈ tokenize (text.before cursor) := by
  have kept := List.mem_of_mem_dropLast (List.mem_of_getLast? before)
  unfold Window.settled at kept
  split at kept
  · exact List.mem_of_mem_dropLast kept
  · exact kept

namespace Schema

variable {schema : Schema}

/-- The field at which a walk ends is the field that it started with or a segment that it passed. -/
theorem walk_field_mem {model reached : Text} {field : Option Text} {stack parts : List Text}
    (ends : (schema.walk model field stack parts).field = some reached) : field = some reached ∨ reached ∈ parts := by
  induction parts generalizing model field stack with
  | nil => exact Or.inl ends
  | cons part rest ih =>
    rcases schema.walk_cases model field stack part with nowhere | ⟨_, _, _, step, onward⟩
    · rw [nowhere] at ends
      cases ends
    · rw [onward] at ends
      rcases ih ends with started | later
      · cases step with
        | field _ _ => exact Or.inr (Option.some.inj started ▸ List.mem_cons_self)
        | relation _ _ _ _ => cases started
      · exact Or.inr (List.mem_cons_of_mem _ later)

/-- A name that ends in a field has the field among its segments, and leads to a model that is declared. -/
theorem of_resolve_field {name model field : Text} (leads : (schema.resolve name).model = some model)
    (ends : (schema.resolve name).field = some field) :
    field ∈ Text.pieces '.' name ∧ ∃ fields, (model, fields) ∈ schema.models := by
  cases current : schema.currentModel with
  | none =>
    rw [resolve, current] at leads
    cases leads
  | some root =>
    rw [resolve_of_current current] at leads ends
    refine ⟨(walk_field_mem ends).resolve_left (fun absent => by cases absent), ?_⟩
    refine walk_keeps (P := fun model field _ => field ≠ none → ∃ fields, (model, fields) ∈ schema.models)
      (fun _ step found => ?_) (fun found => absurd rfl found) leads (ends ▸ Option.some_ne_none field)
    cases step with
    | field same _ => exact ⟨_, exists_entry (mem_of_lookup same)⟩
    | relation _ _ _ _ => exact absurd rfl found

/-- A value is asked for only behind a name that is a token before the cursor. -/
theorem contextAt_of_value {text : Text} {cursor : Int} (scope : (schema.contextAt text cursor).scope = some .value) :
    ∃ token ∈ tokenize (text.before cursor), token.kind = .name ∧
      schema.contextAt text cursor =
        schema.valueContext token.value ((Window.atCursor text cursor).bare schema) := by
  rcases schema.contextAt_outcomes text cursor with
    ⟨_, same⟩ | same | ⟨_, ⟨name, compared, same⟩ | ⟨last, _, _, same⟩ | same⟩
  · rw [same] at scope
    rcases schema.fieldContext_scope _ _ with other | other <;> cases scope.symm.trans other
  · rw [same] at scope
    cases scope
  · unfold Window.comparedName? at compared
    split at compared
    · rename_i token _ before _
      split at compared
      · rename_i kinds
        cases compared
        rw [Bool.and_eq_true, beq_iff_eq] at kinds
        exact ⟨token, Window.mem_of_beforeLast before, kinds.1, same⟩
      · cases compared
    · cases compared
  · rw [same, comparisonContext] at scope
    split at scope <;> cases scope
  · rw [same] at scope
    cases scope

/-- No model has a bar in its name. -/
def BarFree (schema : Schema) : Prop := ∀ entry ∈ schema.models, '|' ∉ entry.1

instance (schema : Schema) : Decidable schema.BarFree :=
  inferInstanceAs (Decidable (∀ entry ∈ schema.models, '|' ∉ entry.1))

theorem contextAt_of_contextAt? {text : Text} {cursor : Option Int} {context : Context}
    (found : schema.contextAt? text cursor = some context) : ∃ place, schema.contextAt text place = context := by
  unfold contextAt? at found
  split at found
  · exact ⟨_, Option.some.inj found⟩
  · split at found
    · exact ⟨_, Option.some.inj found⟩
    · cases found

/-- The model and the field asked for are those that a name before the cursor leads to. -/
theorem exists_name_of_value {text : Text} {cursor : Int} (scope : (schema.contextAt text cursor).scope = some .value) :
    ∃ name, Dotted name ∧ (schema.resolve name).model.isSome = true ∧
      (schema.contextAt text cursor).model = (schema.resolve name).model ∧
      (schema.contextAt text cursor).field = (schema.resolve name).field := by
  obtain ⟨token, inside, named, same⟩ := schema.contextAt_of_value scope
  refine ⟨token.value, (longestWord_of_mem inside (by rw [named]; rfl)).1.dotted, ?_⟩
  rw [same] at scope ⊢
  unfold valueContext at scope ⊢
  dsimp only at scope ⊢
  split at scope
  · rename_i leads
    rw [if_pos leads]
    exact ⟨Option.isSome_iff_exists.mpr (exists_of_named? leads), rfl, rfl⟩
  · cases scope

theorem BarFree.separable (barFree : schema.BarFree) {text : Text} {cursor : Int} {query : ValueQuery}
    (asks : (schema.contextAt text cursor).Asks query) : query.Separable := by
  obtain ⟨name, dotted, _, model, field⟩ := exists_name_of_value asks.scope
  obtain ⟨segment, fields, declared⟩ :=
    schema.of_resolve_field (model.symm.trans asks.model) (field.symm.trans asks.field)
  obtain ⟨noDot, chars⟩ := Text.of_mem_pieces segment
  refine ⟨barFree _ declared, fun inside => ?_, noDot⟩
  rcases dotted.chars '|' (chars '|' inside) with part | dot
  · cases part
  · cases dot

/-- Whatever the texts, the cursors and the schemas are, values of a field are asked for by a query, and two
queries have the same key only if they are the same, as long as no model has a bar in its name. -/
theorem key_eq_iff_of_asks {schema other : Schema} (barFree : schema.BarFree) (barFree' : other.BarFree)
    {text text' : Text} {cursor cursor' : Option Int} {context context' : Context}
    (here : schema.contextAt? text cursor = some context) (there : other.contextAt? text' cursor' = some context') :
    (context.scope = some .value → context.field.isSome = true → ∃ query, context.Asks query) ∧
      ∀ query query', context.Asks query → context'.Asks query' → (query.key = query'.key ↔ query = query') := by
  obtain ⟨place, rfl⟩ := contextAt_of_contextAt? here
  obtain ⟨place', rfl⟩ := contextAt_of_contextAt? there
  refine ⟨fun scope named => ?_, fun query query' asks asks' => ⟨fun same => ?_, fun same => same ▸ rfl⟩⟩
  · obtain ⟨field, ends⟩ := Option.isSome_iff_exists.mp named
    obtain ⟨name, _, leads, model, _⟩ := exists_name_of_value scope
    obtain ⟨reached, arrives⟩ := Option.isSome_iff_exists.mp leads
    exact ⟨⟨reached, field, _⟩, scope, model.trans arrives, ends, rfl⟩
  · exact (barFree.separable asks).eq_of_key (barFree'.separable asks') same

/-- Names of models with dots, and a search that holds both separators. -/
theorem key_eq_iff_of_asks_with_separators :
    let schema : Schema :=
      { currentModel := some "core.book".toList
        models := [("core.book".toList, [("name".toList, { type := .str }),
            ("author".toList, { type := .relation, relation := some "auth.user".toList })]),
          ("auth.user".toList, [("name".toList, { type := .str })])] }
    let book : ValueQuery := ⟨"core.book".toList, "name".toList, "|c.d".toList⟩
    let user : ValueQuery := ⟨"auth.user".toList, "name".toList, "|c.d".toList⟩
    schema.BarFree ∧ (schema.contextAt "name = |c.d".toList 11).Asks book ∧
      (schema.contextAt "author.name = |c.d".toList 18).Asks user ∧ book.key ≠ user.key := by
  intro schema book user
  have barFree : schema.BarFree := by decide +kernel
  have first : (schema.contextAt "name = |c.d".toList 11).Asks book := by
    constructor <;> decide +kernel
  have second : (schema.contextAt "author.name = |c.d".toList 18).Asks user := by
    constructor <;> decide +kernel
  have here : schema.contextAt? "name = |c.d".toList (some 11) = some (schema.contextAt "name = |c.d".toList 11) := rfl
  have there : schema.contextAt? "author.name = |c.d".toList (some 18) =
      some (schema.contextAt "author.name = |c.d".toList 18) := rfl
  have distinct := (key_eq_iff_of_asks barFree barFree here there).2 book user first second
  exact ⟨barFree, first, second, mt distinct.mp (by decide)⟩

end Schema

end QueryCompletion
