import Mathlib.Data.List.Nodup
import QueryCompletion.Proofs.Schema.Walk
import QueryCompletion.Proofs.Session.Offers
import QueryCompletion.Proofs.Session.Pages

/-!
Repeats in the list offered. Names of fields, operators, literals and connectors are offered once each. Values to
choose from are offered as often as they are listed in the schema or as they came with the pages merged.
-/

namespace QueryCompletion

/-- No text stands twice in the list. -/
def Candidates.Distinct (candidates : Candidates) : Prop := (candidates.suggestions.map Suggestion.text).Nodup

theorem Candidates.Distinct.complete {candidates : Candidates} (distinct : candidates.Distinct) :
    (candidates.complete.suggestions.map Suggestion.text).Nodup :=
  distinct.sublist (List.filter_sublist.map Suggestion.text)

variable {schema : Schema}

/-- The fields of a model are keyed by their names. -/
theorem distinct_fieldCandidates (keyed : ∀ entry ∈ schema.models, (entry.2.map Prod.fst).Nodup)
    (context : Context) : (fieldCandidates schema context).Distinct := by
  have names : ((context.fields schema).map Prod.fst).Nodup := by
    unfold Context.fields
    split
    · rename_i model _
      cases fields : schema.fieldsOf model with
      | nil => exact List.nodup_nil
      | cons field rest =>
        have inside : field ∈ schema.fieldsOf model := fields ▸ List.mem_cons_self
        rw [← fields]
        exact keyed _ (Schema.exists_entry inside)
    · exact List.nodup_nil
  have texts : (fieldCandidates schema context).suggestions.map Suggestion.text =
      ((context.fields schema).filter fun field => !leadsBack context.stack field.2).map Prod.fst := by
    rw [fieldCandidates, List.map_map]
    rfl
  rw [Candidates.Distinct, texts]
  exact names.sublist (List.filter_sublist.map Prod.fst)

theorem distinct_operatorCandidates (schema : Schema) (context : Context) :
    (operatorCandidates schema context).Distinct := by
  have texts (snippet : Text) (operators : List Operator) :
      (operators.map (operatorSuggestions.suggest snippet)).map Suggestion.text = operators.map Operator.symbol := by
    rw [List.map_map]
    rfl
  show ((operatorSuggestions (context.fieldDef? schema)).map Suggestion.text).Nodup
  cases context.fieldDef? schema with
  | none =>
    rw [operatorSuggestions, texts]
    decide
  | some field =>
    have distinct : (field.operators.map Operator.symbol ++ [['i', 'n'], "not in".toList]).Nodup := by
      unfold FieldDef.operators FieldDef.isDate
      generalize field.type = type
      cases type <;> decide +kernel
    rw [operatorSuggestions]
    split
    · rw [texts]
      exact distinct.sublist (List.sublist_append_left _ _)
    · rw [List.map_append, texts]
      exact distinct

theorem distinct_literalCandidates (context : Context) (field : Option FieldDef) :
    (literalCandidates context field).Distinct := by
  have truth : ["True".toList, "False".toList, "None".toList].Nodup := by decide +kernel
  cases field with
  | none => exact List.nodup_singleton _
  | some field =>
    unfold literalCandidates
    dsimp only
    split
    · cases field.nullable with
      | true => exact truth
      | false => exact truth.sublist (List.sublist_append_left ["True".toList, "False".toList] ["None".toList])
    · exact List.nodup_nil
    · exact List.nodup_nil

theorem distinct_connectorCandidates (context : Context) : (connectorCandidates context).Distinct := by
  show [['a', 'n', 'd'], ['o', 'r']].Nodup
  decide

/-- Of values to choose from those are left in which the text typed stands, each as often as it is listed. -/
theorem texts_choiceCandidates (context : Context) (caseSensitive loading : Bool) (values : List Text) :
    (choiceCandidates context caseSensitive loading values).complete.suggestions.map Suggestion.text =
      values.filter fun value => matchesTyped false caseSensitive value context.typed := by
  show ((values.map _).filter _).map Suggestion.text = _
  rw [List.filter_map, List.map_map]
  exact List.map_id'' (fun _ => rfl) _

namespace History

/-- The values to choose from in a context: those listed in the schema, or those of the pages merged under the key
that is asked for. -/
inductive Chooses (history : History) (context : Context) : List Text → Prop
  | listed {field : FieldDef} {values : List Text} :
      context.fieldDef? history.session.schema = some field → field.choices = .listed values →
        Chooses history context values
  | served {field : FieldDef} {model name : Text} {pages : List ValuePage} :
      context.fieldDef? history.session.schema = some field → field.choices = .served true →
        context.model = some model → context.field = some name →
        pages.Sublist (history.delivered (ValueQuery.key ⟨model, name, context.typed⟩)) →
        pages.map ValuePage.number = (List.range' 1 pages.length).map Int.ofNat →
        Chooses history context (pages.flatMap ValuePage.items)

end History

namespace Session

/-- A value is offered once, or as often as it is there to choose. -/
theorem distinct_or_chooses {history : History}
    (ordered : Ordered history.delivered history.session.service.cache.entries) (context : Context) (loadMore : Bool) :
    (history.session.valueCandidates context loadMore).1.Distinct ∨
      ∃ values, history.Chooses context values ∧
        (history.session.valueCandidates context loadMore).1.complete.suggestions.map Suggestion.text =
          values.filter fun value =>
            matchesTyped false history.session.settings.valuesCaseSensitive value context.typed := by
  unfold valueCandidates
  dsimp only
  split
  · exact Or.inl (distinct_literalCandidates context none)
  rename_i field known
  split
  · rename_i choose
    split
    · rename_i values listed
      refine Or.inr ⟨values, .listed known ?_, texts_choiceCandidates context _ _ values⟩
      unfold FieldDef.listed? at listed
      split at listed
      · rename_i same
        exact same.trans (congrArg Choices.listed (Option.some.inj listed))
      · cases listed
    · rename_i unlisted
      split
      · rename_i model name atModel atField _
        obtain ⟨pages, among, made⟩ := ordered.lookUp (ValueQuery.key ⟨model, name, context.typed⟩)
        have items : (history.session.valueOptions ⟨model, name, context.typed⟩ loadMore).1.items =
            pages.flatMap ValuePage.items := by
          rw [valueOptions_eq]
          exact made.items
        refine Or.inr ⟨pages.flatMap ValuePage.items, .served known ?_ atModel atField among made.numbered, ?_⟩
        · unfold FieldDef.hasChoices FieldDef.hasRemoteChoices at choose
          rw [unlisted] at choose
          simpa using choose
        · rw [← items]
          exact texts_choiceCandidates context _ _ _
      · exact Or.inl List.nodup_nil
  · exact Or.inl (distinct_literalCandidates context (some field))

end Session

namespace History

/-- Whatever pages were merged before: the texts of a list that is made are distinct, or values are to be chosen and
one of them is there more than once; then those in which the text typed stands are offered, each as often as it is
there. -/
theorem texts_repeat_only_as_chosen {start : Session} (fresh : start.service.cache.entries = [])
    (events : List ValueEvent)
    (keyed : ∀ entry ∈ (run start events).session.schema.models, (entry.2.map Prod.fst).Nodup)
    (text : Text) (cursor selectionEnd : Option Int) (loadMore : Bool) :
    let history := run start events
    let texts := (history.session.generate text cursor selectionEnd loadMore).completion.suggestions.map
      Suggestion.text
    texts.Nodup ∨
      ∃ context values, history.session.resolver.contextAt? text cursor = some context ∧
        context.scope = some .value ∧ history.Chooses context values ∧ ¬values.Nodup ∧
        texts = values.filter fun value =>
          matchesTyped false history.session.settings.valuesCaseSensitive value context.typed := by
  intro history texts
  have ordered : Ordered history.delivered history.session.service.cache.entries := by
    refine ordered_foldl events ?_
    show Ordered _ start.service.cache.entries
    rw [fresh]
    exact fun entry inside => absurd inside List.not_mem_nil
  have made : texts = (history.session.generate text cursor selectionEnd loadMore).completion.suggestions.map
      Suggestion.text := rfl
  rw [made]
  unfold Session.generate
  split
  · exact Or.inl List.nodup_nil
  split
  · exact Or.inl List.nodup_nil
  split
  · exact Or.inl List.nodup_nil
  split
  · rename_i context known
    rw [Session.offer_eq]
    split
    · exact Or.inl (distinct_fieldCandidates keyed context).complete
    split
    · exact Or.inl (distinct_operatorCandidates history.session.schema context).complete
    split
    · rename_i scope
      rcases Session.distinct_or_chooses ordered context loadMore with distinct | ⟨values, chooses, offered⟩
      · exact Or.inl distinct.complete
      · by_cases once : values.Nodup
        · refine Or.inl ?_
          show ((history.session.valueCandidates context loadMore).1.complete.suggestions.map Suggestion.text).Nodup
          rw [offered]
          exact once.filter _
        · exact Or.inr ⟨context, values, known, by simpa using scope, chooses, once, offered⟩
    split
    · exact Or.inl (distinct_connectorCandidates context).complete
    · exact Or.inl List.nodup_nil
  · exact Or.inl List.nodup_nil

/-- A value that came with two pages is offered twice. -/
theorem texts_repeat_only_as_chosen_from_pages :
    let schema : Schema :=
      { currentModel := some "book".toList
        models := [("book".toList, [("name".toList, { type := .str, choices := .served true })])] }
    let start : Session :=
      { schema, service := { apiUrl := some "/values/", cache := ⟨10, []⟩, fetchDelay := .zero } }
    let key : Text := "book.name|E".toList
    let events : List ValueEvent :=
      [.deliver key ⟨["Emma".toList, "Kim".toList], 1, true⟩, .deliver key ⟨["Emma".toList], 2, false⟩]
    let history := run start events
    let text := "name = \"E".toList
    start.service.cache.entries = [] ∧
      (∀ entry ∈ history.session.schema.models, (entry.2.map Prod.fst).Nodup) ∧
      (history.session.generate text (some 9) none false).completion.suggestions.map Suggestion.text =
        ["Emma".toList, "Emma".toList] ∧
      ∃ context values, history.Chooses context values ∧ ¬values.Nodup := by
  intro schema start key events history text
  have fresh : start.service.cache.entries = [] := rfl
  have keyed : ∀ entry ∈ history.session.schema.models, (entry.2.map Prod.fst).Nodup := by decide +kernel
  have offered : (history.session.generate text (some 9) none false).completion.suggestions.map Suggestion.text =
      ["Emma".toList, "Emma".toList] := by decide +kernel
  refine ⟨fresh, keyed, offered, ?_⟩
  rcases texts_repeat_only_as_chosen fresh events keyed text (some 9) none false with distinct |
    ⟨context, values, _, _, chooses, twice, _⟩
  · rw [offered] at distinct
    exact absurd distinct (by decide)
  · exact ⟨context, values, chooses, twice⟩

/-- A value that is listed twice in the schema is offered twice. -/
theorem listed_twice_offered_twice :
    let schema : Schema :=
      { currentModel := some "book".toList
        models := [("book".toList, [("name".toList, { type := .str, choices := .listed ["red".toList, "red".toList] })])] }
    let session : Session := { schema, service := { cache := ⟨10, []⟩, fetchDelay := .zero } }
    let texts := (session.generate "name = ".toList (some 7) none false).completion.suggestions.map Suggestion.text
    (∀ entry ∈ schema.models, (entry.2.map Prod.fst).Nodup) ∧ texts = ["red".toList, "red".toList] ∧
      ¬texts.Nodup := by
  decide +kernel

end History

end QueryCompletion
