import QueryCompletion.Proofs.Context.Field
import QueryCompletion.Proofs.Suggestion.Splice
import QueryCompletion.Proofs.Text.Words
import QueryCompletion.Suggestion.Filter
import QueryCompletion.Suggestion.Sources

/-!
Accepting a field. The path before what was typed stays, the field takes the place of what was typed,
and a dot or a blank follows. At the end of a text the context moves on: behind a relation to the
fields of its target, behind any other field to the operators.
-/

namespace QueryCompletion

open Lexer

theorem Text.mem_of_hasInside {word text : Text} (found : hasInside word text = true) :
    ∀ c ∈ word, c ∈ text :=
  (hasInside_iff.mp found).subset

/-- What is listed in a field context: a field of the model, with what was typed inside its name. -/
theorem mem_fieldCandidates {schema : Schema} {context : Context} {suggestion : Suggestion}
    (listed : suggestion ∈ (fieldCandidates schema context).complete.suggestions) :
    ∃ model name found, context.model = some model ∧ (name, found) ∈ schema.fieldsOf model ∧
      suggestion = found.suggestion name ∧ ∀ c ∈ context.typed, c ∈ name := by
  obtain ⟨offered, survives⟩ := List.mem_filter.mp listed
  obtain ⟨⟨name, found⟩, inside, rfl⟩ := List.mem_map.mp offered
  have field := (List.mem_filter.mp inside).1
  cases model : context.model with
  | none => rw [Context.fields, model] at field; cases field
  | some model' =>
    rw [Context.fields, model] at field
    exact ⟨model', name, found, rfl, field, rfl, Text.mem_of_hasInside survives⟩

namespace FieldDef

variable (field : FieldDef) (name : Text)

/-- What follows the name of an accepted field. -/
def follows (after : Text) : Text :=
  if (field.suggestion name).snippetAfter.isPrefixOf after then []
  else (field.suggestion name).snippetAfter

theorem pieces_snippetAfter :
    Text.pieces '|' (field.suggestion name).snippetAfter = [(field.suggestion name).snippetAfter] := by
  refine Text.pieces_of_not_mem ?_
  unfold suggestion
  dsimp only
  split <;> decide

theorem suggestion_pasted (before after : Text) :
    (field.suggestion name).pasted before after = name ++ field.follows name after := by
  have snippets : (field.suggestion name).snippets = ([], (field.suggestion name).snippetAfter) := by
    rw [Suggestion.snippets, pieces_snippetAfter]
    rfl
  rw [Suggestion.pasted, snippets]
  dsimp only
  rw [ite_self, List.nil_append]
  rfl

theorem suggestion_markDistance : (field.suggestion name).markDistance = 0 := by
  rw [Suggestion.markDistance, pieces_snippetAfter]

end FieldDef

namespace Schema

variable {schema : Schema} {text head base : Text} {cursor : Nat}

theorem FieldPlace.textBefore (within : cursor ≤ text.length)
    (place : schema.FieldPlace (schema.contextAt text cursor) (text.take cursor) head base) :
    (schema.contextAt text cursor).textBefore text cursor = head ++ base := by
  have typed := schema.contextAt_typed_suffix text cursor
  have start := Context.take_append_typed within typed
  rw [place.split, ← List.append_assoc] at start
  rw [Context.textBefore_eq within typed]
  exact List.append_cancel_right start

/-- The text with a field accepted in it. -/
theorem FieldPlace.accept {after : Text} (within : cursor ≤ text.length)
    (place : schema.FieldPlace (schema.contextAt text cursor) (text.take cursor) head base)
    (behind : (schema.contextAt text cursor).textAfter text cursor = after)
    (field : FieldDef) (name : Text) :
    (field.suggestion name).accept schema text cursor =
      ⟨head ++ (base ++ name ++ field.follows name after) ++ after,
        (head ++ (base ++ name ++ field.follows name after)).length⟩ := by
  rw [Suggestion.accept, Suggestion.acceptIn]
  simp only [place.textBefore within, behind, field.suggestion_pasted, field.suggestion_markDistance]
  rw [Edited.mk.injEq]
  constructor
  · simp only [List.append_assoc]
  · simp only [List.length_append]
    omega

theorem FieldPlace.accept_text (within : cursor ≤ text.length)
    (place : schema.FieldPlace (schema.contextAt text cursor) (text.take cursor) head base)
    (field : FieldDef) (name : Text) :
    ((field.suggestion name).accept schema text cursor).text =
      head ++ (base ++ name ++
        (field.follows name ((schema.contextAt text cursor).textAfter text cursor) ++
          (schema.contextAt text cursor).textAfter text cursor)) := by
  rw [place.accept within rfl]
  simp only [List.append_assoc]

/-- What is pasted ends behind the path, the name and what follows it. -/
theorem FieldPlace.pasted_length (within : cursor ≤ text.length)
    (place : schema.FieldPlace (schema.contextAt text cursor) (text.take cursor) head base)
    (field : FieldDef) (name : Text) :
    ((schema.contextAt text cursor).textBefore text cursor).length +
        ((field.suggestion name).pasted ((schema.contextAt text cursor).textBefore text cursor)
          ((schema.contextAt text cursor).textAfter text cursor)).length =
      head.length + (base ++ name).length +
        (field.follows name ((schema.contextAt text cursor).textAfter text cursor)).length := by
  rw [field.suggestion_pasted, place.textBefore within]
  simp only [List.length_append]
  omega

theorem token_isSome_of_part (schema : Schema) (front : Text) {c : Char} (part : isNamePart c = true) :
    (schema.contextAt (front ++ [c]) (front ++ [c]).length).token.isSome = true := by
  obtain ⟨tokens, token, all, stop⟩ := exists_last_token front part
  rw [contextAt_token, Window.atCursor_token, List.take_length, all, Window.touches_concat,
    if_pos (by rw [stop]; simp)]
  simp

/-- At the end of a text nothing stands behind an accepted field. -/
theorem textAfter_length
    (parts : ∀ c ∈ (schema.contextAt text text.length).typed, isNamePart c = true) :
    (schema.contextAt text text.length).textAfter text text.length = [] := by
  have typed := schema.contextAt_typed_suffix text text.length
  cases found : (schema.contextAt text text.length).token with
  | some token =>
    have reaches := cursor_le_stop (Nat.le_refl _) found
    rw [Context.textAfter_of_token (Nat.le_refl _) typed found, List.drop_eq_nil_of_le reaches]
    rfl
  | none =>
    have empty : (schema.contextAt text text.length).typed = [] := by
      rcases List.eq_nil_or_concat' (schema.contextAt text text.length).typed with
        empty | ⟨init, c, ends⟩
      · exact empty
      · rw [ends, List.take_length] at typed
        obtain ⟨front, whole⟩ := typed
        have part := parts c (by rw [ends]; simp)
        have some' := schema.token_isSome_of_part (front ++ init) part
        rw [List.append_assoc, whole, found] at some'
        cases some'
    rw [Context.textAfter_of_none (Nat.le_refl _) typed found, empty, List.drop_length]
    rfl

/-- A field accepted at the end of a text stands there with its dot or blank, behind the same path. -/
theorem FieldPlace.accept_length {name : Text} {found : FieldDef}
    (place : schema.FieldPlace (schema.contextAt text text.length) (text.take text.length) head base)
    (identifier : IsIdentifier name)
    (inside : ∀ c ∈ (schema.contextAt text text.length).typed, c ∈ name) :
    (found.suggestion name).accept schema text text.length =
      ⟨head ++ (base ++ name ++ (found.suggestion name).snippetAfter),
        (head ++ (base ++ name ++ (found.suggestion name).snippetAfter)).length⟩ := by
  have nothing : (schema.contextAt text text.length).textAfter text text.length = [] :=
    textAfter_length fun c member => identifier.parts c (inside c member)
  have follows : found.follows name [] = (found.suggestion name).snippetAfter := by
    unfold FieldDef.follows FieldDef.suggestion
    dsimp only
    split <;> rfl
  rw [place.accept (Nat.le_refl _) nothing, follows, List.append_nil]

end Schema

theorem named?_isSome {name : Text} (some' : name ≠ []) : (named? (some name)).isSome = true := by
  cases name with
  | nil => exact absurd rfl some'
  | cons c rest => rfl

namespace Schema

variable {schema : Schema} {text head base model name : Text} {context : Context} {found : FieldDef}

/-- Behind a field that is no relation an operator is typed. -/
theorem FieldPlace.next_of_scalar (place : schema.FieldPlace context text head base)
    (regular : schema.Regular) (atModel : context.model = some model)
    (same : (schema.fieldsOf model).lookup name = some found) (scalar : found.isRelation = false) :
    ∃ token, schema.contextAt (head ++ (base ++ name ++ [' '])) (head ++ (base ++ name ++ [' '])).length =
      ⟨[], some .comparison, some model, some name, token, context.stack⟩ := by
  have leads := place.leads
  rw [atModel] at leads
  have member := mem_of_lookup same
  have entry := exists_entry member
  have identifier := regular.identifiers _ entry _ member
  obtain ⟨tokens, reach⟩ := place.reach regular.identifiers identifier [' '] (by decide)
  obtain ⟨token, next⟩ := schema.contextAt_behind_blank reach
    (leads.dotted regular.identifiers identifier) (leads.wordKind_eq (regular.free _ entry _ member))
  refine ⟨token, ?_⟩
  rw [next, comparisonContext, leads.resolve regular.named regular.identifiers same, walk_field same scalar]
  exact if_pos (named?_isSome (regular.named _ entry))

/-- Behind a relation nothing is typed yet. -/
theorem FieldPlace.next_of_relation (place : schema.FieldPlace context text head base)
    (regular : schema.Regular) (atModel : context.model = some model)
    (same : (schema.fieldsOf model).lookup name = some found) (relation : found.isRelation = true) :
    ∃ token next, schema.contextAt (head ++ (base ++ name ++ ['.'])) (head ++ (base ++ name ++ ['.'])).length =
        next ∧ next.typed = [] ∧
      ∀ target, found.relation = some target → schema.hasModel target = true →
        next = ⟨[], some .field, some target, none, token, context.stack ++ [target]⟩ := by
  have leads := place.leads
  rw [atModel] at leads
  have identifier := regular.identifiers.of_lookup same
  obtain ⟨tokens, reach⟩ := place.reach regular.identifiers identifier ['.'] (by decide)
  obtain ⟨token, next⟩ := schema.contextAt_behind_dot reach
    (leads.dotted regular.identifiers identifier)
  rw [schema.fieldContext_append token List.not_mem_nil, leads.resolve regular.named regular.identifiers same] at next
  refine ⟨token, _, next, by split <;> rfl, fun target known declared => ?_⟩
  rw [walk_relation same relation known declared]
  exact if_pos (Bool.and_eq_true_iff.mpr ⟨named?_isSome (regular.named_of_hasModel declared), rfl⟩)

end Schema

namespace Suggestion

/-- Accepting a listed field at the end of a text moves on: behind a relation to the fields of its
target, one model deeper, and behind any other field to its operators. -/
theorem accept_field_moves_on {schema : Schema} {text : Text} {suggestion : Suggestion}
    (regular : schema.Regular) (scope : (schema.contextAt text text.length).scope = some .field)
    (listed : suggestion ∈
      (fieldCandidates schema (schema.contextAt text text.length)).complete.suggestions) :
    let context := schema.contextAt text text.length
    let edited := suggestion.accept schema text text.length
    let next := schema.contextAt edited.text edited.cursor
    edited.cursor = edited.text.length ∧ next.typed = [] ∧
      ∃ model found, context.model = some model ∧
        (schema.fieldsOf model).lookup suggestion.text = some found ∧
        (found.isRelation = false →
          next.scope = some .comparison ∧ next.model = some model ∧
            next.field = some suggestion.text ∧ next.stack = context.stack) ∧
        ∀ target, found.isRelation = true → found.relation = some target →
          schema.hasModel target = true →
          next.scope = some .field ∧ next.model = some target ∧ next.field = none ∧
            next.stack = context.stack ++ [target] := by
  obtain ⟨head, base, place⟩ := Schema.exists_fieldPlace regular.identifiers scope
  obtain ⟨model, name, found, atModel, member, rfl, inside⟩ := mem_fieldCandidates listed
  have entry := Schema.exists_entry member
  have identifier := regular.identifiers _ entry _ member
  have same := lookup_of_mem (regular.keyed _ entry) member
  intro context edited next
  have accepted : edited = _ := place.accept_length identifier inside
  have cursor : edited.cursor = edited.text.length := by rw [accepted]
  have atNext : next = schema.contextAt edited.text edited.text.length := by rw [← cursor]
  rw [accepted] at atNext
  refine ⟨cursor, ?_⟩
  cases relation : found.isRelation with
  | false =>
    obtain ⟨token, moved⟩ := place.next_of_scalar regular atModel same relation
    rw [FieldDef.suggestion, relation] at atNext
    rw [atNext.trans moved]
    refine ⟨rfl, model, found, atModel, same, fun _ => ⟨rfl, rfl, rfl, rfl⟩, fun _ clash => ?_⟩
    rw [relation] at clash
    cases clash
  | true =>
    obtain ⟨token, _, moved, typed, whole⟩ := place.next_of_relation regular atModel same relation
    rw [FieldDef.suggestion, relation] at atNext
    rw [atNext.trans moved]
    refine ⟨typed, model, found, atModel, same, fun clash => ?_, fun target _ known declared => ?_⟩
    · rw [relation] at clash
      cases clash
    · rw [whole target known declared]
      exact ⟨rfl, rfl, rfl, rfl⟩

/-- Behind a connector and an open parenthesis a relation is accepted, and its target is next. -/
theorem accept_field_moves_on_to_author :
    let schema : Schema :=
      { currentModel := some "book".toList
        models :=
          [("book".toList, [("id".toList, { type := .int }),
              ("author".toList, { type := .relation, relation := some "user".toList })]),
            ("user".toList, [("name".toList, { type := .str })])] }
    let text := "id = 1 and (au".toList
    let edited := Suggestion.accept ⟨"author".toList, [], ['.'], none⟩ schema text text.length
    let next := schema.contextAt edited.text edited.cursor
    edited.text = "id = 1 and (author.".toList ∧ next.scope = some .field ∧
      next.model = some "user".toList ∧ next.field = none ∧
      next.stack = ["book".toList, "user".toList] := by
  intro schema text edited next
  have regular : schema.Regular := ⟨by decide, by decide, by decide, by decide⟩
  have context : schema.contextAt text text.length =
      ⟨"au".toList, some .field, some "book".toList, none, some ⟨.name, "au".toList, 12, 14⟩,
        ["book".toList]⟩ := by
    decide +kernel
  have listed : (⟨"author".toList, [], ['.'], none⟩ : Suggestion) ∈
      (fieldCandidates schema (schema.contextAt text text.length)).complete.suggestions := by
    rw [context]
    decide +kernel
  obtain ⟨_, _, model, found, atModel, same, _, relation⟩ :=
    accept_field_moves_on regular (by rw [context]) listed
  rw [context] at atModel relation
  cases atModel
  have author : (schema.fieldsOf "book".toList).lookup "author".toList =
      some { type := .relation, relation := some "user".toList } := by
    decide +kernel
  rw [author] at same
  cases same
  exact ⟨by decide +kernel, relation "user".toList rfl rfl (by decide)⟩

end Suggestion

end QueryCompletion
