import QueryCompletion.Proofs.Schema.Walk

/-!
Dotted names resolved part by part. The models passed so far are only carried along and the field reached
is given up at the next segment, so a name can be cut at any of its dots: the second part is walked from
the model to which the first one leads as if that were the current model.
-/

namespace QueryCompletion.Schema

variable {schema : Schema}

/-- The models passed before a walk stay in front of those that it passes. -/
theorem walk_passed (schema : Schema) (model : Text) (field : Option Text) (passed stack parts : List Text) :
    schema.walk model field (passed ++ stack) parts =
      { schema.walk model field stack parts with
        stack := passed ++ (schema.walk model field stack parts).stack } := by
  induction parts generalizing model field stack with
  | nil => rfl
  | cons part rest ih =>
    simp only [walk]
    cases (schema.fieldsOf model).lookup part with
    | none => rfl
    | some found =>
      dsimp only
      split
      · split
        · split
          · rw [List.append_assoc]
            exact ih _ _ _
          · rfl
        · rfl
      · exact ih _ _ _

/-- The field reached before a segment is forgotten there. -/
theorem walk_field_irrelevant (schema : Schema) (model : Text) (field other : Option Text)
    (stack : List Text) (part : Text) (rest : List Text) :
    schema.walk model field stack (part :: rest) = schema.walk model other stack (part :: rest) := rfl

/-- The current model is where walks of names begin; the walks themselves do not depend on it. -/
theorem walk_withCurrentModel (schema : Schema) (current model : Text) (field : Option Text)
    (stack parts : List Text) :
    (schema.withCurrentModel current).walk model field stack parts =
      schema.walk model field stack parts := by
  induction parts generalizing model field stack with
  | nil => rfl
  | cons part rest ih =>
    simp only [walk, ih]
    rfl

/-- A walk that ends nowhere is not taken up again. -/
theorem walk_append_of_none {model : Text} {field : Option Text} {stack front : List Text}
    (nowhere : (schema.walk model field stack front).model = none) (back : List Text) :
    schema.walk model field stack (front ++ back) = schema.walk model field stack front := by
  induction front generalizing model field stack with
  | nil => cases nowhere
  | cons part rest ih =>
    rcases schema.walk_cases model field stack part with ends | ⟨_, _, _, _, onward⟩
    · rw [List.cons_append, ends, ends]
    · rw [onward] at nowhere
      rw [List.cons_append, onward, onward]
      exact ih nowhere

/-- A walk goes on behind its first segments as a new walk from the model reached there. -/
theorem walk_append_eq {model reached : Text} {field : Option Text} {stack front : List Text}
    (leads : (schema.walk model field stack front).model = some reached) {back : List Text}
    (some' : back ≠ []) :
    schema.walk model field stack (front ++ back) =
      let onward := schema.walk reached none [reached] back
      ⟨onward.model, onward.field, (schema.walk model field stack front).stack ++ onward.stack.tail⟩ := by
  obtain ⟨part, rest, rfl⟩ := List.exists_cons_of_ne_nil some'
  generalize arrived : schema.walk model field stack front = first at leads
  obtain ⟨_, last, passed⟩ := first
  cases leads
  have fresh := schema.walk_passed reached none passed [] (part :: rest)
  have rooted := schema.walk_passed reached none [reached] [] (part :: rest)
  rw [List.append_nil] at fresh rooted
  rw [walk_append arrived, walk_field_irrelevant schema reached last none, fresh, rooted]
  rfl

/-- Names are resolved part by part. Behind a part that leads to a model the rest is resolved from that
model, and the models it passes come behind those passed before; behind a part that leads nowhere nothing
changes any more. -/
theorem resolve_part_by_part (schema : Schema) (front back : Text) :
    (∀ model, (schema.resolve front).model = some model →
      schema.resolve (front ++ '.' :: back) =
        let onward := (schema.withCurrentModel model).resolve back
        ⟨onward.model, onward.field, (schema.resolve front).stack ++ onward.stack.tail⟩) ∧
      ((schema.resolve front).model = none →
        schema.resolve (front ++ '.' :: back) = schema.resolve front) := by
  cases current : schema.currentModel with
  | none =>
    have nowhere : ∀ name, schema.resolve name = ⟨none, none, []⟩ := fun name => by rw [resolve, current]
    refine ⟨fun model leads => ?_, fun _ => by rw [nowhere, nowhere]⟩
    rw [nowhere] at leads
    cases leads
  | some root =>
    have pieced := Text.pieces_append '.' front back
    simp only [resolve_of_current current, pieced]
    refine ⟨fun model leads => ?_, fun nowhere => walk_append_of_none nowhere _⟩
    have onward : (schema.withCurrentModel model).resolve back =
        schema.walk model none [model] (Text.pieces '.' back) := by
      rw [resolve_of_current rfl, walk_withCurrentModel]
    rw [onward]
    exact walk_append_eq leads (Text.pieces_ne_nil '.' back)

/-- A scalar in the middle of the first part is passed over, an empty segment in the second one leads
nowhere, and what stands behind it changes nothing. -/
theorem resolve_part_by_part_through_author :
    let relation (target : String) : FieldDef := { type := .relation, relation := some target.toList }
    let schema : Schema :=
      { currentModel := some "core.book".toList
        models := [("core.book".toList, [("name".toList, { type := .str }), ("author".toList, relation "auth.user")]),
          ("auth.user".toList, [("books".toList, relation "core.book")])] }
    (schema.resolve "name.author".toList).model = some "auth.user".toList ∧
      schema.resolve "name.author.books.name".toList =
        ⟨some "core.book".toList, some "name".toList,
          ["core.book".toList, "auth.user".toList, "core.book".toList]⟩ ∧
      (schema.resolve "name.author.books.".toList).model = none ∧
      schema.resolve "name.author.books..name".toList = schema.resolve "name.author.books.".toList := by
  intro relation schema
  have leads : (schema.resolve "name.author".toList).model = some "auth.user".toList := by decide
  have nowhere : (schema.resolve "name.author.books.".toList).model = none := by decide
  refine ⟨leads, ?_, nowhere, ?_⟩
  · exact ((schema.resolve_part_by_part "name.author".toList "books.name".toList).1 _ leads).trans (by decide)
  · exact (schema.resolve_part_by_part "name.author.books.".toList "name".toList).2 nowhere

end QueryCompletion.Schema
