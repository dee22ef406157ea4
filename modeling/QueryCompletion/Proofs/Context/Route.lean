import Mathlib.Data.List.Chain
import QueryCompletion.Proofs.Context.Basic
import QueryCompletion.Proofs.Schema.Walk

/-!
Routes: the models passed on the way from the current model to that of a context. Each of them has a
relation to the next, and a context that names no model has not left the current one.
-/

namespace QueryCompletion.Schema

variable {schema : Schema} {root model : Text}

/-- Some relation of a model has the other for its target. -/
def Relates (schema : Schema) (model target : Text) : Prop :=
  ∃ name found, schema.field? (some model) (some name) = some found ∧ found.isRelation = true ∧
    found.relation = some target

/-- The models passed on the way from one model to a declared one. -/
structure Route (schema : Schema) (root model : Text) (stack : List Text) : Prop where
  declared : schema.hasModel model = true
  starts : stack.head? = some root
  ends : stack.getLast? = some model
  related : stack.IsChain schema.Relates

/-- The field, if there is one, is one of the model and no relation. -/
def IsScalar (schema : Schema) (model : Text) (field : Option Text) : Prop :=
  ∀ name ∈ field, ∃ found, schema.field? (some model) (some name) = some found ∧ found.isRelation = false

theorem Route.single (declared : schema.hasModel root = true) : schema.Route root root [root] :=
  ⟨declared, rfl, rfl, List.isChain_singleton root⟩

/-- A segment leads on along the route. -/
theorem Step.route {stack passed : List Text} {part next : Text} {reached : Option Text}
    (step : schema.Step model stack part next reached passed) (route : schema.Route root model stack) :
    schema.Route root next passed ∧ schema.IsScalar next reached := by
  cases step with
  | @field found same scalar =>
    refine ⟨route, fun name inside => ?_⟩
    cases inside
    exact ⟨found, same, scalar⟩
  | @relation found _ same relation known declared =>
    refine ⟨⟨declared, ?_, List.getLast?_concat, ?_⟩, by nofun⟩
    · rw [List.head?_append, route.starts]
      rfl
    · refine List.isChain_append.mpr ⟨route.related, List.isChain_singleton _, ?_⟩
      intro last atLast first atFirst
      rw [route.ends] at atLast
      cases atLast
      cases atFirst
      exact ⟨part, found, same, relation, known⟩

/-- A walk that arrives anywhere takes a route, and ends at a scalar field or at none. -/
theorem walk_route {field : Option Text} {stack parts : List Text} {reached : Text}
    (route : schema.Route root model stack) (scalar : schema.IsScalar model field)
    (leads : (schema.walk model field stack parts).model = some reached) :
    schema.Route root reached (schema.walk model field stack parts).stack ∧
      schema.IsScalar reached (schema.walk model field stack parts).field :=
  walk_keeps (P := fun model field stack => schema.Route root model stack ∧ schema.IsScalar model field)
    (fun before step => step.route before.1) ⟨route, scalar⟩ leads

theorem resolve_route (current : schema.currentModel = some root) (declared : schema.hasModel root = true)
    {name reached : Text} (leads : (schema.resolve name).model = some reached) :
    schema.Route root reached (schema.resolve name).stack ∧ schema.IsScalar reached (schema.resolve name).field := by
  rw [resolve_of_current current] at leads ⊢
  exact walk_route (.single declared) (by nofun) leads

/-- A name that is there is one. -/
theorem exists_of_named? {name : Option Text} (named : (named? name).isSome = true) :
    ∃ text, name = some text := by
  cases name with
  | none => cases named
  | some text => exact ⟨text, rfl⟩

/-- What a context knows: only the current model to start from, or a model with the route to it. -/
inductive Knows (schema : Schema) (root : Text) (context : Context) : Prop
  | nothing : context.scope = none ∨ context.scope = some .logical → context.model = none →
      context.field = none → context.stack = [root] → Knows schema root context
  | fields {model : Text} : context.scope = some .field → context.model = some model →
      context.field = none → schema.Route root model context.stack → Knows schema root context
  | operand {model : Text} : context.scope = some .comparison ∨ context.scope = some .value →
      context.model = some model → schema.IsScalar model context.field →
      schema.Route root model context.stack → Knows schema root context

/-- The operand of a comparison knows what the name before it leads to. -/
theorem knows_of_resolve (current : schema.currentModel = some root) (declared : schema.hasModel root = true)
    {context : Context} {name : Text} (named : (named? (schema.resolve name).model).isSome = true)
    (scope : context.scope = some .comparison ∨ context.scope = some .value)
    (leads : (⟨context.model, context.field, context.stack⟩ : Resolved) = schema.resolve name) :
    schema.Knows root context := by
  rw [← leads] at named
  obtain ⟨model, atModel⟩ := exists_of_named? named
  obtain ⟨route, scalar⟩ := resolve_route current declared ((congrArg Resolved.model leads.symm).trans atModel)
  rw [← leads] at route scalar
  exact .operand scope atModel scalar route

theorem fieldContext_knows (current : schema.currentModel = some root) (some' : root ≠ [])
    (declared : schema.hasModel root = true) (path : Text) (token : Option Token) :
    schema.Knows root (schema.fieldContext path token) := by
  have alone := rootStack_of_current some' current
  rcases schema.fieldContext_cases path token with
    ⟨_, same⟩ | ⟨front, typed, _, _, ⟨named, _, same⟩ | same⟩ <;> rw [same]
  · exact .fields rfl current rfl (alone ▸ .single declared)
  · obtain ⟨model, leads⟩ := exists_of_named? named
    exact .fields rfl leads rfl (resolve_route current declared leads).1
  · exact .nothing (Or.inl rfl) rfl rfl alone

theorem contextAt_knows (current : schema.currentModel = some root) (some' : root ≠ [])
    (declared : schema.hasModel root = true) (text : Text) (cursor : Int) :
    schema.Knows root (schema.contextAt text cursor) := by
  have alone := rootStack_of_current some' current
  have idle (window : Window) : schema.Knows root (window.bare schema) := .nothing (Or.inl rfl) rfl rfl alone
  rcases schema.contextAt_cases text cursor with
    ⟨_, same⟩ | same | ⟨name, same⟩ | ⟨name, same⟩ | same <;> rw [same]
  · exact fieldContext_knows current some' declared _ _
  · exact idle _
  · rw [valueContext]
    dsimp only
    split
    · rename_i named
      exact knows_of_resolve current declared named (Or.inr rfl) rfl
    · exact idle _
  · rw [comparisonContext]
    split
    · rename_i named
      exact knows_of_resolve current declared named (Or.inl rfl) rfl
    · exact idle _
  · exact .nothing (Or.inr rfl) rfl rfl alone

/-- The parts of a context agree, at every cursor. Without a scope and where a connector is asked for, there is
neither model nor field and only the current model was passed; elsewhere the model is declared, the models
passed are a route to it from the current one, and a field is given only behind a comparison or an operator, a
scalar of the model. -/
theorem contextAt_is_consistent {schema : Schema} {root : Text} (current : schema.currentModel = some root)
    (some' : root ≠ []) (declared : schema.hasModel root = true) (text : Text) (cursor : Int) :
    let context := schema.contextAt text cursor
    (context.scope = none ∨ context.scope = some .logical →
        context.model = none ∧ context.field = none ∧ context.stack = [root]) ∧
      (context.scope = some .field → context.field = none) ∧
      (context.scope = some .value ∨ context.scope = some .comparison →
        ∀ name, context.field = some name →
          ∃ found, schema.field? context.model (some name) = some found ∧ found.isRelation = false) ∧
      (context.scope = some .field ∨ context.scope = some .comparison ∨ context.scope = some .value →
        ∃ model, context.model = some model ∧ schema.hasModel model = true ∧
          context.stack.head? = some root ∧ context.stack.getLast? = some model ∧
          context.stack.IsChain schema.Relates) := by
  intro context
  have known : schema.Knows root context := contextAt_knows current some' declared text cursor
  have arrives {model : Text} (atModel : context.model = some model)
      (route : schema.Route root model context.stack) :
      ∃ model, context.model = some model ∧ schema.hasModel model = true ∧
        context.stack.head? = some root ∧ context.stack.getLast? = some model ∧
        context.stack.IsChain schema.Relates :=
    ⟨model, atModel, route.declared, route.starts, route.ends, route.related⟩
  cases known with
  | nothing scope noModel noField alone =>
    refine ⟨fun _ => ⟨noModel, noField, alone⟩, fun _ => noField, fun _ name field => ?_, fun other => ?_⟩
    · rw [noField] at field; cases field
    · rcases scope with scope | scope <;> simp [scope] at other
  | fields scope atModel noField route =>
    refine ⟨fun other => ?_, fun _ => noField, fun _ name field => ?_, fun _ => arrives atModel route⟩
    · simp [scope] at other
    · rw [noField] at field; cases field
  | operand scope atModel scalar route =>
    refine ⟨fun other => ?_, fun other => ?_, fun _ name field => ?_, fun _ => arrives atModel route⟩
    · rcases scope with scope | scope <;> simp [scope] at other
    · rcases scope with scope | scope <;> simp [scope] at other
    · rw [atModel]
      exact scalar name field

/-- A value is compared with a field of a user who is reached through users; behind the value a connector is
asked for. -/
theorem contextAt_is_consistent_through_friends :
    let book := "core.book".toList
    let user := "auth.user".toList
    let relation (target : Text) : FieldDef := { type := .relation, relation := some target }
    let schema : Schema :=
      { currentModel := some book
        models := [(book, [("author".toList, relation user)]),
          (user, [("friends".toList, relation user), ("name".toList, { type := .str })])] }
    let value := schema.contextAt "author.friends.name = 1 ".toList 22
    let connector := schema.contextAt "author.friends.name = 1 ".toList 24
    value.field = some "name".toList ∧ value.stack = [book, user, user] ∧ value.stack.IsChain schema.Relates ∧
      connector.scope = some .logical ∧ connector.stack = [book] := by
  intro book user relation schema value connector
  have consistent := @contextAt_is_consistent schema book rfl (by decide) rfl "author.friends.name = 1 ".toList
  obtain ⟨_, _, _, arrives⟩ := consistent 22
  obtain ⟨idle, _⟩ := consistent 24
  have scope : connector.scope = some .logical := by decide +kernel
  obtain ⟨_, _, _, _, _, related⟩ := arrives (Or.inr (Or.inr (show value.scope = some .value by decide +kernel)))
  exact ⟨by decide +kernel, by decide +kernel, related, scope, (idle (Or.inr scope)).2.2⟩

end QueryCompletion.Schema
