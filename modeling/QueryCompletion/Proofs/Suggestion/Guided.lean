import Mathlib.Data.List.Destutter
import QueryCompletion.Proofs.Suggestion.Field

/-!
Paths built from what is offered. Behind each relation the fields of its target are offered, those apart
that lead back to a model passed before; so a path that is built of offered relations enters each model
once, and stays in it as long as the model relates to itself.
-/

namespace QueryCompletion

open Lexer

theorem destutter'_concat (first last : Text) (rest : List Text) :
    (rest ++ [last]).destutter' (· ≠ ·) first =
      if rest.getLast?.getD first = last then rest.destutter' (· ≠ ·) first
      else rest.destutter' (· ≠ ·) first ++ [last] := by
  induction rest generalizing first with
  | nil =>
    rw [List.nil_append, List.destutter'_singleton, List.destutter'_nil]
    simp only [List.getLast?_nil, Option.getD_none, ite_not]
    rfl
  | cons next rest ih =>
    have final : ((next :: rest).getLast?.getD first) = rest.getLast?.getD next := by
      rw [List.getLast?_cons]
      rfl
    rw [List.cons_append, List.destutter'_cons, List.destutter'_cons, ih, ih, final]
    by_cases same : first = next
    · simp [same]
    · simp only [ne_eq, same, not_false_eq_true, if_true]
      split <;> simp

/-- A model that comes behind the others is taken for the last one again, or it is added. -/
theorem destutter_concat {stack : List Text} {model : Text} (last : stack.getLast? = some model) (next : Text) :
    (stack ++ [next]).destutter (· ≠ ·) =
      if model = next then stack.destutter (· ≠ ·) else stack.destutter (· ≠ ·) ++ [next] := by
  cases stack with
  | nil => cases last
  | cons first rest =>
    rw [List.getLast?_cons, Option.some.injEq] at last
    rw [List.cons_append, List.destutter_cons', List.destutter_cons', destutter'_concat, last]

/-- A relation that is not left out leads to the model itself or to one not passed yet. -/
theorem leadsBack_eq_true_iff {stack : List Text} {field : FieldDef} :
    leadsBack stack field = true ↔ ∃ target ∈ stack, field.isRelation = true ∧
      field.relation = some target ∧ stack.getLast? ≠ some target := by
  unfold leadsBack
  cases field.relation with
  | none => simp
  | some target =>
    simp only [Bool.and_eq_true, List.contains_iff_mem, bne_iff_ne, Option.some.injEq]
    constructor
    · rintro ⟨⟨relation, passed⟩, other⟩
      exact ⟨target, passed, relation, rfl, other⟩
    · rintro ⟨_, passed, relation, rfl, other⟩
      exact ⟨⟨relation, passed⟩, other⟩

namespace Schema

variable {schema : Schema} {model name target root : Text} {found : FieldDef}

/-- The last of the models passed is the one that is reached. -/
theorem walk_getLast? {field : Option Text} {stack parts : List Text} {reached : Text}
    (last : stack.getLast? = some model) (leads : (schema.walk model field stack parts).model = some reached) :
    (schema.walk model field stack parts).stack.getLast? = some reached := by
  refine walk_keeps (P := fun model _ stack => stack.getLast? = some model) (fun last step => ?_) last leads
  cases step with
  | field _ _ => exact last
  | relation _ _ _ _ => exact List.getLast?_concat

/-- The last of the models of a field context is the one whose fields are offered. -/
theorem contextAt_getLast? (current : schema.currentModel = some root) (some' : root ≠ []) {text : Text}
    {cursor : Int} (scope : (schema.contextAt text cursor).scope = some .field)
    (atModel : (schema.contextAt text cursor).model = some model) :
    (schema.contextAt text cursor).stack.getLast? = some model := by
  obtain ⟨_, same⟩ := contextAt_of_field scope
  rw [same] at scope atModel ⊢
  rcases schema.fieldContext_cases ((Window.atCursor text cursor).path text cursor)
    (Window.atCursor text cursor).token with ⟨_, path⟩ | ⟨front, _, _, _, ⟨_, _, path⟩ | path⟩
  · rw [path] at atModel ⊢
    dsimp only at atModel ⊢
    rw [rootStack_of_current some' current]
    exact current.symm.trans atModel
  · rw [path] at atModel ⊢
    dsimp only at atModel ⊢
    rw [resolve_of_current current] at atModel ⊢
    exact walk_getLast? rfl atModel
  · rw [path] at scope
    cases scope

/-- A path of relations, each with its dot. -/
def pathText (names : List Text) : Text := names.flatMap (· ++ ['.'])

/-- The context at the end of a path of relations. -/
def pathContext (schema : Schema) (names : List Text) : Context :=
  schema.contextAt (pathText names) (pathText names).length

/-- A path that is built of relations to declared models, each of which is offered behind the path so
far. -/
inductive Guided (schema : Schema) : List Text → Prop
  | start : Guided schema []
  | step {names : List Text} {model name target : Text} {found : FieldDef} : Guided schema names →
      (schema.pathContext names).model = some model →
      (schema.fieldsOf model).lookup name = some found →
      found.isRelation = true → found.relation = some target → schema.hasModel target = true →
      found.suggestion name ∈ (fieldCandidates schema (schema.pathContext names)).suggestions →
      Guided schema (names ++ [name])

/-- At the end of what leads to a model its fields are asked for. -/
theorem Leads.contextAt_length {base : Text} {stack : List Text}
    (leads : schema.Leads base (some model) stack) (identifiers : schema.HasIdentifiers) :
    ∃ token, schema.contextAt base base.length = ⟨[], some .field, some model, none, token, stack⟩ := by
  generalize reached : some model = place at leads
  cases leads with
  | root =>
    have window : Window.atCursor [] ([] : Text).length = ⟨none, none, [], false, none⟩ := by decide +kernel
    refine ⟨none, ?_⟩
    rw [contextAt, window]
    rfl
  | @path front model' stack some' resolved =>
    have dotted : Dotted front := identifiers.dotted (by rw [resolved]; rfl)
    obtain ⟨token, next⟩ := @contextAt_behind_dot schema [] front [] .start dotted
    rw [List.nil_append, schema.fieldContext_append token List.not_mem_nil, resolved] at next
    refine ⟨token, next.trans ?_⟩
    exact if_pos (Bool.and_eq_true_iff.mpr ⟨named?_isSome some', rfl⟩)

/-- One more relation leads from a model to its target. -/
theorem Leads.relation {base : Text} {stack : List Text} (leads : schema.Leads base (some model) stack)
    (named : ∀ entry ∈ schema.models, entry.1 ≠ []) (identifiers : schema.HasIdentifiers)
    (same : (schema.fieldsOf model).lookup name = some found) (relation : found.isRelation = true)
    (known : found.relation = some target) (declared : schema.hasModel target = true) :
    schema.Leads (base ++ (name ++ ['.'])) (some target) (stack ++ [target]) := by
  rw [← List.append_assoc]
  refine .path (ne_nil_of_hasModel named declared) ?_
  rw [leads.resolve named identifiers same, walk_relation same relation known declared]
  rfl

/-- What is offered is not left out, since the fields of a model are keyed by their names. -/
theorem not_leadsBack_of_offered {context : Context}
    (keyed : ∀ entry ∈ schema.models, (entry.2.map Prod.fst).Nodup) (atModel : context.model = some model)
    (same : (schema.fieldsOf model).lookup name = some found)
    (offered : found.suggestion name ∈ (fieldCandidates schema context).suggestions) :
    leadsBack context.stack found = false := by
  obtain ⟨⟨name', found'⟩, inside, suggestion⟩ := List.mem_map.mp offered
  obtain ⟨member, open'⟩ := List.mem_filter.mp inside
  rw [Context.fields, atModel] at member
  have name_eq : name' = name := congrArg Suggestion.text suggestion
  rw [name_eq] at member
  rw [lookup_of_mem (keyed _ (exists_entry member)) member, Option.some.injEq] at same
  simpa [← same] using open'

/-- What a guided path keeps: the models passed, collapsed, are distinct. -/
theorem Guided.leads (named : ∀ entry ∈ schema.models, entry.1 ≠ [])
    (keyed : ∀ entry ∈ schema.models, (entry.2.map Prod.fst).Nodup) (identifiers : schema.HasIdentifiers)
    (current : schema.currentModel = some root) (some' : root ≠ []) {names : List Text}
    (guided : schema.Guided names) :
    ∃ model stack, schema.Leads (pathText names) (some model) stack ∧ stack.getLast? = some model ∧
      (stack.destutter (· ≠ ·)).Nodup := by
  induction guided with
  | start =>
    refine ⟨root, [root], ?_, rfl, List.nodup_singleton root⟩
    have root' : schema.Leads [] schema.currentModel schema.rootStack := .root
    rwa [current, rootStack_of_current some' current] at root'
  | @step names model name target found _ atModel same relation known declared offered ih =>
    obtain ⟨model', stack, leads, last, distinct⟩ := ih
    obtain ⟨token, context⟩ := leads.contextAt_length identifiers
    have reached : schema.pathContext names = ⟨[], some .field, some model', none, token, stack⟩ := context
    have onward := not_leadsBack_of_offered keyed atModel same offered
    rw [reached] at atModel onward
    cases atModel
    refine ⟨target, stack ++ [target], ?_, List.getLast?_concat, ?_⟩
    · rw [pathText, List.flatMap_append, List.flatMap_singleton]
      exact leads.relation named identifiers same relation known declared
    · rw [destutter_concat last]
      split
      · exact distinct
      · rename_i other
        have fresh : target ∉ stack := by
          intro passed
          rw [leadsBack_eq_true_iff.mpr ⟨target, passed, relation, known, ?_⟩] at onward
          · cases onward
          · rw [last]
            exact fun same => other (Option.some.inj same)
        refine List.nodup_append.mpr ⟨distinct, List.nodup_singleton target, fun passed inside next atEnd => ?_⟩
        rw [List.mem_singleton.mp atEnd]
        rintro rfl
        exact fresh ((stack.destutter_sublist _).subset inside)

/-- In every field context the fields of its model are offered in their order, those apart that relate to
a model passed before other than the last, which is the model itself; so the models passed on a path that
is built of offered relations, with immediate repetitions collapsed, are distinct. -/
theorem guided_path_never_returns {schema : Schema} {root : Text}
    (named : ∀ entry ∈ schema.models, entry.1 ≠ [])
    (keyed : ∀ entry ∈ schema.models, (entry.2.map Prod.fst).Nodup) (identifiers : schema.HasIdentifiers)
    (current : schema.currentModel = some root) (declared : schema.hasModel root = true) :
    (∀ (text : Text) (cursor : Int) (model : Text),
      let context := schema.contextAt text cursor
      context.scope = some .field → context.model = some model →
        context.stack.getLast? = some model ∧
          (fieldCandidates schema context).suggestions =
            ((schema.fieldsOf model).filter fun field => ¬ ∃ target ∈ context.stack,
              field.2.isRelation = true ∧ field.2.relation = some target ∧
                context.stack.getLast? ≠ some target).map fun field => field.2.suggestion field.1) ∧
      ∀ names, schema.Guided names → ((schema.pathContext names).stack.destutter (· ≠ ·)).Nodup := by
  have some' := ne_nil_of_hasModel named declared
  constructor
  · intro text cursor model context scope atModel
    refine ⟨contextAt_getLast? current some' scope atModel, ?_⟩
    rw [fieldCandidates, Context.fields, atModel]
    dsimp only
    congr 1
    refine List.filter_congr fun field _ => ?_
    rw [Bool.eq_iff_iff, decide_eq_true_eq, ← leadsBack_eq_true_iff, Bool.not_eq_true', Bool.not_eq_true]
  · intro names guided
    obtain ⟨model, stack, leads, _, distinct⟩ := guided.leads named keyed identifiers current some'
    obtain ⟨token, context⟩ := leads.contextAt_length identifiers
    rw [pathContext, context]
    exact distinct

/-- A user is reached once, although users relate to each other; the relation back to the books is left
out. -/
theorem guided_path_never_returns_through_friends :
    let book := "core.book".toList
    let user := "auth.user".toList
    let relation (target : Text) : FieldDef := { type := .relation, relation := some target }
    let schema : Schema :=
      { currentModel := some book
        models := [(book, [("author".toList, relation user)]),
          (user, [("books".toList, relation book), ("friends".toList, relation user)])] }
    let context := schema.pathContext ["author".toList, "friends".toList]
    schema.Guided ["author".toList, "friends".toList] ∧ context.stack = [book, user, user] ∧
      (context.stack.destutter (· ≠ ·)).Nodup ∧
      (fieldCandidates schema context).suggestions = [(relation user).suggestion "friends".toList] := by
  intro book user relation schema context
  have author : schema.Guided ["author".toList] :=
    @Guided.step schema [] book "author".toList user (relation user) .start (by decide +kernel) (by decide +kernel)
      rfl rfl rfl (by decide +kernel)
  have friends : schema.Guided ["author".toList, "friends".toList] :=
    @Guided.step schema ["author".toList] user "friends".toList user (relation user) author (by decide +kernel)
      (by decide +kernel) rfl rfl rfl (by decide +kernel)
  obtain ⟨offers, distinct⟩ := @guided_path_never_returns schema book (by decide) (by decide) (by decide) rfl rfl
  have stack : context.stack = [book, user, user] := by decide +kernel
  obtain ⟨_, offered⟩ := offers _ _ user (show context.scope = some .field by decide +kernel)
    (show context.model = some user by decide +kernel)
  refine ⟨friends, stack, distinct _ friends, offered.trans ?_⟩
  decide +kernel

end Schema

end QueryCompletion
