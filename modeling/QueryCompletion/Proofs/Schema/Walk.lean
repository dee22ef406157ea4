import QueryCompletion.Context
import QueryCompletion.Proofs.Lexer.Boundary

/-!
The walk of a dotted name. One more segment takes one more step from where the name led before, and
a name that leads anywhere consists of names of fields.
-/

namespace QueryCompletion.Schema

open Lexer

/-- The names of all fields are identifiers. -/
def HasIdentifiers (schema : Schema) : Prop :=
  ∀ entry ∈ schema.models, ∀ field ∈ entry.2, IsIdentifier field.1

instance (schema : Schema) : Decidable schema.HasIdentifiers :=
  inferInstanceAs (Decidable (∀ entry ∈ schema.models, ∀ field ∈ entry.2, IsIdentifier field.1))

/-- Models have names, the fields of a model are keyed by theirs, and these are identifiers that are
not reserved. -/
structure Regular (schema : Schema) : Prop where
  named : ∀ entry ∈ schema.models, entry.1 ≠ []
  keyed : ∀ entry ∈ schema.models, (entry.2.map Prod.fst).Nodup
  identifiers : schema.HasIdentifiers
  free : ∀ entry ∈ schema.models, ∀ field ∈ entry.2, reservedWords.lookup field.1 = none

variable {schema : Schema} {model name : Text} {found : FieldDef}

/-- A model with a field is declared, and its fields are those of the declaration. -/
theorem exists_entry {field : Text × FieldDef} (inside : field ∈ schema.fieldsOf model) :
    (model, schema.fieldsOf model) ∈ schema.models := by
  unfold fieldsOf at *
  cases declared : schema.models.lookup model with
  | none => rw [declared] at inside; cases inside
  | some fields => exact mem_of_lookup declared

theorem ne_nil_of_hasModel (named : ∀ entry ∈ schema.models, entry.1 ≠ [])
    (declared : schema.hasModel model = true) : model ≠ [] := by
  obtain ⟨fields, same⟩ := Option.isSome_iff_exists.mp declared
  exact named _ (mem_of_lookup same)

theorem Regular.named_of_hasModel (regular : schema.Regular) (declared : schema.hasModel model = true) :
    model ≠ [] :=
  ne_nil_of_hasModel regular.named declared

theorem HasIdentifiers.of_lookup (identifiers : schema.HasIdentifiers)
    (same : (schema.fieldsOf model).lookup name = some found) : IsIdentifier name := by
  have inside := mem_of_lookup same
  exact identifiers _ (exists_entry inside) _ inside

theorem walk_field {field : Option Text} {stack rest : List Text}
    (same : (schema.fieldsOf model).lookup name = some found) (scalar : found.isRelation = false) :
    schema.walk model field stack (name :: rest) = schema.walk model (some name) stack rest := by
  rw [walk, same]
  simp [scalar]

theorem walk_relation {field : Option Text} {stack rest : List Text} {target : Text}
    (same : (schema.fieldsOf model).lookup name = some found) (relation : found.isRelation = true)
    (leads : found.relation = some target) (declared : schema.hasModel target = true) :
    schema.walk model field stack (name :: rest) =
      schema.walk target none (stack ++ [target]) rest := by
  rw [walk, same]
  simp [relation, leads, declared]

/-- What one segment does to a walk that goes on: a field stays with its model, and a relation moves on to
its target. -/
inductive Step (schema : Schema) (model : Text) (stack : List Text) (part : Text) :
    Text → Option Text → List Text → Prop
  | field {found : FieldDef} : (schema.fieldsOf model).lookup part = some found → found.isRelation = false →
      Step schema model stack part model (some part) stack
  | relation {found : FieldDef} {target : Text} : (schema.fieldsOf model).lookup part = some found →
      found.isRelation = true → found.relation = some target → schema.hasModel target = true →
      Step schema model stack part target none (stack ++ [target])

theorem Step.lookup {stack passed : List Text} {part next : Text} {reached : Option Text}
    (step : schema.Step model stack part next reached passed) :
    ∃ found, (schema.fieldsOf model).lookup part = some found := by
  cases step with
  | field same _ => exact ⟨_, same⟩
  | relation same _ _ _ => exact ⟨_, same⟩

/-- What one step of the walk can be: it ends nowhere, or it goes on behind a segment. -/
theorem walk_cases (schema : Schema) (model : Text) (field : Option Text) (stack : List Text)
    (part : Text) :
    (∀ rest, schema.walk model field stack (part :: rest) = ⟨none, none, stack⟩) ∨
      ∃ next reached passed, schema.Step model stack part next reached passed ∧
        ∀ rest, schema.walk model field stack (part :: rest) = schema.walk next reached passed rest := by
  simp only [walk]
  cases same : (schema.fieldsOf model).lookup part with
  | none => exact Or.inl fun _ => rfl
  | some found =>
    dsimp only
    split
    · rename_i relation
      split
      · rename_i target known
        split
        · rename_i declared
          exact Or.inr ⟨target, none, _, .relation same relation known declared, fun _ => rfl⟩
        · exact Or.inl fun _ => rfl
      · exact Or.inl fun _ => rfl
    · rename_i scalar
      exact Or.inr ⟨model, some part, stack, .field same (by simpa using scalar), fun _ => rfl⟩

/-- What every segment keeps holds where the walk arrives. -/
theorem walk_keeps {P : Text → Option Text → List Text → Prop}
    (keeps : ∀ {model field stack part next reached passed}, P model field stack →
      schema.Step model stack part next reached passed → P next reached passed)
    {field : Option Text} {stack parts : List Text} {arrived : Text} (start : P model field stack)
    (leads : (schema.walk model field stack parts).model = some arrived) :
    P arrived (schema.walk model field stack parts).field (schema.walk model field stack parts).stack := by
  induction parts generalizing model field stack with
  | nil =>
    cases leads
    exact start
  | cons part rest ih =>
    rcases schema.walk_cases model field stack part with nowhere | ⟨_, _, _, step, onward⟩
    · rw [nowhere] at leads; cases leads
    · rw [onward] at leads ⊢
      exact ih (keeps start step) leads

/-- The walk goes on from where its first segments lead. -/
theorem walk_append {field last : Option Text} {stack passed front : List Text} {reached : Text}
    (leads : schema.walk model field stack front = ⟨some reached, last, passed⟩) (back : List Text) :
    schema.walk model field stack (front ++ back) = schema.walk reached last passed back := by
  induction front generalizing model field stack with
  | nil => cases leads; rfl
  | cons part rest ih =>
    rcases schema.walk_cases model field stack part with nowhere | ⟨_, _, _, _, onward⟩
    · rw [nowhere] at leads; cases leads
    · rw [onward] at leads
      rw [List.cons_append, onward]
      exact ih leads

/-- A walk that leads anywhere passes names of fields only. -/
theorem HasIdentifiers.of_walk (identifiers : schema.HasIdentifiers) {field : Option Text}
    {stack parts : List Text} (leads : (schema.walk model field stack parts).model.isSome = true) :
    ∀ part ∈ parts, IsIdentifier part := by
  induction parts generalizing model field stack with
  | nil => intro part inside; cases inside
  | cons first rest ih =>
    rcases schema.walk_cases model field stack first with nowhere | ⟨_, _, _, step, onward⟩
    · rw [nowhere] at leads; cases leads
    · obtain ⟨_, same⟩ := step.lookup
      rw [onward] at leads
      intro part inside
      rcases List.mem_cons.mp inside with rfl | later
      · exact identifiers.of_lookup same
      · exact ih leads part later

/-- The field at which a walk ends has a name. -/
theorem HasIdentifiers.walk_field_ne (identifiers : schema.HasIdentifiers) {field : Option Text}
    {stack parts : List Text} (named : field ≠ some []) :
    (schema.walk model field stack parts).field ≠ some [] := by
  induction parts generalizing model field stack with
  | nil => exact named
  | cons first rest ih =>
    rcases schema.walk_cases model field stack first with nowhere | ⟨_, _, _, step, onward⟩
    · rw [nowhere]; nofun
    · rw [onward]
      refine ih ?_
      cases step with
      | relation _ _ _ _ => nofun
      | field same _ =>
        intro empty
        obtain ⟨c, others, shape, _⟩ := identifiers.of_lookup same
        rw [shape] at empty
        cases empty

theorem resolve_of_current {root : Text} (current : schema.currentModel = some root) (name : Text) :
    schema.resolve name = schema.walk root none [root] (Text.pieces '.' name) := by
  rw [resolve, current]

/-- One more segment behind a name takes one more step from where the name leads. -/
theorem resolve_append {field : Option Text} {stack : List Text} {front : Text}
    (leads : schema.resolve front = ⟨some model, field, stack⟩) (noDot : '.' ∉ name) :
    schema.resolve (front ++ '.' :: name) = schema.walk model field stack [name] := by
  cases current : schema.currentModel with
  | none => rw [resolve, current] at leads; cases leads
  | some root =>
    rw [resolve_of_current current] at leads ⊢
    rw [Text.pieces_append, Text.pieces_of_not_mem noDot]
    exact walk_append leads [name]

theorem HasIdentifiers.dotted (identifiers : schema.HasIdentifiers) {front : Text}
    (leads : (schema.resolve front).model.isSome = true) : Dotted front := by
  cases current : schema.currentModel with
  | none => rw [resolve, current] at leads; cases leads
  | some root =>
    rw [resolve_of_current current] at leads
    exact dotted_of_pieces (identifiers.of_walk leads)

theorem HasIdentifiers.resolve_field_ne (identifiers : schema.HasIdentifiers) (name : Text) :
    (schema.resolve name).field ≠ some [] := by
  cases current : schema.currentModel with
  | none => rw [resolve, current]; nofun
  | some root =>
    rw [resolve_of_current current]
    exact identifiers.walk_field_ne (by nofun)

theorem rootStack_of_current (some' : model ≠ []) (current : schema.currentModel = some model) :
    schema.rootStack = [model] := by
  cases model with
  | nil => exact absurd rfl some'
  | cons c rest => rw [rootStack, current]; rfl

/-- What stands before the last segment of a path, and the model and the models passed there. -/
inductive Leads (schema : Schema) : Text → Option Text → List Text → Prop
  | root : Leads schema [] schema.currentModel schema.rootStack
  | path {front model : Text} {stack : List Text} : model ≠ [] →
      schema.resolve front = ⟨some model, none, stack⟩ →
      Leads schema (front ++ ['.']) (some model) stack

namespace Leads

theorem dotted {base : Text} {reached : Option Text} {stack : List Text}
    (leads : schema.Leads base reached stack) (identifiers : schema.HasIdentifiers)
    (identifier : IsIdentifier name) : Dotted (base ++ name) := by
  cases leads with
  | root => exact .single identifier
  | @path front _ _ _ resolved =>
    rw [List.append_assoc, List.singleton_append]
    exact (identifiers.dotted (by rw [resolved]; rfl)).append (.single identifier)

/-- A field behind the path makes a name: alone it is not reserved, and with dots it cannot be. -/
theorem wordKind_eq {base : Text} {reached : Option Text} {stack : List Text}
    (leads : schema.Leads base reached stack) (free : reservedWords.lookup name = none) :
    wordKind (base ++ name) = .name := by
  have none' : reservedWords.lookup (base ++ name) = none := by
    cases leads with
    | root => exact free
    | path _ _ => exact lookup_of_dot (by simp)
  rw [wordKind, none']
  rfl

theorem exists_front {base : Text} {reached : Option Text} {stack : List Text}
    (leads : schema.Leads base reached stack) (identifiers : schema.HasIdentifiers) (some' : base ≠ []) :
    ∃ front, base = front ++ ['.'] ∧ Dotted front := by
  cases leads with
  | root => exact absurd rfl some'
  | @path front _ _ _ resolved =>
    exact ⟨front, rfl, identifiers.dotted (by rw [resolved]; rfl)⟩

theorem chars {base : Text} {reached : Option Text} {stack : List Text}
    (leads : schema.Leads base reached stack) (identifiers : schema.HasIdentifiers) :
    ∀ c ∈ base, isNamePart c = true ∨ c = '.' := by
  intro c inside
  by_cases empty : base = []
  · rw [empty] at inside; cases inside
  · obtain ⟨front, rfl, dotted⟩ := leads.exists_front identifiers empty
    rcases List.mem_append.mp inside with first | dot
    · exact dotted.chars c first
    · exact Or.inr (List.mem_singleton.mp dot)

theorem head_part {base : Text} {reached : Option Text} {stack : List Text}
    (leads : schema.Leads base reached stack) (identifiers : schema.HasIdentifiers) :
    ∀ c ∈ base.head?, isNamePart c = true := by
  intro c first
  by_cases empty : base = []
  · rw [empty] at first; cases first
  · obtain ⟨front, rfl, dotted⟩ := leads.exists_front identifiers empty
    obtain ⟨d, more, rfl, start⟩ := dotted.head
    cases first
    exact isNamePart_of_isNameStart start

/-- A field behind the path takes one step from the model that the path leads to. -/
theorem resolve {base : Text} {stack : List Text} (leads : schema.Leads base (some model) stack)
    (named : ∀ entry ∈ schema.models, entry.1 ≠ []) (identifiers : schema.HasIdentifiers)
    (same : (schema.fieldsOf model).lookup name = some found) :
    schema.resolve (base ++ name) = schema.walk model none stack [name] := by
  have noDot : '.' ∉ name := by
    intro inside
    have part := (identifiers.of_lookup same).parts '.' inside
    cases part
  generalize reached : some model = place at leads
  cases leads with
  | root =>
    have stack := rootStack_of_current (named _ (exists_entry (mem_of_lookup same))) reached.symm
    rw [List.nil_append, resolve_of_current reached.symm, Text.pieces_of_not_mem noDot, stack]
  | path _ resolved =>
    cases reached
    rw [List.append_assoc, List.singleton_append]
    exact resolve_append resolved noDot

end Leads

end QueryCompletion.Schema
