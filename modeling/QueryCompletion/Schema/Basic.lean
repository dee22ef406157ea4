import QueryCompletion.Text.Basic

/-!
Introspected schemas: models, their fields, and the walk of a dotted name from model to model.
-/

namespace QueryCompletion

inductive FieldType where
  | int | float | str | bool | date | datetime | relation | unknown
deriving DecidableEq, Repr

namespace FieldType

def label : FieldType → String
  | .int => "int"
  | .float => "float"
  | .str => "str"
  | .bool => "bool"
  | .date => "date"
  | .datetime => "datetime"
  | .relation => "relation"
  | .unknown => "unknown"

def all : List FieldType :=
  [.int, .float, .str, .bool, .date, .datetime, .relation, .unknown]

/-- The type with a given label; every other label is an unknown type. -/
def ofLabel (label : String) : FieldType :=
  (all.find? (·.label = label)).getD .unknown

end FieldType

/-- The values a field may take, as far as the schema says. -/
inductive Choices where
  | unspecified
  /-- Whether values are served page by page. -/
  | served (remote : Bool)
  | listed (values : List Text)
deriving DecidableEq, Repr

structure FieldDef where
  type : FieldType := .unknown
  relation : Option Text := none
  choices : Choices := .unspecified
  nullable : Bool := false
deriving DecidableEq, Repr

namespace FieldDef

def isRelation (field : FieldDef) : Bool := field.type == .relation

/-- Whether the values are served page by page. -/
def hasRemoteChoices (field : FieldDef) : Bool := field.choices == .served true

/-- The values listed in the schema, if they are. -/
def listed? (field : FieldDef) : Option (List Text) :=
  match field.choices with
  | .listed values => some values
  | _ => none

/-- Whether values are listed, were it none at all, or served. -/
def hasChoices (field : FieldDef) : Bool := field.listed?.isSome || field.hasRemoteChoices

end FieldDef

/-- Fields of a model in the order of declaration. -/
abbrev Fields := List (Text × FieldDef)

structure Schema where
  currentModel : Option Text := none
  models : List (Text × Fields) := []
  suggestionsUrl : Option String := none
deriving DecidableEq, Repr

namespace Schema

def hasModel (schema : Schema) (model : Text) : Bool := (schema.models.lookup model).isSome

/-- The fields of a model, none for a model that is not declared. -/
def fieldsOf (schema : Schema) (model : Text) : Fields := (schema.models.lookup model).getD []

/-- The definition of a field of a model, if both are known. -/
def field? (schema : Schema) (model name : Option Text) : Option FieldDef :=
  match model, name with
  | some model, some name => (schema.fieldsOf model).lookup name
  | _, _ => none

def withCurrentModel (schema : Schema) (model : Text) : Schema :=
  { schema with currentModel := some model }

end Schema

/-- Where a dotted name leads: the model reached, the field if the name ends in one, and the models
passed. -/
structure Resolved where
  model : Option Text
  field : Option Text
  stack : List Text
deriving DecidableEq, Repr

namespace Schema

/-- The walk of the remaining segments from a model with the models passed so far. A relation moves
on to its target, a field stays with its model; the walk ends nowhere at an unknown segment or an
undeclared target. -/
def walk (schema : Schema) (model : Text) (field : Option Text) (stack : List Text) :
    List Text → Resolved
  | [] => ⟨some model, field, stack⟩
  | part :: rest =>
    match (schema.fieldsOf model).lookup part with
    | none => ⟨none, none, stack⟩
    | some found =>
      if found.isRelation then
        match found.relation with
        | some target =>
          if schema.hasModel target then schema.walk target none (stack ++ [target]) rest
          else ⟨none, none, stack⟩
        | none => ⟨none, none, stack⟩
      else schema.walk model (some part) stack rest

/-- Where a dotted name leads from the current model. -/
def resolve (schema : Schema) (name : Text) : Resolved :=
  match schema.currentModel with
  | none => ⟨none, none, []⟩
  | some model => schema.walk model none [model] (Text.pieces '.' name)

end Schema

end QueryCompletion
