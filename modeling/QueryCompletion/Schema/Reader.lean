import QueryCompletion.Schema.Basic
import QueryCompletion.Json.Lenient

/-!
Reading a schema from introspection data. Members that are not known are passed over.
-/

namespace QueryCompletion

open Json (Checked PathStep)

/-- Anything may stand for a type; what is no known label is an unknown type. -/
def FieldType.ofJson : Json → FieldType
  | .str label => .ofLabel label
  | _ => .unknown

/-- A list of texts, else something that can be read as yes or no, else nothing; issues of both
readings are reported, those of the list first. -/
def Choices.ofJson : Json → Checked Choices
  | .null => .ok .unspecified
  | value =>
    match Json.checkTexts value, Json.checkBool value with
    | .ok values, _ => .ok (.listed values)
    | _, .ok remote => .ok (.served remote)
    | .error listIssues, .error boolIssues =>
      Checked.both
        (Checked.within (.name "list[str]") (.error listIssues : Checked Choices))
        (Checked.within (.name "bool") (.error boolIssues : Checked Choices))
        |>.map Prod.fst

def textOrNull (value : Json) : Checked (Option Text) :=
  (Json.checkTextOrNull value).map (·.map String.toList)

def FieldDef.ofJson : Json → Checked FieldDef
  | .obj members =>
    let type := Json.checkMember members "type" FieldType.unknown fun value => .ok (.ofJson value)
    let relation := Json.checkMember members "relation" none textOrNull
    let choices := Json.checkMember members "options" .unspecified Choices.ofJson
    let nullable := Json.checkMember members "nullable" false Json.checkBool
    (type.both (relation.both (choices.both nullable))).map fun (type, relation, choices, nullable) =>
      { type, relation, choices, nullable }
  | _ => .fail .notRecord

/-- A map from names to values of one kind, in the order of its members. -/
def checkMap (check : Json → Checked α) : Json → Checked (List (Text × α))
  | .obj members =>
    .all (members.map fun (name, value) =>
      Checked.within (.name name) ((check value).map fun checked => (name.toList, checked)))
  | _ => .fail .notMap

def Schema.ofJson : Json → Checked Schema
  | .obj members =>
    let current := Json.checkMember members "current_model" none textOrNull
    let models := Json.checkMember members "models" [] (checkMap (checkMap FieldDef.ofJson))
    let url := Json.checkMember members "suggestions_api_url" none Json.checkTextOrNull
    (current.both (models.both url)).map fun (currentModel, models, suggestionsUrl) =>
      { currentModel, models, suggestionsUrl }
  | _ => .fail .notRecord

end QueryCompletion
