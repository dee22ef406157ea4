import QueryCompletion.Context
import QueryCompletion.Suggestion.Basic

/-!
Candidates that depend on the context and the schema alone: fields, operators, literals and
connectors.
-/

namespace QueryCompletion

namespace Context

/-- The definition of the field that is compared, none for a relation compared as a whole. -/
def fieldDef? (context : Context) (schema : Schema) : Option FieldDef :=
  schema.field? context.model context.field

/-- The fields of the model of the context. -/
def fields (context : Context) (schema : Schema) : Fields :=
  match context.model with
  | some model => schema.fieldsOf model
  | none => []

end Context

/-- Whether a relation leads back to a model passed before. A model may relate to itself. -/
def leadsBack (stack : List Text) (field : FieldDef) : Bool :=
  match field.relation with
  | some target => field.isRelation && stack.contains target && stack.getLast? != some target
  | none => false

/-- The suggestion for a field: a dot follows a relation, a blank any other field. -/
def FieldDef.suggestion (field : FieldDef) (name : Text) : Suggestion :=
  { text := name, snippetAfter := if field.isRelation then ['.'] else [' '] }

/-- The fields of the model. -/
def fieldCandidates (schema : Schema) (context : Context) : Candidates :=
  let offered := (context.fields schema).filter fun field => !leadsBack context.stack field.2
  { typed := context.typed
    suggestions := offered.map fun field => field.2.suggestion field.1 }

/-- An operator and what it means where that is not plain. -/
structure Operator where
  symbol : Text
  meaning : Option Text := none

namespace Operator

def equality : List Operator :=
  [⟨['='], none⟩, ⟨['!', '='], some "is not equal to".toList⟩]

def containment : List Operator :=
  [⟨['~'], some "contains".toList⟩, ⟨['!', '~'], some "does not contain".toList⟩]

def affixes : List Operator :=
  [⟨"startswith".toList, none⟩, ⟨"not startswith".toList, none⟩, ⟨"endswith".toList, none⟩,
    ⟨"not endswith".toList, none⟩]

def ordering : List Operator :=
  [⟨['>'], none⟩, ⟨['>', '='], none⟩, ⟨['<'], none⟩, ⟨['<', '='], none⟩]

end Operator

namespace FieldDef

def isDate (field : FieldDef) : Bool := field.type == .date || field.type == .datetime

/-- Operators for a field, those for membership in a list apart. -/
def operators (field : FieldDef) : List Operator :=
  if field.type == .bool then Operator.equality
  else if field.type == .str then
    Operator.equality ++ Operator.containment ++ Operator.affixes
  else if field.isDate then
    Operator.equality ++ Operator.containment ++ Operator.ordering
  else Operator.equality ++ Operator.ordering

/-- Whether operands are pasted in quotes. -/
def quotesOperand (field : FieldDef) : Bool :=
  field.type != .bool && (field.type == .str || field.isDate || field.hasChoices)

end FieldDef

/-- What is pasted behind an operator. -/
def operandSnippet (quoted : Bool) : Text :=
  if quoted then [' ', '"', '|', '"'] else [' ']

/-- What is pasted behind `in` and `not in`. -/
def listSnippet (quoted : Bool) : Text :=
  if quoted then [' ', '(', '"', '|', '"', ')'] else [' ', '(', '|', ')']

/-- The operators that the field on the left admits; a name without a field admits equality only. -/
def operatorSuggestions : Option FieldDef → List Suggestion
  | none => Operator.equality.map (suggest (operandSnippet false))
  | some field =>
    let plain := field.operators.map (suggest (operandSnippet field.quotesOperand))
    if field.type == .bool then plain
    else
      plain ++
        [{ text := ['i', 'n'], snippetAfter := listSnippet field.quotesOperand },
          { text := "not in".toList, snippetAfter := listSnippet field.quotesOperand }]
where
  suggest (snippet : Text) (operator : Operator) : Suggestion :=
    { text := operator.symbol, snippetAfter := snippet, explanation := operator.meaning }

def operatorCandidates (schema : Schema) (context : Context) : Candidates :=
  { typed := context.typed
    suggestions := operatorSuggestions (context.fieldDef? schema)
    anchored := true }

/-- A literal with a blank behind it. -/
def literalSuggestion (text : Text) : Suggestion := { text, snippetAfter := [' '] }

/-- Literals for a field without choices: truth values for a truth value, and nothing in the place
of a relation compared as a whole. For a field of unknown type nothing typed counts. -/
def literalCandidates (context : Context) : Option FieldDef → Candidates
  | none => { typed := context.typed, suggestions := [literalSuggestion "None".toList] }
  | some field =>
    match field.type with
    | .bool =>
      { typed := context.typed
        suggestions := [literalSuggestion "True".toList, literalSuggestion "False".toList] ++
          (if field.nullable then [literalSuggestion "None".toList] else []) }
    | .unknown => { typed := [] }
    | _ => { typed := context.typed }

/-- Values to choose from, pasted in quotes. -/
def choiceCandidates (context : Context) (caseSensitive loading : Bool) (values : List Text) :
    Candidates :=
  { typed := context.typed
    suggestions := values.map fun value =>
      { text := value, snippetBefore := ['"'], snippetAfter := ['"'] }
    caseSensitive
    loading }

/-- The two connectors. -/
def connectorCandidates (context : Context) : Candidates :=
  { typed := context.typed
    suggestions := [literalSuggestion ['a', 'n', 'd'], literalSuggestion ['o', 'r']] }

end QueryCompletion
