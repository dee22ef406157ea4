import QueryCompletion.Token.Lexer
import QueryCompletion.Schema.Basic

/-!
What the user is typing at the cursor: a field path, a comparison operator, a value or a connector.
The token that touches the cursor may be unfinished, so it is set aside and the raw text behind the
token before it counts as typed.
-/

namespace QueryCompletion

/-- Grammatical position of the cursor. -/
inductive Scope where
  | field | comparison | value | logical
deriving DecidableEq, Repr

def Scope.label : Scope → String
  | .field => "field"
  | .comparison => "comparison"
  | .value => "value"
  | .logical => "logical"

/-- What is typed at the cursor. -/
structure Context where
  /-- Text already typed in the current scope. -/
  typed : Text
  /-- Nothing can be suggested without a scope. -/
  scope : Option Scope
  model : Option Text
  field : Option Text
  /-- The token under the cursor at its full length. -/
  token : Option Token
  /-- Models passed on the way to the model, the current model first. -/
  stack : List Text
deriving DecidableEq, Repr

/-- The tokens before the cursor and what was typed behind them. -/
structure Window where
  last : Option Token
  beforeLast : Option Token
  typed : Text
  /-- Whether blanks stand between the last token and the typed text. -/
  spaced : Bool
  token : Option Token
deriving DecidableEq, Repr

namespace Window

/-- Whether the last of the tokens reaches the cursor. -/
def touches (tokens : List Token) (cursor : Int) : Bool :=
  match tokens.getLast? with
  | some token => cursor ≤ token.stop
  | none => false

/-- The tokens without the one that reaches the cursor. -/
def settled (tokens : List Token) (cursor : Int) : List Token :=
  if touches tokens cursor then tokens.dropLast else tokens

/-- The text between the last of the tokens and the cursor. -/
def behind (text : Text) (tokens : List Token) (cursor : Int) : Text :=
  text.slice ((tokens.getLast?.map Token.stop).getD 0) cursor

/-- What is typed in the text behind the tokens: blanks and a lone parenthesis do not count. -/
def typedIn (raw : Text) : Text :=
  let typed := raw.drop (Lexer.runLength Lexer.isBlank raw)
  if typed = ['('] then [] else typed

/-- The window at a cursor. -/
def atCursor (text : Text) (cursor : Int) : Window :=
  let tokens := Lexer.tokenize (text.before cursor)
  let kept := settled tokens cursor
  let raw := behind text kept cursor
  { last := kept.getLast?
    beforeLast := kept.dropLast.getLast?
    typed := typedIn raw
    spaced := 0 < Lexer.runLength Lexer.isBlank raw
    token := if touches tokens cursor then (Lexer.tokenize text)[tokens.length - 1]? else none }

/-- Whether a field path starts here: at the beginning, behind a connector, behind a dot, or behind
a parenthesis that opens at one of these places. -/
def startsField (window : Window) : Bool :=
  match window.last with
  | none => true
  | some last =>
    (last.kind.isLogical && window.spaced) ||
      (window.typed = ['.'] && !window.spaced) ||
      (last.kind == .parenL &&
        match window.beforeLast with
        | none => true
        | some before => before.kind.isLogical)

/-- The field path at the cursor: behind a lone dot, it starts with the token before the dot. -/
def path (window : Window) (text : Text) (cursor : Int) : Text :=
  match window.last with
  | some last => if window.typed = ['.'] then text.slice last.start cursor else window.typed
  | none => window.typed

/-- The name on the left of an operator that stands before the typed text. -/
def comparedName? (window : Window) : Option Text :=
  match window.beforeLast, window.last with
  | some before, some last =>
    if before.kind == .name && last.kind.isComparison then some before.value else none
  | _, _ => none

end Window

/-- A name that is there and not empty. -/
def named? : Option Text → Option Text
  | some [] => none
  | name => name

namespace Schema

/-- Whether values of a field are written in quotes. -/
def quotesValues (schema : Schema) (model field : Option Text) : Bool :=
  match schema.field? model field with
  | some found => found.type == .str || found.hasChoices
  | none => false

/-- The current model alone. -/
def rootStack (schema : Schema) : List Text := (named? schema.currentModel).toList

/-- The context of a field path. A path with dots starts from the model that its part up to the last
dot leads to. -/
def fieldContext (schema : Schema) (path : Text) (token : Option Token) : Context :=
  let parts := Text.pieces '.' path
  let context : Context :=
    { typed := path, scope := some .field, model := schema.currentModel, field := none, token,
      stack := schema.rootStack }
  if parts.length ≤ 1 then context
  else
    let typed := parts.getLast?.getD []
    let resolved := schema.resolve (Text.joinWith ['.'] parts.dropLast)
    if (named? resolved.model).isSome && (named? resolved.field).isNone then
      { context with typed, model := resolved.model, stack := resolved.stack }
    else { context with typed, scope := none, model := none }

/-- The context of a value compared with the named field. -/
def valueContext (schema : Schema) (name : Text) (context : Context) : Context :=
  let resolved := schema.resolve name
  if (named? resolved.model).isSome then
    let unquoted :=
      if context.typed.head? == some '"' && schema.quotesValues resolved.model resolved.field then
        context.typed.drop 1
      else context.typed
    { context with
      typed := unquoted, scope := some .value, model := resolved.model, field := resolved.field,
      stack := resolved.stack }
  else context

/-- The context of an operator behind the named field. -/
def comparisonContext (schema : Schema) (name : Text) (context : Context) : Context :=
  let resolved := schema.resolve name
  if (named? resolved.model).isSome then
    { context with
      scope := some .comparison, model := resolved.model, field := resolved.field,
      stack := resolved.stack }
  else context

/-- The context at a cursor. -/
def contextAt (schema : Schema) (text : Text) (cursor : Int) : Context :=
  let window := Window.atCursor text cursor
  let nothing : Context :=
    { typed := window.typed, scope := none, model := none, field := none, token := window.token,
      stack := schema.rootStack }
  if window.typed = [')'] && !window.spaced then nothing
  else if window.startsField then schema.fieldContext (window.path text cursor) window.token
  else if !window.spaced then nothing
  else
    match window.comparedName?, window.last with
    | some name, _ => schema.valueContext name nothing
    | none, some last =>
      if last.kind == .name then schema.comparisonContext last.value nothing
      else if last.kind.endsValue then { nothing with scope := some .logical }
      else nothing
    | none, none => nothing

/-- The context at a cursor that may be missing. A missing cursor stands at the end of a text
without tokens and makes no sense in any other. -/
def contextAt? (schema : Schema) (text : Text) : Option Int → Option Context
  | some cursor => some (schema.contextAt text cursor)
  | none =>
    if (Lexer.tokenize text).isEmpty then some (schema.contextAt text text.length) else none

end Schema

end QueryCompletion
