import QueryCompletion.Session.Turn
import QueryCompletion.Suggestion.Acceptance
import QueryCompletion.Suggestion.Choice
import QueryCompletion.Suggestion.Sources

/-!
Completion in a session: the list for a text and cursor, moving the selection, accepting a
suggestion. Problems are logged and leave an empty list.
-/

namespace QueryCompletion.Session

/-- Values for the field on the left of a comparison. -/
def valueCandidates (session : Session) (context : Context) (loadMore : Bool) : Candidates × Session :=
  let caseSensitive := session.settings.valuesCaseSensitive
  match context.fieldDef? session.schema with
  | none => (literalCandidates context none, session)
  | some field =>
    if field.hasChoices then
      match field.listed? with
      | some values => (choiceCandidates context caseSensitive false values, session)
      | none =>
        match context.model, context.field, session.service.hasApi with
        | some model, some name, true =>
          let (options, after) := session.valueOptions ⟨model, name, context.typed⟩ loadMore
          (choiceCandidates context caseSensitive options.loading options.items, after)
        | _, _, _ => (choiceCandidates context caseSensitive false [], session)
    else (literalCandidates context (some field), session)

def offersFields (context : Context) : Bool := context.scope == some .field && context.model.isSome

def fieldSource (context : Context) : Source Session where
  accepts _ := .ok (offersFields context)
  candidates session := .ok (fieldCandidates session.schema context, session)

def operatorSource (context : Context) : Source Session where
  accepts _ := .ok (context.scope == some .comparison)
  candidates session := .ok (operatorCandidates session.schema context, session)

def valueSource (context : Context) (loadMore : Bool) : Source Session where
  accepts _ := .ok (context.scope == some .value)
  candidates session := .ok (session.valueCandidates context loadMore)

def connectorSource (context : Context) : Source Session where
  accepts _ := .ok (context.scope == some .logical)
  candidates session := .ok (connectorCandidates context, session)

/-- The sources in the order in which they are asked. -/
def sources (context : Context) (loadMore : Bool) : List (Source Session) :=
  [fieldSource context, operatorSource context, valueSource context loadMore, connectorSource context]

/-- Offers the list of the first source that accepts. -/
def offer (session : Session) (sources : List (Source Session)) : Session :=
  let chosen := choose sources session
  let served := { chosen.state with completion := chosen.completion }
  match chosen.failure with
  | some message => served.logError message
  | none => served

/-- A cursor in messages. -/
def cursorText (cursor : Option Int) : String := (cursor.map toString).getD "None"

/-- Makes the list for a cursor in a text. There is none while completion is off or a range is
selected. -/
def generate (session : Session) (text : Text) (cursor selectionEnd : Option Int) (loadMore : Bool) :
    Session :=
  if !session.enabled then { session with completion := .empty false }
  else if session.schema.currentModel.isNone then { session with completion := .empty session.loading }
  else if selectionEnd.isSome && selectionEnd ≠ cursor then { session with completion := .empty false }
  else
    match session.resolver.contextAt? text cursor with
    | some context => session.offer (sources context loadMore)
    | none =>
      { session with completion := .empty false }.logError
        ("Failed to generate suggestions for " ++ String.ofList (Text.quoted text) ++ " at " ++ cursorText cursor)

def enable (session : Session) : Session := { session with enabled := true }

def disable (session : Session) : Session := { session with enabled := false, completion := .empty false }

def select (session : Session) (selected : Option Nat) : Session :=
  { session with completion := { session.completion with selected } }

/-- The selection below a selection: behind the last suggestion nothing is selected. -/
def selectionBelow (count : Nat) : Option Nat → Option Nat
  | none => some 0
  | some index => if index + 1 < count then some (index + 1) else none

/-- The selection above a selection: before the first suggestion nothing is selected. -/
def selectionAbove (count : Nat) : Option Nat → Option Nat
  | none => some (count - 1)
  | some 0 => none
  | some (index + 1) => some index

def selectNext (session : Session) : Session :=
  let count := session.completion.suggestions.length
  if count = 0 then session else session.select (selectionBelow count session.completion.selected)

def selectPrevious (session : Session) : Session :=
  let count := session.completion.suggestions.length
  if count = 0 then session else session.select (selectionAbove count session.completion.selected)

/-- The suggestion at an index of the list last offered. -/
def suggestionAt? (session : Session) (index : Int) : Option Suggestion :=
  if index < 0 then none else session.completion.suggestions[index.toNat]?

/-- Accepts the suggestion at an index and makes the list for the text that results. -/
def accept (session : Session) (index : Int) (text : Text) (cursor : Option Int) : Option Edited × Session :=
  match session.suggestionAt? index, cursor with
  | none, _ => (none, session)
  | some suggestion, none =>
    (none, session.logError ("Failed to apply suggestion " ++ String.ofList (Text.quoted suggestion.text)))
  | some suggestion, some cursor =>
    let edited := suggestion.accept session.resolver text cursor
    (some edited, session.generate edited.text (some edited.cursor) none false)

end QueryCompletion.Session
