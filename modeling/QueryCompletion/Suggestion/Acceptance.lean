import QueryCompletion.Context
import QueryCompletion.Suggestion.Basic
import QueryCompletion.Text.Space

/-!
Accepting a suggestion: the typed text and the token under the cursor make room for it, snippets
that the text already has around it are left out, and the cursor lands on the mark.
-/

namespace QueryCompletion

/-- A text with a cursor in it. -/
structure Edited where
  text : Text
  cursor : Int
deriving DecidableEq, Repr

namespace Context

/-- The text without the token under the cursor and the text typed of it. -/
def withoutToken (context : Context) (text : Text) (cursor : Int) : Text :=
  match context.token with
  | some token => text.before (cursor - context.typed.length) ++ text.after token.stop
  | none => text

/-- What stands before a suggestion that is accepted. -/
def textBefore (context : Context) (text : Text) (cursor : Int) : Text :=
  (context.withoutToken text cursor).before (cursor - context.typed.length)

/-- What stands behind a suggestion that is accepted, without white space at both ends. -/
def textAfter (context : Context) (text : Text) (cursor : Int) : Text :=
  Text.trim ((context.withoutToken text cursor).after (cursor - context.typed.length))

end Context

namespace Suggestion

/-- The snippets around the text, marks removed. Without text to paste and without a snippet before
it, the two sides of the mark stand around the cursor. -/
def snippets (suggestion : Suggestion) : Text × Text :=
  match Text.pieces '|' suggestion.snippetAfter with
  | first :: second :: rest =>
    if suggestion.snippetBefore.isEmpty && suggestion.text.isEmpty then (first, second)
    else (suggestion.snippetBefore, (first :: second :: rest).flatten)
  | _ => (suggestion.snippetBefore, suggestion.snippetAfter)

/-- How far before the end of what is pasted the cursor lands. -/
def markDistance (suggestion : Suggestion) : Nat :=
  match Text.pieces '|' suggestion.snippetAfter with
  | _ :: second :: _ => second.length
  | _ => 0

/-- What is pasted between two texts: a snippet that the text already has on its side is left out. -/
def pasted (suggestion : Suggestion) (before after : Text) : Text :=
  let snippets := suggestion.snippets
  let snippetBefore := if snippets.1.isSuffixOf before then [] else snippets.1
  let snippetAfter := if snippets.2.isPrefixOf after then [] else snippets.2
  snippetBefore ++ suggestion.text ++ snippetAfter

/-- The text and cursor after the suggestion is accepted in a context at a cursor. -/
def acceptIn (suggestion : Suggestion) (context : Context) (text : Text) (cursor : Int) : Edited :=
  let before := context.textBefore text cursor
  let after := context.textAfter text cursor
  let pasted := suggestion.pasted before after
  ⟨before ++ pasted ++ after, (before.length + pasted.length : Int) - suggestion.markDistance⟩

/-- The text and cursor after the suggestion is accepted at a cursor. -/
def accept (suggestion : Suggestion) (schema : Schema) (text : Text) (cursor : Int) : Edited :=
  suggestion.acceptIn (schema.contextAt text cursor) text cursor

end Suggestion

end QueryCompletion
