import QueryCompletion.Suggestion.Basic
import QueryCompletion.Text.Lowercase
import QueryCompletion.Text.Space

/-!
Which candidates survive the typed text. An unanchored suggestion needs the typed text anywhere
inside it; an anchored one needs it at its start or at the start of one of its words.
-/

namespace QueryCompletion

/-- Whether a suggestion with the given text survives. -/
def matchesTyped (anchored caseSensitive : Bool) (text typed : Text) : Bool :=
  let fold := if caseSensitive then id else Text.lower
  let text := fold text
  let typed := fold typed
  if anchored then typed.isPrefixOf text || (Text.words text).any (typed.isPrefixOf ·)
  else Text.hasInside typed text

namespace Candidates

/-- The candidates that survive, in their order. -/
def surviving (candidates : Candidates) : List Suggestion :=
  candidates.suggestions.filter fun suggestion =>
    matchesTyped candidates.anchored candidates.caseSensitive suggestion.text candidates.typed

/-- The list that is offered; a suggestion that is left alone is selected. -/
def complete (candidates : Candidates) : Completion :=
  { typed := candidates.typed
    suggestions := candidates.surviving
    selected := if candidates.surviving.length = 1 then some 0 else none
    loading := candidates.loading
    caseSensitive := candidates.caseSensitive }

end Candidates

end QueryCompletion
