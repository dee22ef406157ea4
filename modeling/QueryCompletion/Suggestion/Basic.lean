import QueryCompletion.Text.Basic

/-!
Suggestions, the unfiltered candidates of one source, and the list that is finally offered.
-/

namespace QueryCompletion

/-- One suggestion. The text is shown and pasted, the snippets are pasted around it; a bar in the
snippet after it marks where the cursor lands. -/
structure Suggestion where
  text : Text
  snippetBefore : Text := []
  snippetAfter : Text := []
  explanation : Option Text := none
deriving DecidableEq, Repr

namespace Suggestion

/-- The text with its explanation in parentheses. -/
def displayText (suggestion : Suggestion) : Text :=
  match suggestion.explanation with
  | some (c :: rest) => suggestion.text ++ [' ', '('] ++ c :: rest ++ [')']
  | _ => suggestion.text

end Suggestion

/-- Suggestions of one source and how they are matched against the typed text. -/
structure Candidates where
  typed : Text
  suggestions : List Suggestion := []
  anchored : Bool := false
  caseSensitive : Bool := true
  loading : Bool := false
deriving DecidableEq, Repr

/-- The filtered list with its selection. -/
structure Completion where
  typed : Text := []
  suggestions : List Suggestion := []
  selected : Option Nat := none
  loading : Bool := false
  caseSensitive : Bool := true
deriving DecidableEq, Repr

def Completion.empty (loading : Bool) : Completion := { loading }

end QueryCompletion
