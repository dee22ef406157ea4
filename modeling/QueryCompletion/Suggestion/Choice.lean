import QueryCompletion.Suggestion.Filter

/-!
Choosing among sources of candidates. The first source that accepts the request serves it; a source
that fails ends the search with an empty list.
-/

namespace QueryCompletion

/-- A source of candidates over a state of type `σ`. Both questions may fail. -/
structure Source (σ : Type) where
  accepts : σ → Except String Bool
  candidates : σ → Except String (Candidates × σ)

/-- A question put to the source at an index. -/
inductive Question where
  | accepts (index : Nat)
  | candidates (index : Nat)
deriving DecidableEq, Repr

/-- What came of asking the sources. -/
structure Chosen (σ : Type) where
  completion : Completion
  state : σ
  asked : List Question
  failure : Option String

/-- Asks the sources from the given index on. -/
def chooseFrom (state : σ) (index : Nat) : List (Source σ) → Chosen σ
  | [] => ⟨.empty false, state, [], none⟩
  | source :: rest =>
    match source.accepts state with
    | .error message => ⟨.empty false, state, [.accepts index], some message⟩
    | .ok false =>
      let chosen := chooseFrom state (index + 1) rest
      { chosen with asked := .accepts index :: chosen.asked }
    | .ok true =>
      match source.candidates state with
      | .error message => ⟨.empty false, state, [.accepts index, .candidates index], some message⟩
      | .ok (candidates, after) => ⟨candidates.complete, after, [.accepts index, .candidates index], none⟩

/-- Asks the sources in order. -/
def choose (sources : List (Source σ)) (state : σ) : Chosen σ := chooseFrom state 0 sources

end QueryCompletion
