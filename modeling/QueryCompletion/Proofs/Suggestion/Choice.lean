import QueryCompletion.Proofs.Suggestion.Narrowing
import QueryCompletion.Suggestion.Choice

/-!
Asking sources one after another. Sources that decline leave nothing behind but the question put to them, and the
first one that accepts or fails ends the search: the sources behind it are not asked and may be any others.
-/

namespace QueryCompletion

/-- What is typed occurs in the suggestion, in the way in which the candidates are matched. -/
abbrev Candidates.Keeps (candidates : Candidates) (suggestion : Suggestion) : Prop :=
  Occurs candidates.anchored (folded candidates.caseSensitive candidates.typed)
    (folded candidates.caseSensitive suggestion.text)

theorem Candidates.surviving_eq (candidates : Candidates) :
    candidates.surviving = candidates.suggestions.filter fun suggestion => candidates.Keeps suggestion := by
  unfold surviving
  refine List.filter_congr fun suggestion _ => ?_
  rw [Bool.eq_iff_iff, matchesTyped_iff, decide_eq_true_iff]

variable {σ : Type} {state : σ}

/-- Sources that decline are passed over. -/
theorem chooseFrom_of_declined {front : List (Source σ)}
    (declined : ∀ source ∈ front, source.accepts state = .ok false) (rest : List (Source σ)) (index : Nat) :
    chooseFrom state index (front ++ rest) =
      { chooseFrom state (index + front.length) rest with
        asked := (List.range' index front.length).map .accepts ++
          (chooseFrom state (index + front.length) rest).asked } := by
  induction front generalizing index with
  | nil => rfl
  | cons source front ih =>
    obtain ⟨here, later⟩ := List.forall_mem_cons.mp declined
    have shift : index + 1 + front.length = index + (source :: front).length := by
      rw [List.length_cons]
      omega
    rw [List.cons_append, chooseFrom, here]
    dsimp only
    rw [ih later, shift, List.length_cons, List.range'_succ]
    rfl

theorem choose_of_declined {front : List (Source σ)}
    (declined : ∀ source ∈ front, source.accepts state = .ok false) (rest : List (Source σ)) :
    choose (front ++ rest) state =
      { chooseFrom state front.length rest with
        asked := (List.range front.length).map .accepts ++ (chooseFrom state front.length rest).asked } := by
  rw [choose, chooseFrom_of_declined declined, Nat.zero_add, List.range_eq_range']

/-- Behind a source that does not decline no other is asked. -/
theorem choose_of_not_declined {front : List (Source σ)} {source : Source σ}
    (declined : ∀ earlier ∈ front, earlier.accepts state = .ok false) (decides : source.accepts state ≠ .ok false)
    (behind others : List (Source σ)) :
    choose (front ++ source :: others) state = choose (front ++ source :: behind) state := by
  rw [choose_of_declined declined, choose_of_declined declined, chooseFrom, chooseFrom]
  split
  · rfl
  · contradiction
  · rfl

theorem asked_through (count : Nat) : (List.range (count + 1)).map Question.accepts =
    (List.range count).map Question.accepts ++ [.accepts count] := by
  rw [List.range_succ, List.map_append, List.map_singleton]

section

variable {front : List (Source σ)} {source : Source σ}
  (declined : ∀ earlier ∈ front, earlier.accepts state = .ok false) (behind : List (Source σ))

include declined

theorem choose_of_failed {message : String} (failed : source.accepts state = .error message) :
    choose (front ++ source :: behind) state =
      ⟨.empty false, state, (List.range (front.length + 1)).map .accepts, some message⟩ := by
  rw [choose_of_declined declined, chooseFrom, failed, asked_through]

theorem choose_of_failed_candidates {message : String} (accepted : source.accepts state = .ok true)
    (failed : source.candidates state = .error message) :
    choose (front ++ source :: behind) state =
      ⟨.empty false, state, (List.range (front.length + 1)).map .accepts ++ [.candidates front.length],
        some message⟩ := by
  rw [choose_of_declined declined, chooseFrom, accepted, asked_through, List.append_assoc]
  dsimp only
  rw [failed]
  rfl

theorem choose_of_candidates {candidates : Candidates} {after : σ} (accepted : source.accepts state = .ok true)
    (given : source.candidates state = .ok (candidates, after)) :
    choose (front ++ source :: behind) state =
      ⟨candidates.complete, after, (List.range (front.length + 1)).map .accepts ++ [.candidates front.length],
        none⟩ := by
  rw [choose_of_declined declined, chooseFrom, accepted, asked_through, List.append_assoc]
  dsimp only
  rw [given]
  rfl

end

/-- Sources all decline, or one of them is the first that does not. -/
theorem all_declined_or_first (sources : List (Source σ)) (state : σ) :
    (∀ source ∈ sources, source.accepts state = .ok false) ∨
      ∃ front source behind, sources = front ++ source :: behind ∧
        (∀ earlier ∈ front, earlier.accepts state = .ok false) ∧ source.accepts state ≠ .ok false := by
  induction sources with
  | nil => exact Or.inl (List.forall_mem_nil _)
  | cons source rest ih =>
    by_cases here : source.accepts state = .ok false
    · rcases ih with all | ⟨front, first, behind, rfl, earlier, decides⟩
      · exact Or.inl (List.forall_mem_cons.mpr ⟨here, all⟩)
      · exact Or.inr ⟨source :: front, first, behind, rfl, List.forall_mem_cons.mpr ⟨here, earlier⟩, decides⟩
    · exact Or.inr ⟨[], source, rest, rfl, List.forall_mem_nil _, here⟩

/-- When all sources decline, each was asked once, and nothing is offered. Otherwise the first one that does not
ends the search, whatever sources stand behind it: it is asked last, for its candidates only if it accepts. If it
fails at either question, nothing is offered; if it does not, its candidates in which what is typed occurs are
offered, in their order, and one that is left alone is selected. -/
theorem first_source_decides (sources : List (Source σ)) (state : σ) :
    ((∀ source ∈ sources, source.accepts state = .ok false) ∧
        choose sources state = ⟨.empty false, state, (List.range sources.length).map .accepts, none⟩) ∨
      ∃ front source behind, sources = front ++ source :: behind ∧
        (∀ earlier ∈ front, earlier.accepts state = .ok false) ∧
        (∀ others, choose (front ++ source :: others) state = choose sources state) ∧
        let asked := (List.range (front.length + 1)).map Question.accepts
        let opened := asked ++ [.candidates front.length]
        (∃ message, source.accepts state = .error message ∧
            choose sources state = ⟨.empty false, state, asked, some message⟩) ∨
          source.accepts state = .ok true ∧
            ((∃ message, source.candidates state = .error message ∧
                choose sources state = ⟨.empty false, state, opened, some message⟩) ∨
              ∃ candidates after, source.candidates state = .ok (candidates, after) ∧
                let kept := candidates.suggestions.filter fun suggestion => candidates.Keeps suggestion
                choose sources state =
                  ⟨{ typed := candidates.typed
                     suggestions := kept
                     selected := if kept.length = 1 then some 0 else none
                     loading := candidates.loading
                     caseSensitive := candidates.caseSensitive }, after, opened, none⟩) := by
  rcases all_declined_or_first sources state with declined | ⟨front, source, behind, rfl, earlier, decides⟩
  · refine Or.inl ⟨declined, ?_⟩
    have nothing := choose_of_declined declined []
    rwa [List.append_nil, chooseFrom, List.append_nil] at nothing
  refine Or.inr ⟨front, source, behind, rfl, earlier, choose_of_not_declined earlier decides behind, ?_⟩
  intro asked opened
  cases answer : source.accepts state with
  | error message => exact Or.inl ⟨message, rfl, choose_of_failed earlier behind answer⟩
  | ok accepted =>
    cases accepted with
    | false => exact absurd answer decides
    | true =>
      refine Or.inr ⟨rfl, ?_⟩
      cases given : source.candidates state with
      | error message => exact Or.inl ⟨message, rfl, choose_of_failed_candidates earlier behind answer given⟩
      | ok result =>
        obtain ⟨candidates, after⟩ := result
        refine Or.inr ⟨candidates, after, rfl, ?_⟩
        have served := choose_of_candidates earlier behind answer given
        rwa [Candidates.complete, Candidates.surviving_eq] at served

end QueryCompletion
