import QueryCompletion.Proofs.Text.Caseless
import QueryCompletion.Proofs.Text.Lowercase

/-!
Lower case letter by letter. Once each capital sigma is replaced by the small one that its place asks for, a text is
put in lower case character by character, and search finds in it what it found before.
-/

namespace QueryCompletion.Text

/-- Lower case of a character by itself. -/
def lowerAlone (c : Char) : Text := if c = 'İ' then ['i', dotAbove] else [lowerChar c]

/-- A capital sigma becomes the small one that its place asks for. -/
def settleSigma (before : Text) (c : Char) (behind : Text) : Char :=
  if c = 'Σ' then lowerSigma before behind else c

/-- The text behind the given reversed text with each capital sigma settled. -/
def settleFrom (before : Text) : Text → Text
  | [] => []
  | c :: rest => settleSigma before c rest :: settleFrom (c :: before) rest

def settle (text : Text) : Text := settleFrom [] text

theorem lowerSigma_cases (before behind : Text) :
    lowerSigma before behind = 'ς' ∨ lowerSigma before behind = 'σ' := by
  unfold lowerSigma
  split
  · exact Or.inl rfl
  · exact Or.inr rfl

theorem lowerAlone_of_ne {c : Char} (other : c ≠ 'İ') : lowerAlone c = [lowerChar c] := if_neg other

theorem lowerAt_eq (before : Text) (c : Char) (behind : Text) :
    lowerAt before c behind = lowerAlone (settleSigma before c behind) := by
  have small : lowerAlone 'ς' = ['ς'] ∧ lowerAlone 'σ' = ['σ'] := by decide
  unfold lowerAt settleSigma
  split
  · rcases lowerSigma_cases before behind with form | form
    · rw [form, small.1]
    · rw [form, small.2]
  · rfl

theorem lowerFrom_eq_flatMap (before text : Text) :
    lowerFrom before text = (settleFrom before text).flatMap lowerAlone := by
  induction text generalizing before with
  | nil => rfl
  | cons c rest ih => rw [lowerFrom_cons, lowerAt_eq, ih, settleFrom, List.flatMap_cons]

theorem lower_eq_flatMap (text : Text) : lower text = (settle text).flatMap lowerAlone :=
  lowerFrom_eq_flatMap [] text

theorem settleFrom_of_no_sigma {text : Text} (before : Text) (noSigma : 'Σ' ∉ text) :
    settleFrom before text = text := by
  induction text generalizing before with
  | nil => rfl
  | cons c rest ih =>
    have other : c ≠ 'Σ' := fun same => noSigma (same ▸ List.mem_cons_self)
    rw [settleFrom, ih _ fun inside => noSigma (List.mem_cons_of_mem _ inside), settleSigma, if_neg other]

theorem cases_of_mem_settleFrom {before text : Text} {c : Char} (inside : c ∈ settleFrom before text) :
    c = 'ς' ∨ c = 'σ' ∨ c ≠ 'Σ' ∧ c ∈ text := by
  induction text generalizing before with
  | nil => cases inside
  | cons d rest ih =>
    rcases List.mem_cons.mp inside with here | later
    · unfold settleSigma at here
      split at here
      · rcases lowerSigma_cases before rest with form | form
        · exact Or.inl (here.trans form)
        · exact Or.inr (Or.inl (here.trans form))
      · rename_i other
        exact Or.inr (Or.inr ⟨here ▸ other, here ▸ List.mem_cons_self⟩)
    · rcases ih later with final | open' | ⟨other, member⟩
      · exact Or.inl final
      · exact Or.inr (Or.inl open')
      · exact Or.inr (Or.inr ⟨other, List.mem_cons_of_mem _ member⟩)

theorem sigma_not_mem_settleFrom (before text : Text) : 'Σ' ∉ settleFrom before text := by
  intro inside
  rcases cases_of_mem_settleFrom inside with clash | clash | ⟨other, _⟩
  · exact absurd clash (by decide)
  · exact absurd clash (by decide)
  · exact other rfl

theorem mem_of_mem_settleFrom {before text : Text} {c : Char} (apart : c ∉ ['ς', 'σ'])
    (inside : c ∈ settleFrom before text) : c ∈ text := by
  rcases cases_of_mem_settleFrom inside with final | open' | ⟨_, member⟩
  · exact absurd (final ▸ by simp) apart
  · exact absurd (open' ▸ by simp) apart
  · exact member

/-- Settling meets sigmas alone. -/
theorem settleSigma_eq_iff {other : Char} (before : Text) (c : Char) (behind : Text)
    (apart : other ∉ ['Σ', 'ς', 'σ']) : settleSigma before c behind = other ↔ c = other := by
  unfold settleSigma
  split
  · rename_i sigma
    constructor
    · intro form
      rcases lowerSigma_cases before behind with final | open'
      · exact absurd (form ▸ final ▸ by simp) apart
      · exact absurd (form ▸ open' ▸ by simp) apart
    · intro same
      exact absurd (same ▸ sigma ▸ by simp) apart
  · exact Iff.rfl

/-- What does not tell the sigmas from one another does not see them settled. -/
theorem apply_settleSigma {α : Type} {see : Char → α} (final : see 'ς' = see 'σ') (capital : see 'Σ' = see 'σ')
    (before : Text) (c : Char) (behind : Text) : see (settleSigma before c behind) = see c := by
  unfold settleSigma
  split
  · rename_i sigma
    rw [sigma, capital]
    rcases lowerSigma_cases before behind with form | form
    · rw [form, final]
    · rw [form]
  · rfl

/-- Search does not tell the sigmas from one another. -/
theorem sameLetter_settleSigma (before behind before' behind' : Text) (c d : Char) :
    sameLetter (settleSigma before c behind) (settleSigma before' d behind') = sameLetter c d := by
  have capital : lowerChar 'Σ' = lowerChar 'σ' := by decide
  have wanted : sameLetter (settleSigma before c behind) = sameLetter c :=
    apply_settleSigma (funext sigma_sameLetter) (funext fun other => by rw [sameLetter, sameLetter, capital])
      before c behind
  have found : sameLetter c 'Σ' = sameLetter c 'σ' := by rw [sameLetter, sameLetter, capital]
  rw [wanted]
  exact apply_settleSigma (sameLetter_sigma c) found before' d behind'

theorem startsBy_settleFrom (before before' word text : Text) :
    startsBy sameLetter (settleFrom before word) (settleFrom before' text) = startsBy sameLetter word text := by
  induction word generalizing before before' text with
  | nil => rfl
  | cons w word ih =>
    cases text with
    | nil => rfl
    | cons c text => rw [settleFrom, settleFrom, startsBy, startsBy, sameLetter_settleSigma, ih]

theorem length_settleFrom (before text : Text) : (settleFrom before text).length = text.length := by
  induction text generalizing before with
  | nil => rfl
  | cons c rest ih => rw [settleFrom, List.length_cons, List.length_cons, ih]

/-- A settled word occurs in a settled text where the word occurs in the text. -/
theorem occurrencesFrom_settleFrom (before before' word text : Text) (position skip : Nat) :
    occurrencesFrom sameLetter (settleFrom before word) position skip (settleFrom before' text) =
      occurrencesFrom sameLetter word position skip text := by
  induction text generalizing before' position skip with
  | nil => rfl
  | cons c rest ih =>
    have starts := startsBy_settleFrom before before' word (c :: rest)
    rw [settleFrom] at starts ⊢
    cases skip with
    | succ skip => exact ih _ _ _
    | zero =>
      rw [occurrencesFrom, occurrencesFrom, starts, ih, ih, length_settleFrom]

end QueryCompletion.Text
