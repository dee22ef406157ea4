import Mathlib.Data.List.Infix
import QueryCompletion.Proofs.Text.Lowercase
import QueryCompletion.Proofs.Text.Words
import QueryCompletion.Suggestion.Filter

/-!
What survives when more is typed. A suggestion survives exactly what occurs in it, and occurring is reflexive
and transitive, so more typed text narrows the list whenever the text typed so far still occurs in it. It does
but for one case: where case does not matter, a capital sigma at the end of the typed text stands for the final
letter, which it is no longer when the word goes on.
-/

namespace QueryCompletion

/-- The text in which characters are compared. -/
def folded (caseSensitive : Bool) (text : Text) : Text :=
  if caseSensitive then text else Text.lower text

/-- A word occurs in a text: anywhere, or anchored at the start of the text or of one of its words. -/
def Occurs (anchored : Bool) (word text : Text) : Prop :=
  if anchored then word <+: text ∨ ∃ other ∈ Text.words text, word <+: other else word <:+: text

instance (anchored : Bool) (word text : Text) : Decidable (Occurs anchored word text) :=
  inferInstanceAs (Decidable (if anchored then _ ∨ _ else _))

namespace Occurs

variable {anchored : Bool} {word longer text : Text}

theorem of_starts (starts : word <+: text) : Occurs anchored word text := by
  cases anchored with
  | true => exact Or.inl starts
  | false => exact starts.isInfix

theorem isInfix (occurs : Occurs anchored word text) : word <:+: text := by
  cases anchored with
  | true =>
    obtain starts | ⟨other, inside, starts⟩ : word <+: text ∨ ∃ other ∈ Text.words text, word <+: other := occurs
    · exact starts.isInfix
    · exact starts.isInfix.trans (Text.infix_of_mem_words inside)
  | false => exact occurs

/-- Where a word of the longer text is meant, the longer text stands at the start or is that word itself. -/
theorem trans (first : Occurs anchored word longer) (second : Occurs anchored longer text) :
    Occurs anchored word text := by
  cases anchored with
  | false =>
    have first : word <:+: longer := first
    exact first.trans second
  | true =>
    obtain starts | ⟨other, inside, starts⟩ : word <+: longer ∨ ∃ other ∈ Text.words longer, word <+: other :=
      first
    · obtain whole | ⟨host, member, whole⟩ : longer <+: text ∨ ∃ host ∈ Text.words text, longer <+: host :=
        second
      · exact Or.inl (starts.trans whole)
      · exact Or.inr ⟨host, member, starts.trans whole⟩
    · obtain whole | ⟨host, member, whole⟩ : longer <+: text ∨ ∃ host ∈ Text.words text, longer <+: host :=
        second
      · obtain ⟨more, rfl⟩ := whole
        obtain ⟨host, member, continues⟩ := Text.exists_words_append more inside
        exact Or.inr ⟨host, member, starts.trans continues⟩
      · have solid : ∀ c ∈ longer, Text.isSpace c = false :=
          fun c member' => Text.isSpace_of_mem_words member c (whole.subset member')
        rw [Text.eq_of_mem_words solid inside] at starts
        exact Or.inr ⟨host, member, starts.trans whole⟩

end Occurs

variable {anchored caseSensitive : Bool} {typed longer : Text}

theorem matchesTyped_iff {text : Text} :
    matchesTyped anchored caseSensitive text typed = true ↔
      Occurs anchored (folded caseSensitive typed) (folded caseSensitive text) := by
  have fold : ∀ text, (if caseSensitive then id else Text.lower) text = folded caseSensitive text := by
    intro text
    unfold folded
    cases caseSensitive <;> rfl
  unfold matchesTyped Occurs
  dsimp only
  rw [fold, fold]
  cases anchored with
  | true => simp [List.isPrefixOf_iff_prefix]
  | false => simp [Text.hasInside_iff]

/-- Whatever survives the longer text survives the shorter one. -/
def Narrows (anchored caseSensitive : Bool) (typed longer : Text) : Prop :=
  ∀ text, matchesTyped anchored caseSensitive text longer = true →
    matchesTyped anchored caseSensitive text typed = true

/-- The suggestions that survive the longer text are some of the others, in their order. -/
theorem narrows_iff_sublist :
    Narrows anchored caseSensitive typed longer ↔ ∀ candidates : Candidates,
      { candidates with typed := longer, anchored, caseSensitive }.surviving.Sublist
        { candidates with typed, anchored, caseSensitive }.surviving := by
  constructor
  · intro narrows candidates
    exact List.monotone_filter_right _ fun suggestion survives => narrows suggestion.text survives
  · intro sublist text survives
    have member : (⟨text, [], [], none⟩ : Suggestion) ∈
        Candidates.surviving { typed := longer, suggestions := [⟨text, [], [], none⟩], anchored, caseSensitive } :=
      List.mem_filter.mpr ⟨List.mem_cons_self, survives⟩
    have kept := (sublist { typed, suggestions := [⟨text, [], [], none⟩] }).subset member
    exact (List.mem_filter.mp kept).2

/-- It is enough that the longer text, as a suggestion, survives the shorter one. -/
theorem narrows_iff :
    Narrows anchored caseSensitive typed longer ↔ matchesTyped anchored caseSensitive longer typed = true := by
  constructor
  · exact fun narrows => narrows longer (matchesTyped_iff.mpr (.of_starts (List.prefix_refl _)))
  · intro occurs text survives
    exact matchesTyped_iff.mpr ((matchesTyped_iff.mp occurs).trans (matchesTyped_iff.mp survives))

theorem narrows_of_starts (starts : folded caseSensitive typed <+: folded caseSensitive longer) :
    Narrows anchored caseSensitive typed longer :=
  narrows_iff.mpr (matchesTyped_iff.mpr (.of_starts starts))

/-- Typing more narrows the list, whatever is typed, exactly if case matters or the text typed so far does not
end in a final sigma; and then the suggestions left are some of those before, in their order. For a given text
that is added it does so exactly if the whole, taken as a suggestion, survives what was typed before, which it
does unless a letter follows the sigma. -/
theorem typing_more_narrows_iff (anchored caseSensitive : Bool) (typed : Text) :
    ((∀ more, Narrows anchored caseSensitive typed (typed ++ more)) ↔
        caseSensitive = true ∨ Text.endsInFinalSigma typed = false) ∧
      ∀ more, (Narrows anchored caseSensitive typed (typed ++ more) ↔
          ∀ candidates : Candidates,
            { candidates with typed := typed ++ more, anchored, caseSensitive }.surviving.Sublist
              { candidates with typed, anchored, caseSensitive }.surviving) ∧
        (Narrows anchored caseSensitive typed (typed ++ more) ↔
          matchesTyped anchored caseSensitive (typed ++ more) typed = true) ∧
        (Text.nextIsCased more = false → Narrows anchored caseSensitive typed (typed ++ more)) := by
  have insensitive : ∀ more, Text.endsInFinalSigma typed = false ∨ Text.nextIsCased more = false →
      Narrows anchored caseSensitive typed (typed ++ more) := by
    intro more keeps
    refine narrows_of_starts ?_
    cases caseSensitive with
    | true => exact List.prefix_append typed more
    | false => exact Text.lower_starts keeps
  refine ⟨⟨fun narrows => ?_, fun either more => ?_⟩, fun more =>
    ⟨narrows_iff_sublist, narrows_iff, fun noLetter => insensitive more (Or.inr noLetter)⟩⟩
  · cases caseSensitive with
    | true => exact Or.inl rfl
    | false =>
      refine Or.inr ?_
      by_contra ends
      have occurs := matchesTyped_iff.mp (narrows_iff.mp (narrows ['a']))
      have fewer := Text.count_final_lower (by simpa using ends)
      have most := occurs.isInfix.sublist.count_le 'ς'
      exact absurd most (Nat.not_le.mpr fewer)
  · rcases either with rfl | open'
    · exact narrows_of_starts (List.prefix_append typed more)
    · exact insensitive more (Or.inl open')

/-- Five capitals are found by all of them and not by the first four, though these stand in them letter by
letter. -/
theorem final_sigma_hides_word :
    let text := "ΜΟΥΣΑ".toList
    text = "ΜΟΥΣ".toList ++ ['Α'] ∧ matchesTyped false false text text = true ∧
      matchesTyped false false text "ΜΟΥΣ".toList = false ∧
      matchesTyped false true text "ΜΟΥΣ".toList = true := by
  decide +kernel

end QueryCompletion
