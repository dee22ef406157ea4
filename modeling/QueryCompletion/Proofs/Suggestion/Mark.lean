import QueryCompletion.Proofs.Text.Pieces
import QueryCompletion.Proofs.Text.Trim
import QueryCompletion.Suggestion.Acceptance

/-!
Where the cursor lands. The snippet behind a suggestion may mark a place, and the cursor lands there when the
snippet is pasted. When the text has the snippet already and it is left out, the cursor is still moved back by
what stands behind the mark, into what was pasted or even before it.
-/

namespace QueryCompletion.Suggestion

/-- The snippet behind the suggestion has a single mark, between two parts. -/
structure Marked (suggestion : Suggestion) (left right : Text) : Prop where
  snippet : suggestion.snippetAfter = left ++ '|' :: right
  noMark : '|' ∉ left
  noOther : '|' ∉ right

/-- The cursor stands within the text where the suggestion marks its place: behind the suggestion and the part
before the mark, and in front of the part behind the mark. -/
structure OnMark (suggestion : Suggestion) (left right : Text) (edited : Edited) : Prop where
  lower : 0 ≤ edited.cursor
  upper : edited.cursor ≤ edited.text.length
  front : suggestion.text ++ left <:+ edited.text.before edited.cursor
  behind : right <+: edited.text.after edited.cursor

/-- The snippet that is pasted before the suggestion. -/
def lead (suggestion : Suggestion) (before : Text) : Text :=
  if suggestion.snippets.1.isSuffixOf before then [] else suggestion.snippets.1

/-- The snippet that is pasted behind the suggestion. -/
def trail (suggestion : Suggestion) (after : Text) : Text :=
  if suggestion.snippets.2.isPrefixOf after then [] else suggestion.snippets.2

variable {suggestion : Suggestion} {left right : Text}

theorem pasted_eq (before after : Text) :
    suggestion.pasted before after = suggestion.lead before ++ suggestion.text ++ suggestion.trail after := rfl

/-- What is pasted in front ends with the snippet that stands before the suggestion. -/
theorem suffix_lead (suggestion : Suggestion) (before : Text) :
    suggestion.snippets.1 <:+ before ++ suggestion.lead before := by
  unfold lead
  split
  · rename_i ends
    rw [List.append_nil]
    exact List.isSuffixOf_iff_suffix.mp ends
  · exact List.suffix_append _ _

theorem Marked.pieces (marked : suggestion.Marked left right) :
    Text.pieces '|' suggestion.snippetAfter = [left, right] := by
  rw [marked.snippet, Text.pieces_append, Text.pieces_of_not_mem marked.noMark,
    Text.pieces_of_not_mem marked.noOther]
  rfl

theorem Marked.markDistance (marked : suggestion.Marked left right) :
    suggestion.markDistance = right.length := by
  rw [Suggestion.markDistance, marked.pieces]

/-- The mark parts the snippet for a suggestion that is nothing else, and is taken out of it for any other. -/
theorem Marked.snippets_cases (marked : suggestion.Marked left right) :
    suggestion.text = [] ∧ suggestion.snippets = (left, right) ∨
      suggestion.snippets = (suggestion.snippetBefore, left ++ right) := by
  rw [snippets, marked.pieces]
  dsimp only
  split
  · rename_i nothing
    simp only [Bool.and_eq_true, List.isEmpty_iff] at nothing
    exact Or.inl ⟨nothing.2, rfl⟩
  · exact Or.inr (by simp)

theorem onMark_natCast {text : Text} {cursor : Nat} :
    OnMark suggestion left right ⟨text, cursor⟩ ↔
      cursor ≤ text.length ∧ suggestion.text ++ left <:+ text.take cursor ∧ right <+: text.drop cursor := by
  constructor
  · rintro ⟨_, upper, front, behind⟩
    rw [Text.before_natCast] at front
    rw [Text.after_natCast] at behind
    exact ⟨Int.ofNat_le.mp upper, front, behind⟩
  · rintro ⟨upper, front, behind⟩
    refine ⟨Int.natCast_nonneg _, Int.ofNat_le.mpr upper, ?_, ?_⟩
    · rwa [Text.before_natCast]
    · rwa [Text.after_natCast]

/-- The cursor at the end of a text that ends with the suggestion and the part before the mark. -/
theorem onMark_of_split {front rest : Text} (ends : suggestion.text ++ left <:+ front)
    (starts : right <+: rest) : OnMark suggestion left right ⟨front ++ rest, (front.length : Nat)⟩ := by
  rw [onMark_natCast, List.take_left, List.drop_left, List.length_append]
  exact ⟨Nat.le_add_right _ _, ends, starts⟩

/-- The cursor moved back from the end of a text by the part behind the mark. -/
theorem onMark_before_end_iff {front rest : Text} :
    OnMark suggestion left right ⟨front ++ rest, (front.length : Int) - right.length⟩ ↔
      suggestion.text ++ left ++ right <:+ front := by
  constructor
  · intro lands
    have fits : right.length ≤ front.length := by
      have lower := lands.lower
      dsimp only at lower
      omega
    rw [← Int.ofNat_sub fits, onMark_natCast, List.take_append_of_le_length (by omega),
      List.drop_append_of_le_length (by omega)] at lands
    obtain ⟨_, ends, starts⟩ := lands
    have last : right = front.drop (front.length - right.length) := by
      have within := List.prefix_of_prefix_length_le starts (List.prefix_append _ rest)
        (by rw [List.length_drop]; omega)
      exact within.eq_of_length (by rw [List.length_drop]; omega)
    obtain ⟨more, split⟩ := ends
    refine ⟨more, ?_⟩
    calc more ++ (suggestion.text ++ left ++ right)
        = front.take (front.length - right.length) ++ right := by rw [← split]; simp
      _ = front := by
        conv => lhs; rw [last]
        rw [List.length_drop, show front.length - (front.length - right.length) = right.length by omega,
          List.take_append_drop]
  · rintro ⟨more, rfl⟩
    have length : ((more ++ (suggestion.text ++ left ++ right)).length : Int) - right.length =
        ((more ++ (suggestion.text ++ left)).length : Nat) := by
      simp only [List.length_append]
      omega
    rw [length, ← List.append_assoc, List.append_assoc]
    exact onMark_of_split (List.suffix_append _ _) (List.prefix_append _ _)

section Accepted

variable {schema : Schema} {text : Text} {cursor : Int}

/-- A snippet that the text already has is left out, and the cursor is moved back all the same. -/
theorem Marked.accept_of_present (marked : suggestion.Marked left right) :
    let context := schema.contextAt text cursor
    let before := context.textBefore text cursor
    let after := context.textAfter text cursor
    suggestion.snippets.2 <+: after →
      suggestion.accept schema text cursor =
        ⟨before ++ suggestion.lead before ++ suggestion.text ++ after,
          ((before ++ suggestion.lead before ++ suggestion.text).length : Int) - right.length⟩ := by
  intro context before after present
  have nothing : suggestion.trail after = [] := if_pos (List.isPrefixOf_iff_prefix.mpr present)
  show Edited.mk (before ++ suggestion.pasted before after ++ after)
    ((before.length + (suggestion.pasted before after).length : Int) - suggestion.markDistance) = _
  rw [pasted_eq, nothing, marked.markDistance]
  simp only [List.append_nil, List.append_assoc, List.length_append, Int.natCast_add]

/-- Where the snippet is pasted, the cursor parts what it is pasted from. -/
theorem Marked.accept_of_absent (marked : suggestion.Marked left right) :
    let after := (schema.contextAt text cursor).textAfter text cursor
    ¬ suggestion.snippets.2 <+: after →
      ∃ front, suggestion.text ++ left <:+ front ∧
        suggestion.accept schema text cursor = ⟨front ++ (right ++ after), (front.length : Nat)⟩ := by
  intro after absent
  let before := (schema.contextAt text cursor).textBefore text cursor
  have whole : suggestion.trail after = suggestion.snippets.2 :=
    if_neg fun present => absent (List.isPrefixOf_iff_prefix.mp present)
  have accepted : suggestion.accept schema text cursor =
      ⟨before ++ (suggestion.lead before ++ suggestion.text ++ suggestion.snippets.2) ++ after,
        (before.length + (suggestion.lead before ++ suggestion.text ++ suggestion.snippets.2).length : Int) -
          right.length⟩ := by
    rw [← whole, ← pasted_eq, ← marked.markDistance]
    rfl
  rcases marked.snippets_cases with ⟨empty, parts⟩ | parts
  · have ends := suggestion.suffix_lead before
    rw [parts] at ends
    refine ⟨before ++ suggestion.lead before, by rw [empty]; exact ends, ?_⟩
    rw [accepted, empty, parts]
    simp only [List.append_nil, List.append_assoc, List.length_append, Int.natCast_add, Edited.mk.injEq,
      true_and]
    omega
  · refine ⟨before ++ suggestion.lead before ++ (suggestion.text ++ left), List.suffix_append _ _, ?_⟩
    rw [accepted, parts]
    simp only [List.append_assoc, List.length_append, Int.natCast_add, Edited.mk.injEq, true_and]
    omega

end Accepted

/-- Text that is trimmed does not begin with what begins with white space. -/
theorem not_prefix_trim {snippet text : Text} (opens : ∃ c ∈ snippet.head?, Text.isSpace c = true) :
    ¬ snippet <+: Text.trim text := by
  obtain ⟨c, first, space⟩ := opens
  rintro ⟨more, split⟩
  have head : c ∈ (Text.trim text).head? := by
    rw [← split, List.head?_append, Option.mem_def.mp first]
    rfl
  rw [Text.head?_trim text c head] at space
  cases space

/-- The cursor lands on the mark unless the text already has the snippet that is pasted behind the suggestion;
then it does so only if what stands up to the end of the suggestion happens to end with all that surrounds the
mark. A snippet that begins with white space is always pasted. -/
theorem cursor_lands_on_mark_iff (schema : Schema) (text : Text) (cursor : Int)
    (marked : suggestion.Marked left right) :
    let context := schema.contextAt text cursor
    let before := context.textBefore text cursor
    let after := context.textAfter text cursor
    (OnMark suggestion left right (suggestion.accept schema text cursor) ↔
        ¬ suggestion.snippets.2 <+: after ∨
          suggestion.text ++ left ++ right <:+ before ++ suggestion.lead before ++ suggestion.text) ∧
      ((∃ c ∈ suggestion.snippets.2.head?, Text.isSpace c = true) →
        OnMark suggestion left right (suggestion.accept schema text cursor)) := by
  intro context before after
  have lands : ¬ suggestion.snippets.2 <+: after →
      OnMark suggestion left right (suggestion.accept schema text cursor) := by
    intro absent
    obtain ⟨front, ends, accepted⟩ := marked.accept_of_absent absent
    rw [accepted]
    exact onMark_of_split ends (List.prefix_append _ _)
  refine ⟨?_, fun opens => lands (not_prefix_trim opens)⟩
  by_cases present : suggestion.snippets.2 <+: after
  · rw [marked.accept_of_present present, onMark_before_end_iff]
    exact ⟨Or.inr, fun either => either.resolve_left (not_not_intro present)⟩
  · exact iff_of_true (lands present) (Or.inl present)

/-- Behind a name the cursor lands between the quotes of an operand; between quotes that stand there already it
does not. -/
theorem cursor_lands_on_mark_iff_at_operand :
    let schema : Schema :=
      { currentModel := some ['b'], models := [(['b'], [("name".toList, { type := .str })])] }
    let operator : Suggestion := ⟨['~'], [], " \"|\"".toList, none⟩
    let quotes : Suggestion := ⟨[], [], "\"|\"".toList, none⟩
    (operator.Marked " \"".toList ['"'] ∧
        OnMark operator " \"".toList ['"'] (operator.accept schema "name ".toList (5 : Nat))) ∧
      quotes.Marked ['"'] ['"'] ∧
        ¬ OnMark quotes ['"'] ['"'] (quotes.accept schema "name = \"\"".toList (8 : Nat)) := by
  intro schema operator quotes
  have marked : operator.Marked " \"".toList ['"'] := ⟨rfl, by decide, by decide⟩
  have marked' : quotes.Marked ['"'] ['"'] := ⟨rfl, by decide, by decide⟩
  refine ⟨⟨marked, (cursor_lands_on_mark_iff schema "name ".toList (5 : Nat) marked).2 ⟨' ', by decide, rfl⟩⟩,
    marked', ?_⟩
  rw [(cursor_lands_on_mark_iff schema "name = \"\"".toList (8 : Nat) marked').1]
  decide +kernel

/-- Between two quotes the text stays as it is when a pair of quotes is accepted, but the cursor moves out of
them. -/
theorem cursor_leaves_quotes :
    let schema : Schema :=
      { currentModel := some ['b'], models := [(['b'], [("name".toList, { type := .str })])] }
    let quotes : Suggestion := ⟨[], [], "\"|\"".toList, none⟩
    quotes.accept schema "name = \"\"".toList (8 : Nat) = ⟨"name = \"\"".toList, 7⟩ ∧
      quotes.Marked ['"'] ['"'] ∧ ¬ OnMark quotes ['"'] ['"'] ⟨"name = \"\"".toList, 7⟩ := by
  intro schema quotes
  refine ⟨by decide +kernel, ⟨rfl, by decide, by decide⟩, ?_⟩
  rintro ⟨_, _, front, _⟩
  have absent : ¬ ['"'] <:+ "name = ".toList := by decide
  exact absent front

end QueryCompletion.Suggestion
