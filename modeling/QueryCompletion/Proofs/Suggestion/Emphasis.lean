import QueryCompletion.Proofs.Suggestion.Narrowing
import QueryCompletion.Proofs.Text.Spelling
import QueryCompletion.Suggestion.Styled

/-!
Bold letters in the suggestions that survive. The list is narrowed by comparing whole texts in lower case, and what
is typed is put in bold by comparing letters, so a suggestion may survive and show nothing in bold. It does so only
through a dotted capital I, which is two characters in lower case.
-/

namespace QueryCompletion

/-- No character of the text is left out where it is styled. -/
def Printable (text : Text) : Prop := ∀ c ∈ text, isTerminalControl c = false

instance (text : Text) : Decidable (Printable text) :=
  List.decidableBAll (isTerminalControl · = false) text

def StyledText.HasBold (styled : StyledText) : Prop := ∃ span ∈ styled.spans, span.style = "bold"

/-- The text shows what is typed in bold if it survives. -/
def BoldIfKept (anchored caseSensitive : Bool) (text typed : Text) : Prop :=
  matchesTyped anchored caseSensitive text typed = true → (highlight text typed caseSensitive).HasBold

variable {anchored caseSensitive : Bool} {text typed : Text}

/-- A word that occurs begins somewhere in the text, and if it is anchored, at the start or behind white space. -/
theorem Occurs.exists_front {word : Text} (occurs : Occurs anchored word text) :
    ∃ front rest, text = front ++ rest ∧ word <+: rest ∧
      (anchored = true → ∀ c, front.getLast? = some c → Text.isSpace c = true) := by
  cases anchored with
  | false =>
    obtain ⟨front, behind, rfl⟩ : word <:+: text := occurs
    exact ⟨front, word ++ behind, List.append_assoc .., List.prefix_append _ _, nofun⟩
  | true =>
    obtain starts | ⟨other, inside, starts⟩ : word <+: text ∨ ∃ other ∈ Text.words text, word <+: other := occurs
    · exact ⟨[], text, rfl, starts, fun _ => nofun⟩
    · obtain ⟨front, rest, split, begins, spaced⟩ := Text.exists_front_of_mem_words inside
      exact ⟨front, rest, split, starts.trans begins, fun _ => spaced⟩

theorem hasBold_highlight_iff (printable : Printable text) (some' : typed ≠ []) :
    (highlight text typed caseSensitive).HasBold ↔ Text.occurrences caseSensitive typed text ≠ [] := by
  have plain : printableText text = text := List.filter_eq_self.mpr fun c inside => by simp [printable c inside]
  unfold StyledText.HasBold highlight
  dsimp only
  rw [plain, if_neg (by simpa using some')]
  constructor
  · rintro ⟨span, inside, _⟩ none'
    rw [none'] at inside
    cases inside
  · intro found
    obtain ⟨start, more, starts⟩ := List.exists_cons_of_ne_nil found
    exact ⟨⟨start, start + typed.length, "bold"⟩, by rw [starts]; exact List.mem_cons_self, rfl⟩

/-- Where case matters, what occurs is found. -/
theorem boldIfKept_of_caseSensitive (printable : Printable text) (some' : typed ≠ []) :
    BoldIfKept anchored true text typed := by
  intro kept
  obtain ⟨front, rest, split, starts, _⟩ := (matchesTyped_iff.mp kept).exists_front
  refine (hasBold_highlight_iff printable some').mpr ((Text.occurrencesFrom_ne_nil_iff some' 0).mpr ?_)
  refine ⟨rest, ⟨front, split.symm⟩, ?_⟩
  rw [if_pos rfl, Text.startsBy_beq]
  exact List.isPrefixOf_iff_prefix.mpr starts

/-- Where case does not matter, settled texts tell what is found. -/
theorem hasBold_iff_settled (printable : Printable text) (some' : typed ≠ []) :
    (highlight text typed false).HasBold ↔
      ∃ rest, rest <:+ Text.settle text ∧ Text.startsBy Text.sameLetter (Text.settle typed) rest = true := by
  have settled : Text.settle typed ≠ [] := by
    intro none'
    refine some' (List.length_eq_zero_iff.mp ?_)
    rw [← Text.length_settleFrom [] typed]
    exact List.length_eq_zero_iff.mpr none'
  rw [hasBold_highlight_iff printable some', ← Text.occurrencesFrom_ne_nil_iff settled 0, Text.settle, Text.settle,
    Text.occurrencesFrom_settleFrom]
  rfl

/-- What occurs in lower case begins with a character of the text, or with the dot of a dotted capital. -/
theorem exists_settled_of_kept (some' : typed ≠ []) (kept : matchesTyped anchored false text typed = true) :
    (∃ rest, rest <:+ Text.settle text ∧
        (Text.settle typed).flatMap Text.lowerAlone <+: rest.flatMap Text.lowerAlone) ∨
      anchored = false ∧ typed.head? = some Text.dotAbove ∧ 'İ' ∈ text := by
  have occurs : Occurs anchored (Text.lower typed) (Text.lower text) := matchesTyped_iff.mp kept
  obtain ⟨front, rest, split, starts, spaced⟩ := occurs.exists_front
  rw [Text.lower_eq_flatMap] at split starts
  rcases Text.append_eq_flatMap split.symm with ⟨tail, inside, lowered⟩ | ⟨init, tail, dotted, before, lowered⟩
  · exact Or.inl ⟨tail, inside, lowered ▸ starts⟩
  · refine Or.inr ⟨?_, ?_, ?_⟩
    · cases anchored with
      | false => rfl
      | true =>
        have space := spaced rfl 'i' (by rw [before, List.getLast?_concat])
        exact absurd space (by decide)
    · obtain ⟨c, more, rfl⟩ := List.exists_cons_of_ne_nil some'
      rw [lowered] at starts
      have dot := Text.dot_of_starts starts
      rw [List.head?_cons, ((Text.settleSigma_eq_iff [] c more (by decide)).mp dot)]
    · have inside : 'İ' ∈ Text.settle text := by
        rw [dotted]
        exact List.mem_append_right init List.mem_cons_self
      exact Text.mem_of_mem_settleFrom (by decide) inside

theorem boldIfKept_of_spelling (printable : Printable text) (some' : typed ≠ [])
    (spelled : Text.hasOneSpelling typed = true) (begins : anchored = true ∨ typed.head? ≠ some Text.dotAbove) :
    BoldIfKept anchored false text typed := by
  intro kept
  refine (hasBold_iff_settled printable some').mpr ?_
  rcases exists_settled_of_kept some' kept with ⟨rest, inside, starts⟩ | ⟨free, dot, _⟩
  · exact ⟨rest, inside, Text.startsBy_of_flatMap (by rwa [Text.settle, Text.hasOneSpelling_settleFrom]) starts⟩
  · rcases begins with fixed | other
    · rw [free] at fixed
      cases fixed
    · exact absurd dot other

theorem boldIfKept_of_undotted (printable : Printable text) (some' : typed ≠ []) (undotted : 'İ' ∉ text)
    (undotted' : 'İ' ∉ typed) : BoldIfKept anchored false text typed := by
  intro kept
  refine (hasBold_iff_settled printable some').mpr ?_
  rcases exists_settled_of_kept some' kept with ⟨rest, inside, starts⟩ | ⟨_, _, dotted⟩
  · refine ⟨rest, inside, Text.startsBy_of_undotted ?_ ?_ starts⟩
    · exact fun dotted => undotted' (Text.mem_of_mem_settleFrom (by decide) dotted)
    · exact fun dotted => undotted (Text.mem_of_mem_settleFrom (by decide) (inside.subset dotted))
  · exact absurd dotted undotted

/-- A text without sigmas that is the same in lower case and hides what is typed survives without bold letters. -/
theorem not_boldIfKept_of_hides (printable : Printable text) (some' : typed ≠ []) (noSigma : 'Σ' ∉ text)
    (occurs : Occurs anchored (Text.lower typed) (text.flatMap Text.lowerAlone))
    (hides : Text.Hides (Text.settle typed) text) : ¬BoldIfKept anchored false text typed := by
  have settled : Text.settle text = text := Text.settleFrom_of_no_sigma [] noSigma
  intro bold
  have kept : matchesTyped anchored false text typed = true := by
    refine matchesTyped_iff.mpr ?_
    show Occurs anchored (Text.lower typed) (Text.lower text)
    rwa [Text.lower_eq_flatMap text, settled]
  obtain ⟨rest, inside, starts⟩ := (hasBold_iff_settled printable some').mp (bold kept)
  rw [settled] at inside
  rw [hides.nowhere inside] at starts
  cases starts

theorem Printable.settle (printable : Printable typed) : Printable (Text.settle typed) := by
  intro c inside
  rcases Text.cases_of_mem_settleFrom inside with rfl | rfl | ⟨_, member⟩
  · decide
  · decide
  · exact printable c member

theorem exists_not_boldIfKept_of_spelling (printable : Printable typed) (some' : typed ≠ [])
    (spelled : Text.hasOneSpelling typed = false) :
    ∃ text, Printable text ∧ ¬BoldIfKept anchored false text typed := by
  rw [← Text.hasOneSpelling_settleFrom []] at spelled
  obtain ⟨text, lowered, among, hides⟩ := Text.exists_hides spelled
  have printable' : Printable text := by
    intro c inside
    rcases among c inside with member | added
    · exact printable.settle c member
    · have plain : Printable ['i', Text.dotAbove, 'İ'] := by decide
      exact plain c added
  refine ⟨text, printable', not_boldIfKept_of_hides printable' some' ?_ ?_ hides⟩
  · intro sigma
    rcases among 'Σ' sigma with member | added
    · exact Text.sigma_not_mem_settleFrom [] typed member
    · exact absurd added (by decide)
  · rw [lowered, ← Text.settle, ← Text.lower_eq_flatMap]
    exact .of_starts (List.prefix_refl _)

theorem exists_not_boldIfKept_of_dot (printable : Printable typed) (dotted : typed.head? = some Text.dotAbove) :
    ∃ text, Printable text ∧ ¬BoldIfKept false false text typed := by
  obtain ⟨more, rfl⟩ : ∃ more, typed = Text.dotAbove :: more := by
    cases typed with
    | nil => cases dotted
    | cons c more => exact ⟨more, by rw [Option.some.inj dotted]⟩
  -- The dot that is typed may be half of a dotted capital.
  obtain ⟨rest, settled⟩ : ∃ rest, Text.settle (Text.dotAbove :: more) = Text.dotAbove :: rest :=
    ⟨Text.settleFrom [Text.dotAbove] more, by rw [Text.settle, Text.settleFrom, Text.settleSigma, if_neg (by decide)]⟩
  have noSigma := Text.sigma_not_mem_settleFrom [] (Text.dotAbove :: more)
  have shown := printable.settle
  rw [← Text.settle, settled] at noSigma
  rw [settled] at shown
  have printable' : Printable ('İ' :: rest) :=
    List.forall_mem_cons.mpr ⟨by decide, (List.forall_mem_cons.mp shown).2⟩
  refine ⟨'İ' :: rest, printable', not_boldIfKept_of_hides printable' (List.cons_ne_nil _ _) ?_ ?_ ?_⟩
  · exact List.not_mem_cons_of_ne_of_not_mem (by decide) (List.ne_and_not_mem_of_not_mem_cons noSigma).2
  · rw [Text.lower_eq_flatMap, settled, List.flatMap_cons, Text.lowerAlone_dotAbove]
    exact (List.suffix_append ['i'] (Text.dotAbove :: rest.flatMap Text.lowerAlone)).isInfix
  · have apart : Text.sameLetter Text.dotAbove 'İ' = false := by decide
    rw [settled]
    refine ⟨Nat.le_succ _, by rw [Text.startsBy, apart, Bool.false_and], ?_⟩
    by_contra starts
    exact absurd (Text.length_le_of_startsBy (by simpa using starts)) (Nat.not_succ_le_self _)

/-- Every suggestion that survives what is typed shows it in bold exactly if case matters, or if what is typed has
one spelling and does not begin with a dot that a dotted capital may leave inside a word. Dotted capitals are all that
comes between: without them a suggestion that survives shows what is typed. -/
theorem bold_wherever_kept_iff (anchored caseSensitive : Bool) {typed : Text} (some' : typed ≠ [])
    (printable : Printable typed) :
    ((∀ text, Printable text → BoldIfKept anchored caseSensitive text typed) ↔
        caseSensitive = true ∨
          Text.hasOneSpelling typed = true ∧ (anchored = true ∨ typed.head? ≠ some Text.dotAbove)) ∧
      ∀ text, Printable text → 'İ' ∉ text → 'İ' ∉ typed → BoldIfKept anchored caseSensitive text typed := by
  cases caseSensitive with
  | true =>
    exact ⟨⟨fun _ => Or.inl rfl, fun _ text shown => boldIfKept_of_caseSensitive shown some'⟩,
      fun text shown _ _ => boldIfKept_of_caseSensitive shown some'⟩
  | false =>
    refine ⟨⟨fun all => Or.inr ?_, fun either text shown => ?_⟩,
      fun text shown undotted undotted' => boldIfKept_of_undotted shown some' undotted undotted'⟩
    · refine ⟨?_, ?_⟩
      · by_contra spelled
        obtain ⟨text, shown, hidden⟩ := exists_not_boldIfKept_of_spelling printable some' (by simpa using spelled)
        exact hidden (all text shown)
      · rw [or_iff_not_imp_left]
        intro free dotted
        rw [Bool.not_eq_true] at free
        subst free
        obtain ⟨text, shown, hidden⟩ := exists_not_boldIfKept_of_dot printable dotted
        exact hidden (all text shown)
    · rcases either with sensitive | ⟨spelled, begins⟩
      · cases sensitive
      · exact boldIfKept_of_spelling shown some' spelled begins

/-- Three small letters are shown wherever they are kept; with a dotted capital for the first of them they are not. -/
theorem bold_wherever_kept_iff_of_ist :
    let typed := "ist".toList
    let dotted := "İst".toList
    (typed ≠ [] ∧ Printable typed ∧ dotted ≠ [] ∧ Printable dotted) ∧
      (∀ text, Printable text → BoldIfKept false false text typed) ∧
      ¬∀ text, Printable text → BoldIfKept false false text dotted := by
  intro typed dotted
  have inputs : typed ≠ [] ∧ Printable typed ∧ dotted ≠ [] ∧ Printable dotted := by decide
  obtain ⟨some', printable, some'', printable'⟩ := inputs
  refine ⟨⟨some', printable, some'', printable'⟩, ?_, fun all => ?_⟩
  · exact (bold_wherever_kept_iff false false some' printable).1.mpr (Or.inr (by decide))
  · have spelled := (bold_wherever_kept_iff false false some'' printable').1.mp all
    revert spelled
    decide

/-- A dotted capital is kept by the two characters that it is in lower case, and shows neither of them. -/
theorem dotted_capital_kept_without_bold :
    let text := ['İ']
    let typed := ['i', Text.dotAbove]
    (typed ≠ [] ∧ Printable text ∧ Printable typed) ∧
      (∀ anchored, matchesTyped anchored false text typed = true) ∧ (highlight text typed false).spans = [] := by
  decide

end QueryCompletion
