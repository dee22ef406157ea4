import Mathlib.Data.List.Infix
import QueryCompletion.Text.Space

/-!
Words of a text. They are parts of it without white space, and text that is added behind only prolongs the
last of them or adds further ones.
-/

namespace QueryCompletion.Text

theorem hasInside_iff {word text : Text} : hasInside word text = true ↔ word <:+: text := by
  induction text with
  | nil => simp [hasInside]
  | cons c rest ih =>
    rw [hasInside, Bool.or_eq_true, List.isPrefixOf_iff_prefix, ih, List.infix_cons_iff]

theorem exists_front_of_mem_wordsFrom {run text word : Text} (inside : word ∈ wordsFrom run text) :
    ∃ front rest, run.reverse ++ text = front ++ rest ∧ word <+: rest ∧
      ∀ c, front.getLast? = some c → isSpace c = true := by
  induction text generalizing run with
  | nil =>
    unfold wordsFrom at inside
    split at inside
    · cases inside
    · exact ⟨[], run.reverse, by simp, List.mem_singleton.mp inside ▸ List.prefix_refl _, nofun⟩
  | cons c rest ih =>
    -- A word further on has the space before it, if not nearer white space.
    have later (space : isSpace c = true) (member : word ∈ wordsFrom [] rest) :
        ∃ front tail, run.reverse ++ c :: rest = front ++ tail ∧ word <+: tail ∧
          ∀ d, front.getLast? = some d → isSpace d = true := by
      obtain ⟨front, tail, split, starts, spaced⟩ := ih member
      refine ⟨run.reverse ++ c :: front, tail, by simpa using split, starts, fun d last => ?_⟩
      rw [List.getLast?_append_of_ne_nil _ (List.cons_ne_nil c front), List.getLast?_cons] at last
      cases ends : front.getLast? with
      | none =>
        rw [ends] at last
        cases last
        exact space
      | some e =>
        rw [ends] at last
        cases last
        exact spaced e ends
    unfold wordsFrom at inside
    split at inside
    · rename_i space
      split at inside
      · exact later space inside
      · rcases List.mem_cons.mp inside with rfl | member
        · exact ⟨[], run.reverse ++ c :: rest, rfl, List.prefix_append _ _, nofun⟩
        · exact later space member
    · obtain ⟨front, tail, split, found⟩ := ih inside
      exact ⟨front, tail, by rw [← split, List.reverse_cons, List.append_assoc]; rfl, found⟩

/-- A word begins at the start of the text or behind white space. -/
theorem exists_front_of_mem_words {text word : Text} (inside : word ∈ words text) :
    ∃ front rest, text = front ++ rest ∧ word <+: rest ∧ ∀ c, front.getLast? = some c → isSpace c = true :=
  exists_front_of_mem_wordsFrom inside

theorem infix_of_mem_words {text word : Text} (inside : word ∈ words text) : word <:+: text := by
  obtain ⟨front, rest, rfl, starts, _⟩ := exists_front_of_mem_words inside
  exact starts.isInfix.trans (List.suffix_append front rest).isInfix

theorem isSpace_of_mem_wordsFrom {run text word : Text} (solid : ∀ c ∈ run, isSpace c = false)
    (inside : word ∈ wordsFrom run text) : ∀ c ∈ word, isSpace c = false := by
  induction text generalizing run with
  | nil =>
    unfold wordsFrom at inside
    split at inside
    · cases inside
    · rw [List.mem_singleton.mp inside]
      exact fun c member => solid c (List.mem_reverse.mp member)
  | cons c rest ih =>
    unfold wordsFrom at inside
    split at inside
    · split at inside
      · exact ih (List.forall_mem_nil _) inside
      · rcases List.mem_cons.mp inside with first | later
        · rw [first]
          exact fun d member => solid d (List.mem_reverse.mp member)
        · exact ih (List.forall_mem_nil _) later
    · rename_i other
      refine ih ?_ inside
      exact List.forall_mem_cons.mpr ⟨by simpa using other, solid⟩

/-- No white space stands in a word. -/
theorem isSpace_of_mem_words {text word : Text} (inside : word ∈ words text) :
    ∀ c ∈ word, isSpace c = false :=
  isSpace_of_mem_wordsFrom (List.forall_mem_nil _) inside

/-- The run that is being read begins a word. -/
theorem exists_wordsFrom {run : Text} (text : Text) (some' : run ≠ []) :
    ∃ word ∈ wordsFrom run text, run.reverse <+: word := by
  have notEmpty : run.isEmpty = false := by simpa using some'
  induction text generalizing run with
  | nil => exact ⟨run.reverse, by simp [wordsFrom, notEmpty], List.prefix_refl _⟩
  | cons c rest ih =>
    unfold wordsFrom
    split
    · exact ⟨run.reverse, by simp [notEmpty], List.prefix_refl _⟩
    · obtain ⟨word, inside, starts⟩ := ih (List.cons_ne_nil c run) rfl
      rw [List.reverse_cons] at starts
      exact ⟨word, inside, (List.prefix_append _ _).trans starts⟩

theorem exists_wordsFrom_append {run text word : Text} (more : Text) (inside : word ∈ wordsFrom run text) :
    ∃ longer ∈ wordsFrom run (text ++ more), word <+: longer := by
  induction text generalizing run with
  | nil =>
    unfold wordsFrom at inside
    split at inside
    · cases inside
    · rename_i notEmpty
      rw [List.mem_singleton.mp inside]
      exact exists_wordsFrom more (by simpa using notEmpty)
  | cons c rest ih =>
    rw [List.cons_append]
    unfold wordsFrom at inside ⊢
    split at inside
    · rename_i space
      rw [if_pos space]
      split at inside
      · rename_i nothing
        rw [if_pos nothing]
        exact ih inside
      · rename_i notEmpty
        rw [if_neg notEmpty]
        rcases List.mem_cons.mp inside with first | later
        · exact ⟨word, by rw [first]; exact List.mem_cons_self, List.prefix_refl _⟩
        · obtain ⟨longer, member, starts⟩ := ih later
          exact ⟨longer, List.mem_cons_of_mem _ member, starts⟩
    · rename_i other
      rw [if_neg other]
      exact ih inside

/-- Each word of a text begins a word of every longer text. -/
theorem exists_words_append {text word : Text} (more : Text) (inside : word ∈ words text) :
    ∃ longer ∈ words (text ++ more), word <+: longer :=
  exists_wordsFrom_append more inside

theorem wordsFrom_of_solid {run text : Text} (solid : ∀ c ∈ text, isSpace c = false) :
    ∀ word ∈ wordsFrom run text, word = run.reverse ++ text := by
  intro word inside
  induction text generalizing run with
  | nil =>
    unfold wordsFrom at inside
    split at inside
    · cases inside
    · rw [List.mem_singleton.mp inside, List.append_nil]
  | cons c rest ih =>
    obtain ⟨first, later⟩ := List.forall_mem_cons.mp solid
    rw [wordsFrom, first, if_neg Bool.false_ne_true] at inside
    rw [ih later inside, List.reverse_cons, List.append_assoc]
    rfl

/-- A text without white space has no word but itself. -/
theorem eq_of_mem_words {text word : Text} (solid : ∀ c ∈ text, isSpace c = false)
    (inside : word ∈ words text) : word = text :=
  wordsFrom_of_solid solid word inside

end QueryCompletion.Text
