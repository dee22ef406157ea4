import Mathlib.Data.List.TakeWhile
import QueryCompletion.Text.Lowercase

/-!
Lower case of a text and of its beginning. Each character has its lower case by itself but for the capital
sigma: it takes its final form behind a letter if no letter follows, so text that is added behind can change
the sigma that a text ends in and nothing else.
-/

namespace QueryCompletion.Text

/-- Lower case of a character between the reversed text before it and the text behind it. -/
def lowerAt (before : Text) (c : Char) (behind : Text) : Text :=
  if c = 'Σ' then [lowerSigma before behind]
  else if c = 'İ' then ['i', '\u0307']
  else [lowerChar c]

/-- Lower case of a text between the reversed text before it and the text behind it. -/
def lowerWithin (before behind : Text) : Text → Text
  | [] => []
  | c :: rest => lowerAt before c (rest ++ behind) ++ lowerWithin (c :: before) behind rest

/-- The text ends in a capital sigma in its final form, characters apart that are looked through. -/
def endsInFinalSigma (text : Text) : Bool :=
  match text.reverse.dropWhile isCaseIgnorable with
  | 'Σ' :: before => nextIsCased before
  | _ => false

theorem lowerFrom_cons (before : Text) (c : Char) (rest : Text) :
    lowerFrom before (c :: rest) = lowerAt before c rest ++ lowerFrom (c :: before) rest := rfl

theorem lowerFrom_eq_lowerWithin (before text : Text) : lowerFrom before text = lowerWithin before [] text := by
  induction text generalizing before with
  | nil => rfl
  | cons c rest ih => rw [lowerFrom_cons, ih, lowerWithin, List.append_nil]

theorem lower_eq_lowerWithin (text : Text) : lower text = lowerWithin [] [] text := lowerFrom_eq_lowerWithin [] text

theorem lowerWithin_append (before front rest behind : Text) :
    lowerWithin before behind (front ++ rest) =
      lowerWithin before (rest ++ behind) front ++ lowerWithin (front.reverse ++ before) behind rest := by
  induction front generalizing before with
  | nil => rfl
  | cons c front ih =>
    rw [List.cons_append, lowerWithin, ih, lowerWithin, List.append_assoc, List.append_assoc,
      List.reverse_cons, List.append_assoc]
    rfl

theorem lowerFrom_append (before text behind : Text) :
    lowerFrom before (text ++ behind) =
      lowerWithin before behind text ++ lowerFrom (text.reverse ++ before) behind := by
  rw [lowerFrom_eq_lowerWithin, lowerFrom_eq_lowerWithin, lowerWithin_append, List.append_nil]

theorem lower_append (text behind : Text) :
    lower (text ++ behind) = lowerWithin [] behind text ++ lowerFrom text.reverse behind := by
  rw [lower, lowerFrom_append, List.append_nil]

/-- What stands behind characters that are looked through is seen. -/
theorem nextIsCased_of_through {text : Text} (behind : Text)
    (through : ∀ c ∈ text, isCaseIgnorable c = true) : nextIsCased (text ++ behind) = nextIsCased behind := by
  unfold nextIsCased
  rw [List.dropWhile_append_of_pos through]

/-- Any other text hides what stands behind it. -/
theorem nextIsCased_of_seen {text : Text} (behind : Text)
    (seen : ¬ ∀ c ∈ text, isCaseIgnorable c = true) : nextIsCased (text ++ behind) = nextIsCased text := by
  have some' : text.dropWhile isCaseIgnorable ≠ [] := List.dropWhile_eq_nil_iff.not.mpr seen
  unfold nextIsCased
  rw [List.dropWhile_append, if_neg (by simpa using some')]
  obtain ⟨c, rest, first⟩ := List.exists_cons_of_ne_nil some'
  rw [first]
  rfl

/-- Of the text behind it matters only whether a letter comes next. -/
theorem lowerAt_congr {behind other : Text} (before : Text) (c : Char)
    (same : nextIsCased behind = nextIsCased other) : lowerAt before c behind = lowerAt before c other := by
  unfold lowerAt lowerSigma
  rw [same]

theorem lowerWithin_congr {behind other : Text} (before text : Text)
    (same : nextIsCased behind = nextIsCased other) :
    lowerWithin before behind text = lowerWithin before other text := by
  induction text generalizing before with
  | nil => rfl
  | cons c rest ih =>
    have here : nextIsCased (rest ++ behind) = nextIsCased (rest ++ other) := by
      by_cases through : ∀ d ∈ rest, isCaseIgnorable d = true
      · rw [nextIsCased_of_through _ through, nextIsCased_of_through _ through, same]
      · rw [nextIsCased_of_seen _ through, nextIsCased_of_seen _ through]
    rw [lowerWithin, lowerWithin, ih, lowerAt_congr before c here]

theorem endsInFinalSigma_iff {text : Text} :
    endsInFinalSigma text = true ↔
      ∃ front through, text = front ++ 'Σ' :: through ∧ nextIsCased front.reverse = true ∧
        ∀ c ∈ through, isCaseIgnorable c = true := by
  have sigma : isCaseIgnorable 'Σ' = false := by decide +kernel
  constructor
  · intro ends
    unfold endsInFinalSigma at ends
    split at ends
    · rename_i before behind
      have split := List.takeWhile_append_dropWhile (p := isCaseIgnorable) (l := text.reverse)
      rw [behind] at split
      have whole := congrArg List.reverse split
      refine ⟨before.reverse, (text.reverse.takeWhile isCaseIgnorable).reverse, ?_, ?_, ?_⟩
      · simpa using whole.symm
      · rwa [List.reverse_reverse]
      · exact fun c inside => List.mem_takeWhile_imp (List.mem_reverse.mp inside)
    · cases ends
  · rintro ⟨front, through, rfl, cased, ignorable⟩
    have behind : (front ++ 'Σ' :: through).reverse.dropWhile isCaseIgnorable = 'Σ' :: front.reverse := by
      rw [List.reverse_append, List.reverse_cons, List.append_assoc, List.dropWhile_append_of_pos,
        List.singleton_append, List.dropWhile_cons_of_neg (by simp [sigma])]
      exact fun c inside => ignorable c (List.mem_reverse.mp inside)
    rw [endsInFinalSigma, behind]
    exact cased

/-- A text that does not end in a final sigma is put in lower case in the same way whatever follows. -/
theorem lowerWithin_of_not_final {before text : Text} (behind : Text)
    (open' : endsInFinalSigma (before.reverse ++ text) = false) :
    lowerWithin before behind text = lowerWithin before [] text := by
  induction text generalizing before with
  | nil => rfl
  | cons c rest ih =>
    have later : endsInFinalSigma ((c :: before).reverse ++ rest) = false := by
      rwa [List.reverse_cons, List.append_assoc]
    have here : lowerAt before c (rest ++ behind) = lowerAt before c (rest ++ []) := by
      by_cases through : ∀ d ∈ rest, isCaseIgnorable d = true
      · -- A sigma here is not final in either case, for no letter stands before it.
        unfold lowerAt
        split
        · rename_i sigma
          have noLetter : nextIsCased before = false := by
            by_contra cased
            rw [endsInFinalSigma_iff.mpr ⟨before.reverse, rest, by rw [sigma], by simpa using cased, through⟩]
              at open'
            cases open'
          rw [lowerSigma, lowerSigma, noLetter]
          rfl
        · rfl
      · refine lowerAt_congr before c ?_
        rw [nextIsCased_of_seen _ through, nextIsCased_of_seen _ through]
    rw [lowerWithin, lowerWithin, ih later, here]

/-- Text that is added behind leaves the lower case as it is, unless it continues a word that ends in a
sigma. -/
theorem lower_starts {text behind : Text} (keeps : endsInFinalSigma text = false ∨ nextIsCased behind = false) :
    lower text <+: lower (text ++ behind) := by
  have same : lowerWithin [] behind text = lower text := by
    rw [lower_eq_lowerWithin]
    rcases keeps with open' | noLetter
    · exact lowerWithin_of_not_final behind open'
    · exact lowerWithin_congr [] text noLetter
  rw [lower_append, same]
  exact List.prefix_append _ _

theorem lowerWithin_of_no_sigma {text : Text} (before behind : Text) (noSigma : 'Σ' ∉ text) :
    lowerWithin before behind text = lowerWithin [] [] text := by
  have step : ∀ before behind before' behind', lowerWithin before behind text =
      lowerWithin before' behind' text := by
    induction text with
    | nil => exact fun _ _ _ _ => rfl
    | cons c rest ih =>
      intro before behind before' behind'
      have other : c ≠ 'Σ' := fun same => noSigma (same ▸ List.mem_cons_self)
      have later := ih fun inside => noSigma (List.mem_cons_of_mem _ inside)
      rw [lowerWithin, lowerWithin, lowerAt, lowerAt, if_neg other, if_neg other, later]
  exact step before behind [] []

/-- Behind a letter and before characters that are looked through, what follows these decides about the form of
the sigma alone. -/
theorem lowerWithin_sigma {front through : Text} (behind : Text) (cased : nextIsCased front.reverse = true)
    (ignorable : ∀ c ∈ through, isCaseIgnorable c = true) :
    lowerWithin [] behind (front ++ 'Σ' :: through) =
      lowerWithin [] ['Σ'] front ++
        (if nextIsCased behind then 'σ' else 'ς') :: lowerWithin [] [] through := by
  have sigma : isCaseIgnorable 'Σ' = false := by decide +kernel
  have noSigma : 'Σ' ∉ through := fun inside => by
    have clash := ignorable 'Σ' inside
    rw [sigma] at clash
    cases clash
  have letter : nextIsCased ('Σ' :: through ++ behind) = nextIsCased ['Σ'] := by
    rw [List.cons_append, ← List.singleton_append, nextIsCased_of_seen]
    exact fun all => by simp [sigma] at all
  have next := nextIsCased_of_through behind ignorable
  have form : lowerAt (front.reverse ++ []) 'Σ' (through ++ behind) =
      [if nextIsCased behind then 'σ' else 'ς'] := by
    rw [lowerAt, if_pos rfl, lowerSigma, List.append_nil, cased, next]
    cases nextIsCased behind <;> rfl
  rw [lowerWithin_append, lowerWithin_congr [] front letter, lowerWithin, form,
    lowerWithin_of_no_sigma _ _ noSigma, List.singleton_append]

/-- A letter behind a final sigma takes the final form away. -/
theorem count_final_lower {text : Text} (ends : endsInFinalSigma text = true) :
    (lower (text ++ ['a'])).count 'ς' < (lower text).count 'ς' := by
  obtain ⟨front, through, rfl, cased, ignorable⟩ := endsInFinalSigma_iff.mp ends
  have letter : nextIsCased ['a'] = true := by decide +kernel
  have small : lowerFrom (front ++ 'Σ' :: through).reverse ['a'] = ['a'] := by
    have lowered : lowerChar 'a' = 'a' := by decide +kernel
    rw [lowerFrom_cons, lowerAt, if_neg (by decide), if_neg (by decide), lowered]
    rfl
  have final := lowerWithin_sigma [] cased ignorable
  have open' := lowerWithin_sigma ['a'] cased ignorable
  rw [if_neg (by decide)] at final
  rw [if_pos letter] at open'
  rw [lower_append, small, lower_eq_lowerWithin, final, open']
  simp only [List.count_append, List.count_cons, List.count_nil]
  have differs : ('σ' == 'ς') = false ∧ ('a' == 'ς') = false := by decide
  simp only [differs, beq_self_eq_true, if_true, Bool.false_eq_true, if_false]
  omega

end QueryCompletion.Text
