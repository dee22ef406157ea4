import QueryCompletion.Proofs.Text.Settled

/-!
Words that stand in a text in lower case and are not found in it letter by letter. Every character has one character
in lower case, but for the dotted capital I: its lower case is an i and a combining dot, so a word in lower case may
stand in a text in lower case across the characters of both.
-/

namespace QueryCompletion.Text

/-- A dotted capital I and an i with a combining dot are the same in lower case. A word has one spelling if no i in
it takes a dot and nothing but dots follows a dotted capital I. -/
def hasOneSpelling : Text → Bool
  | [] => true
  | c :: rest =>
    if c = 'İ' then rest.all (· == dotAbove)
    else !((c == 'i' || c == 'I') && rest.head? == some dotAbove) && hasOneSpelling rest

/-- Settling sigmas changes no spelling. -/
theorem hasOneSpelling_settleFrom (before word : Text) :
    hasOneSpelling (settleFrom before word) = hasOneSpelling word := by
  have same (other : Char) (apart : other ∉ ['Σ', 'ς', 'σ']) (before : Text) (c : Char) (rest : Text) :
      (settleSigma before c rest == other) = (c == other) := by
    rw [Bool.eq_iff_iff, beq_iff_eq, beq_iff_eq, settleSigma_eq_iff before c rest apart]
  have dots (before word : Text) : (settleFrom before word).all (· == dotAbove) = word.all (· == dotAbove) := by
    induction word generalizing before with
    | nil => rfl
    | cons c rest ih => rw [settleFrom, List.all_cons, List.all_cons, same dotAbove (by decide), ih]
  induction word generalizing before with
  | nil => rfl
  | cons c rest ih =>
    have first : ((settleFrom (c :: before) rest).head? == some dotAbove) = (rest.head? == some dotAbove) := by
      cases rest with
      | nil => rfl
      | cons d rest => exact same dotAbove (by decide) (c :: before) d rest
    rw [settleFrom, hasOneSpelling, hasOneSpelling, dots, ih, first, same 'i' (by decide), same 'I' (by decide)]
    simp only [settleSigma_eq_iff before c rest (show 'İ' ∉ ['Σ', 'ς', 'σ'] by decide)]

theorem lowerAlone_ne_nil (c : Char) : lowerAlone c ≠ [] := by
  unfold lowerAlone
  split <;> exact List.cons_ne_nil _ _

theorem dot_of_lowerAlone {c : Char} {rest : Text} (dotted : lowerAlone c = dotAbove :: rest) : c = dotAbove := by
  unfold lowerAlone at dotted
  split at dotted
  · exact absurd (List.cons.inj dotted).1 (by decide)
  · exact eq_dotAbove_of_lowerChar (List.cons.inj dotted).1

/-- A word begins with a dot if it does so in lower case. -/
theorem dot_of_starts {c : Char} {word rest : Text}
    (starts : (c :: word).flatMap lowerAlone <+: dotAbove :: rest) : c = dotAbove := by
  obtain ⟨first, more, lowered⟩ := List.exists_cons_of_ne_nil (lowerAlone_ne_nil c)
  rw [List.flatMap_cons, lowered] at starts
  rw [(List.cons_prefix_cons.mp starts).1] at lowered
  exact dot_of_lowerAlone lowered

/-- A part of a text in lower case begins with a character of the text or with the dot that a dotted capital I
leaves. -/
theorem append_eq_flatMap {front rest text : Text} (whole : front ++ rest = text.flatMap lowerAlone) :
    (∃ tail, tail <:+ text ∧ rest = tail.flatMap lowerAlone) ∨
      ∃ init tail, text = init ++ 'İ' :: tail ∧ front = init.flatMap lowerAlone ++ ['i'] ∧
        rest = dotAbove :: tail.flatMap lowerAlone := by
  induction text generalizing front with
  | nil => exact Or.inl ⟨[], List.suffix_refl _, (List.append_eq_nil_iff.mp whole).2⟩
  | cons c text ih =>
    rw [List.flatMap_cons] at whole
    rcases List.append_eq_append_iff.mp whole with ⟨cut, here, behind⟩ | ⟨later, before, behind⟩
    · -- The part begins within the lower case of this character.
      cases front with
      | nil => exact Or.inl ⟨c :: text, List.suffix_refl _, whole⟩
      | cons first front =>
        by_cases dotted : c = 'İ'
        · subst dotted
          obtain ⟨letter, dot⟩ := List.cons.inj here
          cases front with
          | nil =>
            have rest' : cut = [dotAbove] := dot.symm
            exact Or.inr ⟨[], text, rfl, by rw [← letter]; rfl, by rw [behind, rest']; rfl⟩
          | cons second front =>
            have end' := (List.append_eq_nil_iff.mp (List.cons.inj dot).2.symm).2
            exact Or.inl ⟨text, List.suffix_cons _ text, by rw [behind, end', List.nil_append]⟩
        · rw [lowerAlone_of_ne dotted] at here
          have end' := (List.append_eq_nil_iff.mp (List.cons.inj here).2.symm).2
          exact Or.inl ⟨text, List.suffix_cons c text, by rw [behind, end', List.nil_append]⟩
    · rcases ih behind.symm with ⟨tail, inside, lowered⟩ | ⟨init, tail, split, upTo, lowered⟩
      · exact Or.inl ⟨tail, inside.trans (List.suffix_cons c text), lowered⟩
      · refine Or.inr ⟨c :: init, tail, by rw [split, List.cons_append], ?_, lowered⟩
        rw [before, upTo, List.flatMap_cons, List.append_assoc]

theorem sameLetter_of_lowerAlone {c d : Char} {rest behind : Text} (plain : c ≠ 'İ') (plain' : d ≠ 'İ')
    (starts : lowerAlone c ++ rest <+: lowerAlone d ++ behind) : sameLetter c d = true ∧ rest <+: behind := by
  rw [lowerAlone_of_ne plain, lowerAlone_of_ne plain'] at starts
  obtain ⟨same, later⟩ := List.cons_prefix_cons.mp starts
  exact ⟨sameLetter_of_lowerChar_eq same, later⟩

/-- Without dotted capitals a word is found letter by letter wherever its lower case stands. -/
theorem startsBy_of_undotted {word text : Text} (undotted : 'İ' ∉ word) (undotted' : 'İ' ∉ text)
    (starts : word.flatMap lowerAlone <+: text.flatMap lowerAlone) : startsBy sameLetter word text = true := by
  induction word generalizing text with
  | nil => rfl
  | cons c word ih =>
    obtain ⟨plain, later⟩ := List.ne_and_not_mem_of_not_mem_cons undotted
    cases text with
    | nil =>
      rw [List.flatMap_cons, lowerAlone_of_ne (Ne.symm plain)] at starts
      exact absurd (List.prefix_nil.mp starts) (List.cons_ne_nil _ _)
    | cons d text =>
      obtain ⟨plain', later'⟩ := List.ne_and_not_mem_of_not_mem_cons undotted'
      obtain ⟨same, behind⟩ := sameLetter_of_lowerAlone (Ne.symm plain) (Ne.symm plain') starts
      rw [startsBy, same, ih later later' behind]
      rfl

theorem lowerAlone_dotAbove : lowerAlone dotAbove = [dotAbove] := by decide

/-- Dots are in lower case. -/
theorem flatMap_of_dots {word : Text} (dots : ∀ c ∈ word, c = dotAbove) : word.flatMap lowerAlone = word := by
  induction word with
  | nil => rfl
  | cons c word ih =>
    obtain ⟨here, later⟩ := List.forall_mem_cons.mp dots
    rw [List.flatMap_cons, here, lowerAlone_dotAbove, ih later, List.singleton_append]

theorem dots_starts_more {word : Text} (dots : ∀ c ∈ word, c = dotAbove) : word <+: dotAbove :: word := by
  induction word with
  | nil => exact List.nil_prefix
  | cons c word ih =>
    obtain ⟨here, later⟩ := List.forall_mem_cons.mp dots
    exact List.cons_prefix_cons.mpr ⟨here, here ▸ ih later⟩

/-- Dots in lower case are dots of the text. -/
theorem startsBy_of_dots {word text : Text} (dots : ∀ c ∈ word, c = dotAbove)
    (starts : word <+: text.flatMap lowerAlone) : startsBy sameLetter word text = true := by
  induction word generalizing text with
  | nil => rfl
  | cons c word ih =>
    obtain ⟨here, later⟩ := List.forall_mem_cons.mp dots
    subst here
    cases text with
    | nil => exact absurd (List.prefix_nil.mp starts) (List.cons_ne_nil _ _)
    | cons d text =>
      obtain ⟨first, more, lowered⟩ := List.exists_cons_of_ne_nil (lowerAlone_ne_nil d)
      rw [List.flatMap_cons, lowered] at starts
      rw [← (List.cons_prefix_cons.mp starts).1] at lowered starts
      have dot := dot_of_lowerAlone lowered
      subst dot
      obtain rfl : more = [] := (List.cons.inj (lowerAlone_dotAbove.symm.trans lowered)).2.symm
      rw [startsBy, sameLetter_of_lowerChar_eq rfl, ih later (List.cons_prefix_cons.mp starts).2]
      rfl

/-- A dotted capital with dots behind it: there may be one dot less behind it than in the text. -/
theorem startsBy_of_dotted {d : Char} {word text : Text} (dots : ∀ c ∈ word, c = dotAbove)
    (starts : lowerAlone 'İ' ++ word.flatMap lowerAlone <+: lowerAlone d ++ text.flatMap lowerAlone) :
    startsBy sameLetter ('İ' :: word) (d :: text) = true := by
  rw [flatMap_of_dots dots] at starts
  rw [startsBy, Bool.and_eq_true]
  by_cases dotted : d = 'İ'
  · subst dotted
    exact ⟨sameLetter_of_lowerChar_eq rfl, startsBy_of_dots dots ((List.prefix_append_right_inj _).mp starts)⟩
  · rw [lowerAlone_of_ne dotted] at starts
    obtain ⟨letter, behind⟩ := List.cons_prefix_cons.mp starts
    exact ⟨(sameLetter_dotted letter.symm).2, startsBy_of_dots dots ((dots_starts_more dots).trans behind)⟩

/-- A word that begins by half of a dotted capital goes on with its dot. -/
theorem cases_of_starts_dotted {c : Char} {word text : Text} (plain : c ≠ 'İ')
    (starts : lowerAlone c ++ word.flatMap lowerAlone <+: lowerAlone 'İ' ++ text.flatMap lowerAlone) :
    lowerChar c = 'i' ∧ (word = [] ∨ (c = 'i' ∨ c = 'I') ∧ word.head? = some dotAbove) := by
  rw [lowerAlone_of_ne plain] at starts
  obtain ⟨letter, behind⟩ := List.cons_prefix_cons.mp starts
  refine ⟨letter, ?_⟩
  cases word with
  | nil => exact Or.inl rfl
  | cons d word =>
    refine Or.inr ⟨?_, congrArg some (dot_of_starts behind)⟩
    rcases cases_of_lowerChar_i letter with small | capital | dotted
    · exact Or.inl small
    · exact Or.inr capital
    · exact absurd dotted plain

/-- A word with one spelling is found letter by letter wherever its lower case stands. -/
theorem startsBy_of_flatMap {word text : Text} (spelled : hasOneSpelling word = true)
    (starts : word.flatMap lowerAlone <+: text.flatMap lowerAlone) : startsBy sameLetter word text = true := by
  induction word generalizing text with
  | nil => rfl
  | cons c word ih =>
    cases text with
    | nil =>
      rw [List.flatMap_cons] at starts
      exact absurd (List.append_eq_nil_iff.mp (List.prefix_nil.mp starts)).1 (lowerAlone_ne_nil c)
    | cons d text =>
      rw [List.flatMap_cons, List.flatMap_cons] at starts
      unfold hasOneSpelling at spelled
      split at spelled
      · rename_i dotted
        subst dotted
        exact startsBy_of_dotted (by simpa using spelled) starts
      · rename_i plain
        obtain ⟨undotted, later⟩ := Bool.and_eq_true_iff.mp spelled
        by_cases dotted : d = 'İ'
        · subst dotted
          obtain ⟨letter, ends | ⟨vowel, dot⟩⟩ := cases_of_starts_dotted plain starts
          · rw [ends, startsBy, (sameLetter_dotted letter).1]
            rfl
          · rw [dot] at undotted
            rcases vowel with rfl | rfl <;> exact absurd undotted Bool.false_ne_true
        · obtain ⟨same, behind⟩ := sameLetter_of_lowerAlone plain dotted starts
          rw [startsBy, same, ih later behind]
          rfl

/-- The text has no place for the word: it is too short for a third one, and the word stands neither at its start
nor behind its first character. -/
structure Hides (word text : Text) : Prop where
  short : text.length ≤ word.length + 1
  start : startsBy sameLetter word text = false
  next : startsBy sameLetter word text.tail = false

namespace Hides

variable {word text : Text}

theorem cons (hides : Hides word text) (c d : Char) : Hides (c :: word) (d :: text) := by
  refine ⟨Nat.succ_le_succ hides.short, ?_, ?_⟩
  · rw [startsBy, hides.start, Bool.and_false]
  · have next := hides.next
    cases text with
    | nil => rfl
    | cons e text =>
      show startsBy sameLetter (c :: word) (e :: text) = false
      rw [startsBy, show startsBy sameLetter word text = false from next, Bool.and_false]

theorem of_shorter (shorter : text.length < word.length) : Hides word text := by
  refine ⟨Nat.le_succ_of_le shorter.le, ?_, ?_⟩
  · by_contra starts
    exact absurd (length_le_of_startsBy (by simpa using starts)) (Nat.not_le.mpr shorter)
  · by_contra starts
    have room := length_le_of_startsBy (by simpa using starts)
    rw [List.length_tail] at room
    omega

theorem nowhere (hides : Hides word text) {rest : Text} (inside : rest <:+ text) :
    startsBy sameLetter word rest = false := by
  have next := hides.next
  have short := hides.short
  cases text with
  | nil => exact List.suffix_nil.mp inside ▸ hides.start
  | cons d text =>
    rcases List.suffix_cons_iff.mp inside with rfl | inside
    · exact hides.start
    cases text with
    | nil => exact List.suffix_nil.mp inside ▸ next
    | cons e text =>
      rcases List.suffix_cons_iff.mp inside with rfl | inside
      · exact next
      by_contra starts
      have room := length_le_of_startsBy (by simpa using starts)
      have within := inside.length_le
      simp only [List.length_cons] at short
      omega

end Hides

theorem all_dots_of_startsBy {word : Text} (starts : startsBy sameLetter word (dotAbove :: word) = true) :
    ∀ c ∈ word, c = dotAbove := by
  induction word with
  | nil => exact List.forall_mem_nil _
  | cons c word ih =>
    rw [startsBy, Bool.and_eq_true] at starts
    obtain ⟨here, later⟩ := starts
    have dot := eq_dotAbove_of_sameLetter here
    exact List.forall_mem_cons.mpr ⟨dot, ih (dot ▸ later)⟩

/-- What is not all dots behind a dotted capital does not stand behind an i and a dot. -/
theorem Hides.of_dotted {word : Text} (other : word.all (· == dotAbove) = false) :
    Hides ('İ' :: word) ('i' :: dotAbove :: word) := by
  have apart : startsBy sameLetter word (dotAbove :: word) = false := by
    by_contra starts
    have dots := all_dots_of_startsBy (by simpa using starts)
    rw [List.all_eq_true.mpr fun c inside => beq_iff_eq.mpr (dots c inside)] at other
    cases other
  have undotted : sameLetter 'İ' dotAbove = false := by decide
  refine ⟨le_refl _, ?_, ?_⟩
  · rw [startsBy, apart, Bool.and_false]
  · rw [List.tail_cons, startsBy, undotted, Bool.false_and]

/-- A word with another spelling is hidden by it: the text is the same in lower case, made of the same characters
but for the place that is spelled in another way. -/
theorem exists_hides {word : Text} (spelled : hasOneSpelling word = false) :
    ∃ text, text.flatMap lowerAlone = word.flatMap lowerAlone ∧
      (∀ c ∈ text, c ∈ word ∨ c ∈ ['i', dotAbove, 'İ']) ∧ Hides word text := by
  induction word with
  | nil => cases spelled
  | cons c word ih =>
    unfold hasOneSpelling at spelled
    split at spelled
    · rename_i dotted
      subst dotted
      refine ⟨'i' :: dotAbove :: word, ?_, ?_, .of_dotted spelled⟩
      · have small : lowerAlone 'i' = ['i'] := by decide
        rw [List.flatMap_cons, List.flatMap_cons, List.flatMap_cons, small, lowerAlone_dotAbove]
        rfl
      · simp only [List.mem_cons]
        tauto
    · cases later : hasOneSpelling word with
      | false =>
        obtain ⟨text, lowered, among, hides⟩ := ih later
        refine ⟨c :: text, by rw [List.flatMap_cons, lowered, List.flatMap_cons], ?_, hides.cons c c⟩
        intro d inside
        rcases List.mem_cons.mp inside with rfl | inside
        · exact Or.inl List.mem_cons_self
        · exact (among d inside).imp_left (List.mem_cons_of_mem c)
      | true =>
        rw [later, Bool.and_true, Bool.not_eq_false', Bool.and_eq_true] at spelled
        obtain ⟨vowel, dotted⟩ := spelled
        cases word with
        | nil => cases dotted
        | cons e more =>
          have dot : e = dotAbove := by simpa using dotted
          have small : lowerAlone c = ['i'] := by
            rcases Bool.or_eq_true_iff.mp vowel with letter | letter <;> rw [beq_iff_eq.mp letter] <;> decide
          refine ⟨'İ' :: more, ?_, ?_, .of_shorter (Nat.lt_succ_self _)⟩
          · rw [List.flatMap_cons, List.flatMap_cons, List.flatMap_cons, small, dot, lowerAlone_dotAbove]
            rfl
          · simp only [List.mem_cons]
            tauto

end QueryCompletion.Text
