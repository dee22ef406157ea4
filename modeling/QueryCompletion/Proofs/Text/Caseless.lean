import Mathlib.Data.List.Infix
import QueryCompletion.Proofs.Lookup
import QueryCompletion.Text.Caseless

/-!
Search letter by letter. A word is found if some part of the text starts by it, and what counts as the same letter
is read off the partners in lower case and the table of variants.
-/

namespace QueryCompletion.Text

/-- The combining dot that a dotted capital I has in lower case. -/
def dotAbove : Char := '\u0307'

/-- The code points of the characters with a given partner. -/
def capitals (code : Nat) : List Nat :=
  lowercaseRuns.filterMap fun run =>
    let capital := ((code : Int) - run.distance).toNat
    if run.covers capital then some capital else none

theorem eq_or_mem_capitals {c small : Char} (nonzero : small.toNat ≠ 0) (lowers : lowerChar c = small) :
    c = small ∨ c.toNat ∈ capitals small.toNat := by
  unfold lowerChar at lowers
  split at lowers
  · rename_i run found
    refine Or.inr ?_
    have covers : run.covers c.toNat = true := by simpa using List.find?_some found
    have code : (c.toNat + run.distance).toNat = small.toNat := by
      rw [← lowers] at nonzero ⊢
      by_cases valid : (c.toNat + run.distance).toNat.isValidChar
      · rw [Char.ofNat, dif_pos valid]
        rfl
      · rw [Char.ofNat, dif_neg valid] at nonzero
        exact absurd rfl nonzero
    have back : ((small.toNat : Int) - run.distance).toNat = c.toNat := by omega
    refine List.mem_filterMap.mpr ⟨run, List.mem_of_find?_eq_some found, ?_⟩
    dsimp only
    rw [back, if_pos covers]
  · exact Or.inl lowers

theorem eq_dotAbove_of_lowerChar {c : Char} (lowers : lowerChar c = dotAbove) : c = dotAbove := by
  have none' : capitals dotAbove.toNat = [] := by decide
  rcases eq_or_mem_capitals (by decide) lowers with same | capital
  · exact same
  · rw [none'] at capital
    cases capital

theorem cases_of_lowerChar_i {c : Char} (lowers : lowerChar c = 'i') : c = 'i' ∨ c = 'I' ∨ c = 'İ' := by
  have two : capitals 'i'.toNat = ['I'.toNat, 'İ'.toNat] := by decide
  rcases eq_or_mem_capitals (by decide) lowers with same | capital
  · exact Or.inl same
  · rw [two] at capital
    rcases List.mem_cons.mp capital with plain | rest
    · exact Or.inr (Or.inl (Char.toNat_inj.mp plain))
    · exact Or.inr (Or.inr (Char.toNat_inj.mp (List.mem_singleton.mp rest)))

/-- Characters listed as variants stand in a row of the table. -/
theorem exists_mem_letterVariants {code variant : Nat}
    (listed : variant ∈ (letterVariants.lookup code).getD []) :
    ∃ row ∈ letterVariants, row.1 = code ∧ variant ∈ row.2 := by
  cases found : letterVariants.lookup code with
  | none =>
    rw [found] at listed
    cases listed
  | some variants =>
    rw [found] at listed
    exact ⟨(code, variants), mem_of_lookup found, rfl, listed⟩

theorem sameLetter_iff {c d : Char} :
    sameLetter c d = true ↔
      lowerChar d = lowerChar c ∨ (lowerChar d).toNat ∈ (letterVariants.lookup (lowerChar c).toNat).getD [] := by
  simp [sameLetter]

theorem sameLetter_of_lowerChar_eq {c d : Char} (same : lowerChar c = lowerChar d) : sameLetter c d = true :=
  sameLetter_iff.mpr (Or.inl same.symm)

/-- Only the dot itself is read as a dot. -/
theorem eq_dotAbove_of_sameLetter {c : Char} (same : sameLetter c dotAbove = true) : c = dotAbove := by
  have lowered : lowerChar dotAbove = dotAbove := by decide
  rcases sameLetter_iff.mp same with partner | listed
  · exact eq_dotAbove_of_lowerChar (partner.symm.trans lowered)
  · have never : ∀ row ∈ letterVariants, dotAbove.toNat ∉ row.2 := by decide
    obtain ⟨row, inside, _, variant⟩ := exists_mem_letterVariants listed
    rw [lowered] at variant
    exact absurd variant (never row inside)

theorem sameLetter_dotted {c : Char} (lowers : lowerChar c = 'i') :
    sameLetter c 'İ' = true ∧ sameLetter 'İ' c = true := by
  have dotted : lowerChar 'İ' = 'i' := by decide
  exact ⟨sameLetter_of_lowerChar_eq (lowers.trans dotted.symm), sameLetter_of_lowerChar_eq (dotted.trans lowers.symm)⟩

/-- The small sigmas are variants of one another and of no other letter. -/
theorem sameLetter_sigma (c : Char) : sameLetter c 'ς' = sameLetter c 'σ' := by
  have lowered : lowerChar 'ς' = 'ς' ∧ lowerChar 'σ' = 'σ' := by decide
  have final : ∀ row ∈ letterVariants, 'ς'.toNat ∈ row.2 → row.1 = 'σ'.toNat := by decide
  have open' : ∀ row ∈ letterVariants, 'σ'.toNat ∈ row.2 → row.1 = 'ς'.toNat := by decide
  have listed : 'ς'.toNat ∈ (letterVariants.lookup 'σ'.toNat).getD [] ∧
      'σ'.toNat ∈ (letterVariants.lookup 'ς'.toNat).getD [] := by decide
  rw [Bool.eq_iff_iff, sameLetter_iff, sameLetter_iff, lowered.1, lowered.2]
  constructor
  · rintro (same | variant)
    · exact Or.inr (same ▸ listed.2)
    · obtain ⟨row, inside, code, member⟩ := exists_mem_letterVariants variant
      exact Or.inl (Char.toNat_inj.mp ((final row inside member).symm.trans code))
  · rintro (same | variant)
    · exact Or.inr (same ▸ listed.1)
    · obtain ⟨row, inside, code, member⟩ := exists_mem_letterVariants variant
      exact Or.inl (Char.toNat_inj.mp ((open' row inside member).symm.trans code))

theorem sigma_sameLetter (d : Char) : sameLetter 'ς' d = sameLetter 'σ' d := by
  have lowered : lowerChar 'ς' = 'ς' ∧ lowerChar 'σ' = 'σ' := by decide
  have listed : (letterVariants.lookup 'σ'.toNat).getD [] = ['ς'.toNat] ∧
      (letterVariants.lookup 'ς'.toNat).getD [] = ['σ'.toNat] := by decide
  rw [Bool.eq_iff_iff, sameLetter_iff, sameLetter_iff, lowered.1, lowered.2, listed.1, listed.2,
    List.mem_singleton, List.mem_singleton, Char.toNat_inj, Char.toNat_inj]
  exact or_comm

theorem startsBy_beq (word text : Text) : startsBy (· == ·) word text = word.isPrefixOf text := by
  induction word generalizing text with
  | nil => rfl
  | cons w word ih =>
    cases text with
    | nil => rfl
    | cons c text => rw [startsBy, ih, List.isPrefixOf]

theorem length_le_of_startsBy {same : Char → Char → Bool} {word text : Text}
    (starts : startsBy same word text = true) : word.length ≤ text.length := by
  induction word generalizing text with
  | nil => exact Nat.zero_le _
  | cons w word ih =>
    cases text with
    | nil => cases starts
    | cons c text =>
      rw [startsBy, Bool.and_eq_true] at starts
      exact Nat.succ_le_succ (ih starts.2)

/-- There is an occurrence if any part of the text starts by the word. -/
theorem occurrencesFrom_ne_nil_iff {same : Char → Char → Bool} {word text : Text} (some' : word ≠ [])
    (position : Nat) :
    occurrencesFrom same word position 0 text ≠ [] ↔ ∃ rest, rest <:+ text ∧ startsBy same word rest = true := by
  induction text generalizing position with
  | nil =>
    constructor
    · exact fun occurs => absurd rfl occurs
    · rintro ⟨rest, inside, starts⟩
      rw [List.suffix_nil.mp inside] at starts
      exact absurd (List.length_eq_zero_iff.mp (Nat.le_zero.mp (length_le_of_startsBy starts))) some'
  | cons c text ih =>
    rw [occurrencesFrom]
    split
    · rename_i starts
      exact ⟨fun _ => ⟨c :: text, List.suffix_refl _, starts⟩, fun _ => List.cons_ne_nil _ _⟩
    · rename_i differs
      rw [ih]
      constructor
      · rintro ⟨rest, inside, starts⟩
        exact ⟨rest, inside.trans (List.suffix_cons c text), starts⟩
      · rintro ⟨rest, inside, starts⟩
        rcases List.suffix_cons_iff.mp inside with rfl | later
        · exact absurd starts differs
        · exact ⟨rest, later, starts⟩

end QueryCompletion.Text
