import Mathlib.Data.List.Basic
import QueryCompletion.Token.Lexer

/-!
What the single rules accept. A rule that stays within the first `n` characters of a text accepts as
much of these characters alone, and every rule but those for blanks and strings accepts characters
of one class.
-/

namespace QueryCompletion.Lexer

theorem runLength_le_length (member : Char → Bool) (text : Text) :
    runLength member text ≤ text.length := by
  induction text with
  | nil => simp [runLength]
  | cons c rest ih =>
    unfold runLength
    split <;> simp only [List.length_cons] <;> omega

theorem runLength_take (member : Char → Bool) (text : Text) (n : Nat) :
    runLength member (text.take n) = min n (runLength member text) := by
  induction text generalizing n with
  | nil => simp [runLength]
  | cons c rest ih =>
    cases n with
    | zero => simp [runLength]
    | succ n =>
      simp only [List.take_succ_cons, runLength]
      split
      · rw [ih]; omega
      · simp

theorem mem_take_runLength {member : Char → Bool} {text : Text} {c : Char}
    (inside : c ∈ text.take (runLength member text)) : member c = true := by
  induction text with
  | nil => simp at inside
  | cons d rest ih =>
    unfold runLength at inside
    split at inside
    · rename_i accepted
      rcases List.mem_cons.mp inside with same | later
      · rw [same]; exact accepted
      · exact ih later
    · simp at inside

theorem runLength_append {member : Char → Bool} {run : Text} (rest : Text)
    (accepted : ∀ c ∈ run, member c = true) :
    runLength member (run ++ rest) = run.length + runLength member rest := by
  induction run with
  | nil => simp
  | cons c run ih =>
    have first := accepted c List.mem_cons_self
    have others := ih fun d inside => accepted d (List.mem_cons_of_mem _ inside)
    simp only [List.cons_append, runLength, first, if_true, others, List.length_cons]
    omega

theorem wordLength_take {word text : Text} {n : Nat} (fits : wordLength word text ≤ n) :
    wordLength word (text.take n) = wordLength word text := by
  unfold wordLength at *
  simp only [List.isPrefixOf_iff_prefix, List.prefix_take_iff] at *
  by_cases starts : word <+: text
  · rw [if_pos starts] at fits
    rw [if_pos starts, if_pos ⟨starts, fits⟩]
  · rw [if_neg starts, if_neg (fun both => starts both.1)]

/-- A word of which the first character is another one is not there. -/
theorem wordLength_of_ne {w c : Char} (word text : Text) (differs : w ≠ c) :
    wordLength (w :: word) (c :: text) = 0 := by
  simp [wordLength, List.isPrefixOf, differs]

theorem wordLength_le (word text : Text) : wordLength word text ≤ word.length := by
  unfold wordLength
  split <;> omega

theorem take_wordLength {word text : Text} (found : 0 < wordLength word text) :
    text.take (wordLength word text) = word := by
  unfold wordLength at *
  split at found
  · rename_i starts
    rw [if_pos starts]
    exact (List.prefix_iff_eq_take.mp (List.isPrefixOf_iff_prefix.mp starts)).symm
  · omega

/-- Characters of the tokens longer than one character, strings apart. -/
def isSolid (c : Char) : Bool :=
  isNamePart c || c == '.' || c == '-' || c == '+' || c == '!' || c == '=' || c == '>' || c == '<' ||
    c == '~'

theorem isSolid_of_isNamePart {c : Char} (part : isNamePart c = true) : isSolid c = true := by
  simp [isSolid, part]

theorem isSolid_of_isDigit {c : Char} (digit : isDigit c = true) : isSolid c = true :=
  isSolid_of_isNamePart (by simp [isNamePart, digit])

theorem naturalLength_take (text : Text) (n : Nat) :
    naturalLength (text.take n) = min n (naturalLength text) := by
  cases text with
  | nil => simp [naturalLength]
  | cons c rest =>
    cases n with
    | zero => simp [naturalLength]
    | succ n =>
      simp only [List.take_succ_cons, naturalLength]
      split
      · omega
      · split
        · rw [runLength_take]; omega
        · simp

theorem mem_take_naturalLength {text : Text} {c : Char}
    (inside : c ∈ text.take (naturalLength text)) : isDigit c = true := by
  cases text with
  | nil => simp at inside
  | cons d rest =>
    simp only [naturalLength] at inside
    split at inside
    · rename_i zero
      rcases List.mem_cons.mp inside with same | later
      · rw [same, zero]; rfl
      · simp at later
    · split at inside
      · rename_i digit
        rcases List.mem_cons.mp inside with same | later
        · rw [same]; exact digit
        · exact mem_take_runLength later
      · simp at inside

theorem intLength_cons_of_ne {c : Char} (rest : Text) (unsigned : c ≠ '-') :
    intLength (c :: rest) = naturalLength (c :: rest) := by
  unfold intLength
  split
  · rename_i same
    exact absurd (List.cons.inj same).1 unsigned
  · rfl

theorem intLength_minus (rest : Text) :
    intLength ('-' :: rest) = if naturalLength rest = 0 then 0 else naturalLength rest + 1 := rfl

/-- Of the characters of an integer alone all are accepted, or none when only the sign is left. -/
theorem intLength_take_cases (text : Text) (n : Nat) :
    intLength (text.take n) = min n (intLength text) ∨
      n < intLength text ∧ intLength (text.take n) = 0 := by
  cases text with
  | nil => simp [intLength, naturalLength]
  | cons c rest =>
    cases n with
    | zero => simp [intLength, naturalLength]
    | succ n =>
      by_cases sign : c = '-'
      · subst sign
        simp only [List.take_succ_cons, intLength_minus, naturalLength_take]
        split <;> split <;> omega
      · rw [List.take_succ_cons, intLength_cons_of_ne _ sign, intLength_cons_of_ne _ sign,
          ← List.take_succ_cons, naturalLength_take]
        exact Or.inl rfl

theorem intLength_take {text : Text} {n : Nat} (fits : intLength text ≤ n) :
    intLength (text.take n) = intLength text := by
  rcases intLength_take_cases text n with all | ⟨beyond, _⟩ <;> omega

theorem mem_take_intLength {text : Text} {c : Char} (inside : c ∈ text.take (intLength text)) :
    c = '-' ∨ isDigit c = true := by
  cases text with
  | nil => simp at inside
  | cons d rest =>
    by_cases sign : d = '-'
    · subst sign
      rw [intLength_minus] at inside
      split at inside
      · simp at inside
      · rcases List.mem_cons.mp inside with same | later
        · exact Or.inl same
        · exact Or.inr (mem_take_naturalLength later)
    · rw [intLength_cons_of_ne _ sign] at inside
      exact Or.inr (mem_take_naturalLength inside)

theorem fractionLength_dot (rest : Text) :
    fractionLength ('.' :: rest) =
      if runLength isDigit rest = 0 then 0 else runLength isDigit rest + 1 := rfl

theorem fractionLength_cons_of_ne {c : Char} (rest : Text) (other : c ≠ '.') :
    fractionLength (c :: rest) = 0 := by
  unfold fractionLength
  split
  · rename_i same
    exact absurd (List.cons.inj same).1 other
  · rfl

theorem fractionLength_take {text : Text} {n : Nat} (fits : fractionLength text ≤ n) :
    fractionLength (text.take n) = fractionLength text := by
  cases text with
  | nil => simp
  | cons c rest =>
    cases n with
    | zero => exact (Nat.le_zero.mp fits).symm
    | succ n =>
      rw [List.take_succ_cons]
      by_cases point : c = '.'
      · subst point
        rw [fractionLength_dot] at fits
        simp only [fractionLength_dot, runLength_take]
        split at fits <;> split <;> omega
      · rw [fractionLength_cons_of_ne _ point, fractionLength_cons_of_ne _ point]

theorem exponentLength_take {text : Text} {n : Nat} (fits : exponentLength text ≤ n) :
    exponentLength (text.take n) = exponentLength text := by
  cases text with
  | nil => simp
  | cons c rest =>
    cases n with
    | zero => exact (Nat.le_zero.mp fits).symm
    | succ n =>
      simp only [List.take_succ_cons, exponentLength] at *
      by_cases mark : (c = 'e' || c = 'E') = true
      · simp only [mark, if_true] at *
        have sign : n = 0 ∨ signLength (rest.take n) = signLength rest := by
          cases rest with
          | nil => simp
          | cons d others =>
            cases n with
            | zero => exact Or.inl rfl
            | succ n => exact Or.inr rfl
        rcases sign with none | same
        · subst none
          simp only [List.take_zero, List.drop_nil, runLength, if_true]
          split at fits <;> rename_i digits
          · rw [if_pos digits]
          · omega
        · rw [same, List.drop_take, runLength_take]
          split at fits <;> split <;> omega
      · simp only [mark, Bool.false_eq_true, if_false]

theorem intLength_le_length (text : Text) : intLength text ≤ text.length := by
  rcases intLength_take_cases text text.length with all | ⟨_, none⟩ <;> rw [List.take_length] at * <;> omega

theorem fractionLength_le_length (text : Text) : fractionLength text ≤ text.length := by
  cases text with
  | nil => simp [fractionLength]
  | cons c rest =>
    have digits := runLength_le_length isDigit rest
    unfold fractionLength
    split
    · rename_i same
      cases same
      rw [List.length_cons]
      split <;> omega
    · omega

theorem exponentLength_le_length (text : Text) : exponentLength text ≤ text.length := by
  cases text with
  | nil => simp [exponentLength]
  | cons c rest =>
    have digits := runLength_le_length isDigit (rest.drop (signLength rest))
    rw [List.length_drop] at digits
    simp only [exponentLength, List.length_cons]
    split
    · split <;> omega
    · omega

theorem floatLength_eq (text : Text) :
    floatLength text =
      if intLength text = 0 ∨
          fractionLength (text.drop (intLength text)) +
            exponentLength (text.drop (intLength text + fractionLength (text.drop (intLength text)))) = 0
      then 0
      else intLength text + fractionLength (text.drop (intLength text)) +
        exponentLength (text.drop (intLength text + fractionLength (text.drop (intLength text)))) := by
  simp only [floatLength]
  split
  · rw [if_pos (Or.inl ‹_›)]
  · split
    · rw [if_pos (Or.inr ‹_›)]
    · rw [if_neg (by omega)]

theorem floatLength_le_length (text : Text) : floatLength text ≤ text.length := by
  have whole := intLength_le_length text
  have fraction := fractionLength_le_length (text.drop (intLength text))
  have exponent :=
    exponentLength_le_length (text.drop (intLength text + fractionLength (text.drop (intLength text))))
  rw [List.length_drop] at fraction exponent
  rw [floatLength_eq]
  split <;> omega

theorem floatLength_take {text : Text} {n : Nat} (fits : floatLength text ≤ n) :
    floatLength (text.take n) = floatLength text := by
  by_cases whole : intLength text ≤ n
  · have parts : fractionLength (text.drop (intLength text)) ≤ n - intLength text ∧
        exponentLength (text.drop (intLength text + fractionLength (text.drop (intLength text)))) ≤
          n - (intLength text + fractionLength (text.drop (intLength text))) ∨ intLength text = 0 := by
      rw [floatLength_eq] at fits
      split at fits <;> omega
    rcases parts with ⟨fraction, exponent⟩ | none
    · simp only [floatLength_eq, intLength_take whole, List.drop_take, fractionLength_take fraction,
        exponentLength_take exponent]
    · rw [floatLength_eq, floatLength_eq, intLength_take whole, if_pos (Or.inl none),
        if_pos (Or.inl none)]
  · have zero : floatLength text = 0 := by
      rw [floatLength_eq] at *
      split at fits <;> split <;> omega
    rw [zero, floatLength_eq]
    rcases intLength_take_cases text n with all | ⟨_, none⟩
    · have end' : intLength (text.take n) = n := by omega
      rw [end', List.drop_take, List.drop_take]
      simp [fractionLength, exponentLength]
    · rw [if_pos (Or.inl none)]

/-- The text from an offset on where a character stands. -/
theorem drop_eq_cons {text : Text} {position : Nat} {c : Char} (atStart : text[position]? = some c) :
    text.drop position = c :: text.drop (position + 1) := by
  obtain ⟨within, same⟩ := List.getElem?_eq_some_iff.mp atStart
  rw [List.drop_eq_getElem_cons within, same]

theorem mem_take_of_getElem? {text : Text} {i n : Nat} {c : Char} (below : i < n)
    (atIndex : text[i]? = some c) : c ∈ text.take n :=
  List.mem_of_getElem? (by rw [List.getElem?_take_of_lt below]; exact atIndex)

theorem mem_take_fractionLength {text : Text} {c : Char}
    (inside : c ∈ text.take (fractionLength text)) : c = '.' ∨ isDigit c = true := by
  cases text with
  | nil => simp at inside
  | cons d rest =>
    by_cases point : d = '.'
    · subst point
      rw [fractionLength_dot] at inside
      split at inside
      · simp at inside
      · rcases List.mem_cons.mp inside with same | later
        · exact Or.inl same
        · exact Or.inr (mem_take_runLength later)
    · rw [fractionLength_cons_of_ne _ point] at inside
      simp at inside

theorem mem_take_exponentLength {text : Text} {c : Char}
    (inside : c ∈ text.take (exponentLength text)) :
    c = 'e' ∨ c = 'E' ∨ c = '+' ∨ c = '-' ∨ isDigit c = true := by
  cases text with
  | nil => simp at inside
  | cons d rest =>
    simp only [exponentLength] at inside
    split at inside
    · rename_i mark
      split at inside
      · simp at inside
      · rw [List.take_succ_cons, Nat.add_comm, List.take_add] at inside
        rcases List.mem_cons.mp inside with same | later
        · simp only [Bool.or_eq_true, decide_eq_true_eq] at mark
          rw [same]
          exact mark.imp_right Or.inl
        · rcases List.mem_append.mp later with sign | digits
          · cases rest with
            | nil => simp at sign
            | cons e others =>
              simp only [signLength] at sign
              split at sign
              · rename_i isSign
                obtain rfl : c = e := by simpa using sign
                simp only [Bool.or_eq_true, decide_eq_true_eq] at isSign
                exact Or.inr (Or.inr (isSign.imp_right Or.inl))
              · simp at sign
          · exact Or.inr (Or.inr (Or.inr (Or.inr (mem_take_runLength digits))))
    · simp at inside

/-- The parts of a number with a fraction or an exponent. -/
theorem take_floatLength {text : Text} (found : 0 < floatLength text) :
    text.take (floatLength text) =
      text.take (intLength text) ++
        ((text.drop (intLength text)).take (fractionLength (text.drop (intLength text))) ++
          (text.drop (intLength text + fractionLength (text.drop (intLength text)))).take
            (exponentLength
              (text.drop (intLength text + fractionLength (text.drop (intLength text)))))) := by
  have length := floatLength_eq text
  split at length
  · omega
  · rw [length, List.take_add, List.take_add, List.append_assoc]

theorem mem_take_floatLength {text : Text} {c : Char}
    (inside : c ∈ text.take (floatLength text)) : isSolid c = true := by
  by_cases found : 0 < floatLength text
  · rw [take_floatLength found] at inside
    simp only [List.mem_append] at inside
    rcases inside with whole | fraction | exponent
    · rcases mem_take_intLength whole with sign | digit
      · rw [sign]; rfl
      · exact isSolid_of_isDigit digit
    · rcases mem_take_fractionLength fraction with point | digit
      · rw [point]; rfl
      · exact isSolid_of_isDigit digit
    · rcases mem_take_exponentLength exponent with small | capital | plus | minus | digit
      · rw [small]; rfl
      · rw [capital]; rfl
      · rw [plus]; rfl
      · rw [minus]; rfl
      · exact isSolid_of_isDigit digit
  · rw [Nat.eq_zero_of_not_pos found] at inside
    simp at inside

/-- The only point of a fraction is its first character, and a digit follows. -/
theorem digit_behind_fraction {text : Text} {i : Nat} (inside : i < fractionLength text)
    (point : text[i]? = some '.') : ∃ d, text[i + 1]? = some d ∧ isDigit d = true := by
  cases text with
  | nil => cases point
  | cons c others =>
    obtain rfl : c = '.' := by
      by_contra other
      rw [fractionLength_cons_of_ne _ other] at inside
      cases inside
    rw [fractionLength_dot] at inside
    split at inside
    · cases inside
    rename_i digits
    cases i with
    | zero =>
      cases others with
      | nil => simp [runLength] at digits
      | cons d more =>
        have first : d ∈ (d :: more).take (runLength isDigit (d :: more)) :=
          mem_take_of_getElem? (i := 0) (Nat.pos_of_ne_zero digits) rfl
        exact ⟨d, rfl, mem_take_runLength first⟩
    | succ j =>
      rw [List.getElem?_cons_succ] at point
      have digit : isDigit '.' = true := mem_take_runLength (mem_take_of_getElem? (by omega) point)
      cases digit

/-- The point of a number stands before a digit. -/
theorem digit_behind_point {text : Text} {i : Nat} (inside : i < floatLength text)
    (point : text[i]? = some '.') : ∃ d, text[i + 1]? = some d ∧ isDigit d = true := by
  have length := floatLength_eq text
  split at length
  · omega
  generalize whole : intLength text = w at *
  generalize fraction : fractionLength (text.drop w) = f at *
  generalize exponent : exponentLength (text.drop (w + f)) = e at *
  by_cases inWhole : i < w
  · have char := mem_take_intLength (whole ▸ mem_take_of_getElem? inWhole point)
    simp [isDigit] at char
  by_cases inFraction : i < w + f
  · have place : w + (i - w) = i := by omega
    have inside' : i - w < fractionLength (text.drop w) := by omega
    obtain ⟨d, behind, digit⟩ := digit_behind_fraction inside' (by rw [List.getElem?_drop, place]; exact point)
    rw [List.getElem?_drop, ← Nat.add_assoc, place] at behind
    exact ⟨d, behind, digit⟩
  · have char : '.' ∈ (text.drop (w + f)).take (exponentLength (text.drop (w + f))) := by
      refine mem_take_of_getElem? (i := i - (w + f)) (by omega) ?_
      rw [List.getElem?_drop, show w + f + (i - (w + f)) = i by omega]
      exact point
    have := mem_take_exponentLength char
    simp [isDigit] at this

end QueryCompletion.Lexer
