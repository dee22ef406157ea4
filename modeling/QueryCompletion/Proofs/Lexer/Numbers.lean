import QueryCompletion.Proofs.Lexer.Boundary
import QueryCompletion.Proofs.Text.Pieces

/-!
Numbers where the tokenizer meets a digit or a sign before one. Of the rules for integers and for numbers
with a fraction or an exponent the longer match wins, so the token takes every part that is there and all
the digits of it, and a part without digits is left to the tokens behind.
-/

namespace QueryCompletion.Lexer

/-- The digits from one offset up to another are all that stand there: no digit follows. -/
structure DigitRun (text : Text) (start stop : Nat) : Prop where
  ordered : start ≤ stop
  digits : ∀ i, start ≤ i → i < stop → ∃ c, text[i]? = some c ∧ isDigit c = true
  ends : ∀ c, text[stop]? = some c → isDigit c = false

/-- An integer without its sign: a single zero, or all the digits from another digit on. -/
inductive Unsigned (text : Text) (start : Nat) : Nat → Prop
  | zero : text[start]? = some '0' → Unsigned text start (start + 1)
  | digits {c : Char} {stop : Nat} : text[start]? = some c → isDigit c = true → c ≠ '0' →
      DigitRun text start stop → Unsigned text start stop

/-- The integer that a number begins with. -/
inductive WholePart (text : Text) (start : Nat) : Nat → Prop
  | plain {stop : Nat} : Unsigned text start stop → WholePart text start stop
  | signed {stop : Nat} : text[start]? = some '-' → Unsigned text (start + 1) stop →
      WholePart text start stop

/-- A further part of a number, where something marks it and says at which offset its digits begin: all the
digits from there on, and without a digit there no part at all. -/
inductive Extension (text : Text) (marks : Nat → Prop) (start : Nat) : Nat → Prop
  | taken {first stop : Nat} : marks first → DigitRun text first stop → first < stop →
      Extension text marks start stop
  | absent : (∀ first, marks first → DigitRun text first first) → Extension text marks start start

/-- A point, with digits right behind it. -/
def MarksFraction (text : Text) (point first : Nat) : Prop :=
  text[point]? = some '.' ∧ first = point + 1

/-- An exponent mark, with digits behind it or behind the sign that follows it. -/
def MarksExponent (text : Text) (mark first : Nat) : Prop :=
  (text[mark]? = some 'e' ∨ text[mark]? = some 'E') ∧
    if text[mark + 1]? = some '+' ∨ text[mark + 1]? = some '-' then first = mark + 2
    else first = mark + 1

/-- A number with the ends of its integer, of its fraction and of its exponent. -/
structure Number (text : Text) (start whole decimal stop : Nat) : Prop where
  integer : WholePart text start whole
  fraction : Extension text (MarksFraction text whole) whole decimal
  exponent : Extension text (MarksExponent text decimal) decimal stop

/-- A digit stands at an offset, or a minus sign and a digit. -/
def OpensNumber (text : Text) (position : Nat) : Prop :=
  (∃ c, text[position]? = some c ∧ isDigit c = true) ∨
    text[position]? = some '-' ∧ ∃ c, text[position + 1]? = some c ∧ isDigit c = true

variable {text : Text} {start stop : Nat}

theorem runLength_ends {member : Char → Bool} {text : Text} {c : Char}
    (behind : text[runLength member text]? = some c) : member c = false := by
  induction text with
  | nil => cases behind
  | cons d rest ih =>
    unfold runLength at behind
    split at behind
    · exact ih behind
    · rename_i other
      obtain rfl : d = c := by simpa using behind
      simpa using other

/-- The digits that the rules count are those that stand there. -/
theorem digitRun_iff : DigitRun text start stop ↔ stop = start + runLength isDigit (text.drop start) := by
  generalize counted : runLength isDigit (text.drop start) = length
  have bound := runLength_le_length isDigit (text.drop start)
  rw [List.length_drop, counted] at bound
  have inside : ∀ i, start ≤ i → i < start + length → ∃ c, text[i]? = some c ∧ isDigit c = true := by
    intro i lower upper
    have atIndex : text[i]? = some text[i] := List.getElem?_eq_getElem (by omega)
    have counts : text[i] ∈ (text.drop start).take (runLength isDigit (text.drop start)) := by
      refine mem_take_of_getElem? (i := i - start) (by omega) ?_
      rw [List.getElem?_drop, show start + (i - start) = i by omega, atIndex]
    exact ⟨_, atIndex, mem_take_runLength counts⟩
  have behind : ∀ c, text[start + length]? = some c → isDigit c = false := by
    intro c atEnd
    rw [← List.getElem?_drop, ← counted] at atEnd
    exact runLength_ends atEnd
  constructor
  · intro run
    rcases Nat.lt_trichotomy stop (start + length) with short | same | long
    · obtain ⟨c, atStop, digit⟩ := inside stop run.ordered short
      rw [run.ends c atStop] at digit
      cases digit
    · exact same
    · obtain ⟨c, atEnd, digit⟩ := run.digits (start + length) (Nat.le_add_right _ _) long
      rw [behind c atEnd] at digit
      cases digit
  · rintro rfl
    exact ⟨Nat.le_add_right _ _, inside, behind⟩

theorem naturalLength_zero (zero : text[start]? = some '0') : naturalLength (text.drop start) = 1 := by
  rw [drop_eq_cons zero, naturalLength, if_pos rfl]

/-- From a digit other than zero on all digits are counted. -/
theorem naturalLength_digit {c : Char} (atStart : text[start]? = some c) (digit : isDigit c = true)
    (other : c ≠ '0') : naturalLength (text.drop start) = runLength isDigit (text.drop start) := by
  rw [drop_eq_cons atStart, naturalLength, if_neg other, if_pos digit, runLength, if_pos digit]

theorem naturalLength_pos_iff :
    0 < naturalLength (text.drop start) ↔ ∃ c, text[start]? = some c ∧ isDigit c = true := by
  constructor
  · intro positive
    cases atStart : text[start]? with
    | none =>
      rw [List.drop_eq_nil_of_le (List.getElem?_eq_none_iff.mp atStart)] at positive
      cases positive
    | some c =>
      refine ⟨c, rfl, ?_⟩
      have inside : c ∈ (text.drop start).take (naturalLength (text.drop start)) :=
        mem_take_of_getElem? positive (by rw [List.getElem?_drop]; exact atStart)
      exact mem_take_naturalLength inside
  · rintro ⟨c, atStart, digit⟩
    rw [drop_eq_cons atStart, naturalLength, if_pos digit]
    split <;> omega

theorem unsigned_iff :
    Unsigned text start stop ↔
      0 < naturalLength (text.drop start) ∧ stop = start + naturalLength (text.drop start) := by
  constructor
  · rintro (zero | ⟨atStart, digit, other, run⟩)
    · exact ⟨naturalLength_pos_iff.mpr ⟨_, zero, rfl⟩, by rw [naturalLength_zero zero]⟩
    · rw [naturalLength_pos_iff, naturalLength_digit atStart digit other]
      exact ⟨⟨_, atStart, digit⟩, digitRun_iff.mp run⟩
  · rintro ⟨positive, ends⟩
    obtain ⟨c, atStart, digit⟩ := naturalLength_pos_iff.mp positive
    by_cases zero : c = '0'
    · rw [zero] at atStart
      rw [ends, naturalLength_zero atStart]
      exact .zero atStart
    · rw [naturalLength_digit atStart digit zero] at ends
      exact .digits atStart digit zero (digitRun_iff.mpr ends)

theorem intLength_signed (sign : text[start]? = some '-') :
    intLength (text.drop start) =
      if naturalLength (text.drop (start + 1)) = 0 then 0 else naturalLength (text.drop (start + 1)) + 1 := by
  rw [drop_eq_cons sign, intLength_minus]

theorem intLength_unsigned (plain : text[start]? ≠ some '-') :
    intLength (text.drop start) = naturalLength (text.drop start) := by
  cases atStart : text[start]? with
  | none =>
    rw [List.drop_eq_nil_of_le (List.getElem?_eq_none_iff.mp atStart)]
    rfl
  | some c =>
    rw [drop_eq_cons atStart]
    exact intLength_cons_of_ne _ fun same => plain (atStart.trans (congrArg some same))

/-- No integer without a sign begins with one. -/
theorem Unsigned.plain (unsigned : Unsigned text start stop) : text[start]? ≠ some '-' := by
  intro sign
  rcases unsigned with zero | ⟨atStart, digit, _, _⟩
  · cases zero.symm.trans sign
  · cases atStart.symm.trans sign
    cases digit

theorem wholePart_iff :
    WholePart text start stop ↔
      0 < intLength (text.drop start) ∧ stop = start + intLength (text.drop start) := by
  constructor
  · rintro (unsigned | ⟨sign, unsigned⟩)
    · rw [intLength_unsigned unsigned.plain]
      exact unsigned_iff.mp unsigned
    · obtain ⟨positive, ends⟩ := unsigned_iff.mp unsigned
      rw [intLength_signed sign, if_neg (Nat.ne_of_gt positive)]
      exact ⟨Nat.succ_pos _, by omega⟩
  · rintro ⟨positive, ends⟩
    by_cases sign : text[start]? = some '-'
    · rw [intLength_signed sign] at positive ends
      split at positive
      · cases positive
      · rename_i some'
        rw [if_neg some'] at ends
        exact .signed sign (unsigned_iff.mpr ⟨Nat.pos_of_ne_zero some', by omega⟩)
    · rw [intLength_unsigned sign] at positive ends
      exact .plain (unsigned_iff.mpr ⟨positive, ends⟩)

theorem opensNumber_iff : OpensNumber text start ↔ 0 < intLength (text.drop start) := by
  unfold OpensNumber
  rw [← naturalLength_pos_iff, ← naturalLength_pos_iff]
  by_cases sign : text[start]? = some '-'
  · have noDigit : ¬ 0 < naturalLength (text.drop start) := by
      rw [naturalLength_pos_iff]
      rintro ⟨c, atStart, digit⟩
      cases atStart.symm.trans sign
      cases digit
    rw [or_iff_right noDigit, and_iff_right sign, intLength_signed sign]
    split <;> omega
  · rw [intLength_unsigned sign, or_iff_left fun signed => sign signed.1]

/-- Where the digits of a part would begin is known, so the part takes them if there are any. -/
theorem extension_iff {marks : Nat → Prop} {first : Nat} (marked : ∀ other, marks other ↔ other = first) :
    Extension text marks start stop ↔
      stop = if runLength isDigit (text.drop first) = 0 then start
        else first + runLength isDigit (text.drop first) := by
  constructor
  · rintro (⟨mark, run, some'⟩ | absent)
    · rw [(marked _).mp mark, digitRun_iff] at *
      rw [if_neg (by omega)]
      exact run
    · have run := digitRun_iff.mp (absent first ((marked first).mpr rfl))
      rw [if_pos (by omega)]
  · intro ends
    split at ends
    · rename_i none'
      rw [ends]
      refine .absent fun other mark => ?_
      rw [(marked other).mp mark, digitRun_iff, none', Nat.add_zero]
    · rename_i some'
      exact .taken ((marked first).mpr rfl) (digitRun_iff.mpr ends) (by omega)

/-- Without a mark there is no further part. -/
theorem extension_of_unmarked {marks : Nat → Prop} (unmarked : ∀ first, ¬ marks first) :
    Extension text marks start stop ↔ stop = start := by
  constructor
  · rintro (⟨mark, _, _⟩ | _)
    · exact absurd mark (unmarked _)
    · rfl
  · rintro rfl
    exact .absent fun first mark => absurd mark (unmarked first)

theorem fraction_iff :
    Extension text (MarksFraction text start) start stop ↔
      stop = start + fractionLength (text.drop start) := by
  by_cases point : text[start]? = some '.'
  · have marked : ∀ other, MarksFraction text start other ↔ other = start + 1 :=
      fun other => and_iff_right point
    rw [extension_iff marked, drop_eq_cons point, fractionLength_dot]
    split <;> omega
  · have nothing : fractionLength (text.drop start) = 0 := by
      cases atStart : text[start]? with
      | none => rw [List.drop_eq_nil_of_le (List.getElem?_eq_none_iff.mp atStart)]; rfl
      | some c =>
        rw [drop_eq_cons atStart]
        exact fractionLength_cons_of_ne _ fun same => point (atStart.trans (congrArg some same))
    rw [extension_of_unmarked fun _ mark => point mark.1, nothing, Nat.add_zero]

theorem signLength_drop :
    signLength (text.drop start) = if text[start]? = some '+' ∨ text[start]? = some '-' then 1 else 0 := by
  cases atStart : text[start]? with
  | none =>
    rw [List.drop_eq_nil_of_le (List.getElem?_eq_none_iff.mp atStart)]
    rfl
  | some c =>
    rw [drop_eq_cons atStart]
    simp [signLength]

theorem exponent_iff :
    Extension text (MarksExponent text start) start stop ↔
      stop = start + exponentLength (text.drop start) := by
  by_cases mark : text[start]? = some 'e' ∨ text[start]? = some 'E'
  · obtain ⟨c, atStart, isMark⟩ : ∃ c, text[start]? = some c ∧ (c = 'e' || c = 'E') = true := by
      rcases mark with small | capital
      · exact ⟨_, small, rfl⟩
      · exact ⟨_, capital, rfl⟩
    have marked : ∀ other, MarksExponent text start other ↔
        other = start + 1 + signLength (text.drop (start + 1)) := by
      intro other
      rw [MarksExponent, and_iff_right mark, signLength_drop]
      split <;> rfl
    rw [extension_iff marked, drop_eq_cons atStart, exponentLength, if_pos isMark]
    dsimp only
    rw [List.drop_drop]
    split <;> omega
  · have nothing : exponentLength (text.drop start) = 0 := by
      cases atStart : text[start]? with
      | none => rw [List.drop_eq_nil_of_le (List.getElem?_eq_none_iff.mp atStart)]; rfl
      | some c =>
        rw [atStart, Option.some.injEq, Option.some.injEq] at mark
        rw [drop_eq_cons atStart, exponentLength, if_neg (by simpa using mark)]
    rw [extension_of_unmarked fun _ marks => mark marks.1, nothing, Nat.add_zero]

/-- A number has the lengths that the rules count. -/
theorem number_iff {whole decimal : Nat} :
    Number text start whole decimal stop ↔
      0 < intLength (text.drop start) ∧ whole = start + intLength (text.drop start) ∧
        decimal = whole + fractionLength (text.drop whole) ∧
        stop = decimal + exponentLength (text.drop decimal) := by
  constructor
  · rintro ⟨integer, fraction, exponent⟩
    obtain ⟨positive, ends⟩ := wholePart_iff.mp integer
    exact ⟨positive, ends, fraction_iff.mp fraction, exponent_iff.mp exponent⟩
  · rintro ⟨positive, integer, fraction, exponent⟩
    exact ⟨wholePart_iff.mpr ⟨positive, integer⟩, fraction_iff.mpr fraction, exponent_iff.mpr exponent⟩

/-- Where a digit or a minus sign stands, no rule but those for numbers accepts anything. -/
theorem rule_of_number {rule : Rule} {c : Char} {rest : Text} (shape : RuleShape rule)
    (positive : 0 < rule.accepts (c :: rest)) (opens : isDigit c = true ∨ c = '-') :
    rule = ⟨some .int, intLength⟩ ∨ rule = ⟨some .float, floatLength⟩ := by
  have noStart : isNameStart c = false := by
    rcases opens with digit | rfl
    · by_contra start
      rw [isDigit_of_isNameStart (by simpa using start)] at digit
      cases digit
    · rfl
  have table : ∀ entry ∈ symbols, entry.1.head?.all (fun d => !isDigit d && d != '-') = true := by decide
  have noBlank : isBlank c = false := by
    rcases opens with digit | rfl
    · exact isBlank_of_isNamePart (by simp [isNamePart, digit])
    · rfl
  cases shape with
  | blank => simp [runLength, noBlank] at positive
  | @symbol word kind inside =>
    have lexeme := congrArg List.head? (take_wordLength positive)
    rw [List.head?_take, if_neg (Nat.ne_of_gt positive)] at lexeme
    have other := table _ inside
    rw [← lexeme] at other
    rcases opens with digit | rfl
    · simp [digit] at other
    · cases other
  | keyword inside =>
    have zero := keywordLength_of_not_start rest (reservedWords_identifier _ inside) noStart
    exact absurd zero (Nat.ne_of_gt positive)
  | name => exact absurd (nameLength_other rest noStart) (Nat.ne_of_gt positive)
  | string =>
    have noQuote : c ≠ '"' := by
      rintro rfl
      rcases opens with digit | same
      · cases digit
      · cases same
    exact absurd (stringLength_other rest noQuote) (Nat.ne_of_gt positive)
  | int => exact Or.inl rfl
  | float => exact Or.inr rfl

/-- Where an integer begins, the longest match is that integer unless a fraction or an exponent follows. -/
theorem longest_of_number (found : 0 < intLength text) :
    longest text =
      if floatLength text = 0 then ⟨some .int, intLength text⟩ else ⟨some .float, floatLength text⟩ := by
  cases text with
  | nil => cases found
  | cons c rest =>
    have opens : isDigit c = true ∨ c = '-' := by
      by_contra neither
      rw [not_or, Bool.not_eq_true] at neither
      rw [intLength_of_first rest neither.1 neither.2] at found
      cases found
    have integer := accepts_le_longest (c :: rest) int_mem_rules
    have number := accepts_le_longest (c :: rest) float_mem_rules
    dsimp only at integer number
    rcases longest_cases (c :: rest) with nothing | ⟨rule, shape, same, positive⟩
    · rw [nothing] at integer
      exact absurd found (Nat.not_lt.mpr integer)
    rcases rule_of_number shape positive opens with rfl | rfl
    · have alone : floatLength (c :: rest) = 0 := by
        have length := floatLength_eq (c :: rest)
        rw [same] at number
        split at length
        · exact length
        · dsimp only at number
          omega
      rw [same, if_pos alone]
    · rw [same, if_neg (Nat.ne_of_gt positive)]

variable {position : Nat}

/-- The token of a number reaches to the end of its last part. -/
theorem Number.emitted_eq {whole decimal : Nat} (number : Number text position whole decimal stop) :
    emitted text position =
      some ⟨if stop = whole then .int else .float, text.slice position stop, position, stop⟩ := by
  obtain ⟨positive, integer, fraction, exponent⟩ := number_iff.mp number
  have matched := longest_of_number positive
  have length := floatLength_eq (text.drop position)
  have bound := intLength_le_length (text.drop position)
  simp only [List.length_drop, List.drop_drop] at bound length
  rw [← Nat.add_assoc, ← integer, ← fraction] at length
  have matched' : longest (text.drop position) =
      ⟨some (if stop = whole then .int else .float), stop - position⟩ := by
    rw [matched]
    by_cases alone : stop = whole
    · rw [if_pos (by rw [length, if_pos (Or.inr (by omega))]), if_pos alone]
      congr 1
      omega
    · rw [if_neg (by omega)] at length
      rw [if_neg (by omega), if_neg alone]
      congr 1
      omega
  have noString : (if stop = whole then TokenKind.int else TokenKind.float) ≠ .string := by
    split <;> decide
  have ends : position + (stop - position) = stop := by omega
  rw [emitted, matched', tokenAt?, Option.map_some, tokenValue, if_neg noString, ends,
    Text.slice_natCast (by omega), List.drop_take]

/-- Wherever the loop stands before a digit, or before a minus sign and a digit, the token is the number that
stands there: its integer, then all the digits behind a point if there are any, then all the digits of an
exponent if there are any. It is an integer if neither is there. -/
theorem numbers_are_munched {tokens : List Token} (reach : Reach text tokens position)
    (opens : OpensNumber text position) :
    (∃ whole decimal stop, Number text position whole decimal stop) ∧
      ∀ whole decimal stop, Number text position whole decimal stop →
        tokenize text = tokens ++
          ⟨if stop = whole then .int else .float, text.slice position stop, position, stop⟩ ::
            scan stop (text.drop stop) :=
  ⟨⟨_, _, _, number_iff.mpr ⟨opensNumber_iff.mp opens, rfl, rfl, rfl⟩⟩,
    fun _ _ _ number => reach.tokenize_of_emitted number.emitted_eq⟩

/-- A sign and all three parts make one number. A point without digits keeps the mark behind it from being
that of an exponent, so the number ends before the point. -/
theorem numbers_are_munched_half_typed :
    let text := "p >= -10.50e+3 or 7.e5".toList
    (OpensNumber text 5 ∧ Number text 5 8 11 14 ∧
      ∃ tokens, Reach text tokens 5 ∧
        tokenize text = tokens ++ ⟨.float, "-10.50e+3".toList, 5, 14⟩ :: scan 14 (text.drop 14)) ∧
      OpensNumber text 18 ∧ Number text 18 19 19 19 ∧
        ∃ tokens, Reach text tokens 18 ∧
          tokenize text = tokens ++ ⟨.int, "7".toList, 18, 19⟩ :: scan 19 (text.drop 19) := by
  intro text
  have float : ⟨.float, "-10.50e+3".toList, 5, 14⟩ ∈ tokenize text := by decide +kernel
  have int : ⟨.int, "7".toList, 18, 19⟩ ∈ tokenize text := by decide +kernel
  have signed : OpensNumber text 5 := Or.inr ⟨rfl, '1', rfl, rfl⟩
  have digit : OpensNumber text 18 := Or.inl ⟨'7', rfl, rfl⟩
  have whole : Number text 5 8 11 14 := number_iff.mpr (by decide +kernel)
  have half : Number text 18 19 19 19 := number_iff.mpr (by decide +kernel)
  obtain ⟨before, reach, _⟩ := (reach_length text).mem float
  obtain ⟨before', reach', _⟩ := (reach_length text).mem int
  exact ⟨⟨signed, whole, before, reach, (numbers_are_munched reach signed).2 _ _ _ whole⟩,
    digit, half, before', reach', (numbers_are_munched reach' digit).2 _ _ _ half⟩

end QueryCompletion.Lexer
