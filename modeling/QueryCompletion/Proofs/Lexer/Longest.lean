import QueryCompletion.Proofs.Lexer.Names
import QueryCompletion.Proofs.Lexer.Strings
import QueryCompletion.Proofs.Lookup

/-!
The longest match. It is what some rule accepts, no rule accepts more, and a match within the first
`n` characters of a text is the match of these characters alone. Blanks and words are decided by
their first character.
-/

namespace QueryCompletion.Lexer

/-- The punctuation of the language. -/
def symbols : List (Text × TokenKind) :=
  [ (['.'], .dot), ([','], .comma), (['('], .parenL), ([')'], .parenR), (['='], .equals),
    (['!', '='], .notEquals), (['>'], .greater), (['>', '='], .greaterEqual), (['<'], .less),
    (['<', '='], .lessEqual), (['~'], .contains), (['!', '~'], .notContains) ]

/-- The kinds of rules there are. -/
inductive RuleShape : Rule → Prop
  | blank : RuleShape ⟨none, runLength isBlank⟩
  | symbol {word : Text} {kind : TokenKind} : (word, kind) ∈ symbols →
      RuleShape ⟨some kind, wordLength word⟩
  | keyword {word : Text} {kind : TokenKind} : (word, kind) ∈ reservedWords →
      RuleShape ⟨some kind, keywordLength word⟩
  | name : RuleShape ⟨some .name, nameLength⟩
  | string : RuleShape ⟨some .string, stringLength⟩
  | int : RuleShape ⟨some .int, intLength⟩
  | float : RuleShape ⟨some .float, floatLength⟩

theorem rules_shape : ∀ rule ∈ rules, RuleShape rule := by
  unfold rules
  simp only [List.forall_mem_cons, List.not_mem_nil, false_imp_iff, implies_true, and_true]
  refine ⟨.blank, .symbol (by decide), .symbol (by decide), .keyword (by decide),
    .keyword (by decide), .keyword (by decide), .keyword (by decide), .keyword (by decide),
    .keyword (by decide), .keyword (by decide), .keyword (by decide), .keyword (by decide), .name,
    .string, .int, .float, ?_⟩
  repeat' constructor

theorem name_mem_rules : (⟨some .name, nameLength⟩ : Rule) ∈ rules := by
  unfold rules
  simp only [List.mem_cons, true_or, or_true]

theorem string_mem_rules : (⟨some .string, stringLength⟩ : Rule) ∈ rules := by
  unfold rules
  simp only [List.mem_cons, true_or, or_true]

theorem int_mem_rules : (⟨some .int, intLength⟩ : Rule) ∈ rules := by
  unfold rules
  simp only [List.mem_cons, true_or, or_true]

theorem float_mem_rules : (⟨some .float, floatLength⟩ : Rule) ∈ rules := by
  unfold rules
  simp only [List.mem_cons, true_or, or_true]

theorem le_foldl_better (text : Text) (list : List Rule) (best : Match) :
    best.length ≤ (list.foldl (better text) best).length ∧
      ∀ rule ∈ list, rule.accepts text ≤ (list.foldl (better text) best).length := by
  induction list generalizing best with
  | nil => simp
  | cons rule list ih =>
    obtain ⟨kept, others⟩ := ih (better text best rule)
    have grows : best.length ≤ (better text best rule).length ∧
        rule.accepts text ≤ (better text best rule).length := by
      by_cases longer : best.length < rule.accepts text
      · rw [show better text best rule = ⟨rule.kind, rule.accepts text⟩ from if_pos longer]
        exact ⟨Nat.le_of_lt longer, Nat.le_refl _⟩
      · rw [show better text best rule = best from if_neg longer]
        exact ⟨Nat.le_refl _, Nat.not_lt.mp longer⟩
    rw [List.foldl_cons]
    refine ⟨by omega, fun other inside => ?_⟩
    rcases List.mem_cons.mp inside with same | later
    · rw [same]; omega
    · exact others other later

theorem foldl_better_cases (text : Text) (list : List Rule) (best : Match) :
    list.foldl (better text) best = best ∨
      ∃ rule ∈ list, list.foldl (better text) best = ⟨rule.kind, rule.accepts text⟩ ∧
        best.length < rule.accepts text := by
  induction list generalizing best with
  | nil => exact Or.inl rfl
  | cons rule list ih =>
    rw [List.foldl_cons]
    by_cases longer : best.length < rule.accepts text
    · have step : better text best rule = ⟨rule.kind, rule.accepts text⟩ := if_pos longer
      rw [step]
      rcases ih ⟨rule.kind, rule.accepts text⟩ with same | ⟨other, inside, same, above⟩
      · exact Or.inr ⟨rule, List.mem_cons_self, same, longer⟩
      · exact Or.inr ⟨other, List.mem_cons_of_mem _ inside, same, Nat.lt_trans longer above⟩
    · have step : better text best rule = best := if_neg longer
      rw [step]
      rcases ih best with same | ⟨other, inside, same, above⟩
      · exact Or.inl same
      · exact Or.inr ⟨other, List.mem_cons_of_mem _ inside, same, above⟩

/-- No rule accepts more than the longest match. -/
theorem accepts_le_longest {rule : Rule} (text : Text) (inside : rule ∈ rules) :
    rule.accepts text ≤ (longest text).length :=
  (le_foldl_better text rules ⟨none, 0⟩).2 rule inside

/-- The longest match is what some rule accepts, or nothing at all. -/
theorem longest_cases (text : Text) :
    longest text = ⟨none, 0⟩ ∨
      ∃ rule, RuleShape rule ∧ longest text = ⟨rule.kind, rule.accepts text⟩ ∧
        0 < rule.accepts text := by
  rcases foldl_better_cases text rules ⟨none, 0⟩ with nothing | ⟨rule, inside, same, above⟩
  · exact Or.inl nothing
  · exact Or.inr ⟨rule, rules_shape rule inside, same, above⟩

/-- A rule that accepts more than those before it and at least as much as those behind it wins. -/
theorem longest_of_first {text : Text} {front back : List Rule} {rule : Rule}
    (split : rules = front ++ rule :: back) (positive : 0 < rule.accepts text)
    (before : ∀ other ∈ front, other.accepts text < rule.accepts text)
    (behind : ∀ other ∈ back, other.accepts text ≤ rule.accepts text) :
    longest text = ⟨rule.kind, rule.accepts text⟩ := by
  have first : (front.foldl (better text) ⟨none, 0⟩).length < rule.accepts text := by
    rcases foldl_better_cases text front ⟨none, 0⟩ with same | ⟨other, inside, same, _⟩
    · rw [same]; exact positive
    · rw [same]; exact before other inside
  have step : better text (front.foldl (better text) ⟨none, 0⟩) rule =
      ⟨rule.kind, rule.accepts text⟩ := if_pos first
  rw [longest, split, List.foldl_append, List.foldl_cons, step]
  rcases foldl_better_cases text back ⟨rule.kind, rule.accepts text⟩ with
    same | ⟨other, inside, _, above⟩
  · exact same
  · exact absurd above (Nat.not_lt.mpr (behind other inside))

theorem accepts_take {rule : Rule} {text : Text} {n : Nat} (shape : RuleShape rule)
    (name : nameLength text ≤ n) (fits : rule.accepts text ≤ n) :
    rule.accepts (text.take n) = rule.accepts text := by
  cases shape with
  | blank => exact (runLength_take isBlank text n).trans (Nat.min_eq_right fits)
  | symbol _ => exact wordLength_take fits
  | keyword inside => exact keywordLength_take (reservedWords_identifier _ inside) name
  | name => exact nameLength_take fits
  | string => exact stringLength_take fits
  | int => exact intLength_take fits
  | float => exact floatLength_take fits

/-- What lies behind the longest match does not matter, as far as anything lies there. -/
theorem longest_take {text : Text} {n : Nat} (fits : (longest text).length ≤ n) :
    longest (text.take n) = longest text := by
  have same : ∀ rule ∈ rules, rule.accepts (text.take n) = rule.accepts text := by
    intro rule inside
    exact accepts_take (rules_shape rule inside)
      (Nat.le_trans (accepts_le_longest text name_mem_rules) fits)
      (Nat.le_trans (accepts_le_longest text inside) fits)
  unfold longest
  refine List.foldl_ext _ _ _ fun best rule inside => ?_
  simp only [better, same rule inside]

theorem accepts_le_length {rule : Rule} (shape : RuleShape rule) (text : Text) :
    rule.accepts text ≤ text.length := by
  cases shape with
  | blank => exact runLength_le_length isBlank text
  | @symbol word _ _ =>
    show wordLength word text ≤ text.length
    unfold wordLength
    split
    · rename_i starts
      exact (List.isPrefixOf_iff_prefix.mp starts).length_le
    · omega
  | @keyword word _ inside =>
    show keywordLength word text ≤ text.length
    rw [keywordLength_eq _ (reservedWords_identifier _ inside).parts]
    split
    · rename_i whole
      rw [whole, segment_length]
      exact runLength_le_length _ _
    · omega
  | name => exact nameLength_le_length text
  | string =>
    by_cases found : 0 < stringLength text
    · obtain ⟨body, _, lexeme, length⟩ := take_stringLength found
      have := congrArg List.length lexeme
      simp only [List.length_take, List.length_append, List.length_cons, List.length_nil] at this
      show stringLength text ≤ text.length
      omega
    · exact Nat.le_trans (Nat.not_lt.mp found) (Nat.zero_le _)
  | int => exact intLength_le_length text
  | float => exact floatLength_le_length text

theorem longest_length_le (text : Text) : (longest text).length ≤ text.length := by
  rcases longest_cases text with nothing | ⟨rule, shape, same, _⟩
  · rw [nothing]; exact Nat.zero_le _
  · rw [same]; exact accepts_le_length shape text

/-- Characters with which something other than a blank or a word begins. -/
def opensToken (c : Char) : Bool :=
  isDigit c || c == '-' || c == '"' || symbols.any fun entry => entry.1.head? == some c

theorem intLength_of_first {c : Char} (rest : Text) (noDigit : isDigit c = false)
    (noSign : c ≠ '-') : intLength (c :: rest) = 0 := by
  have noZero : c ≠ '0' := by rintro rfl; cases noDigit
  rw [intLength_cons_of_ne _ noSign]
  simp [naturalLength, noZero, noDigit]

theorem floatLength_of_first {c : Char} (rest : Text) (noDigit : isDigit c = false)
    (noSign : c ≠ '-') : floatLength (c :: rest) = 0 := by
  rw [floatLength_eq, if_pos (Or.inl (intLength_of_first rest noDigit noSign))]

/-- A rule that is not for blanks and not for words accepts nothing where another character
stands. -/
theorem accepts_of_not_opensToken {rule : Rule} {c : Char} (rest : Text) (shape : RuleShape rule)
    (other : opensToken c = false) :
    rule.accepts (c :: rest) = 0 ∨ rule = ⟨none, runLength isBlank⟩ ∨
      rule = ⟨some .name, nameLength⟩ ∨
      ∃ entry ∈ reservedWords, rule = ⟨some entry.2, keywordLength entry.1⟩ := by
  simp only [opensToken, Bool.or_eq_false_iff, beq_eq_false_iff_ne, List.any_eq_false] at other
  obtain ⟨⟨⟨noDigit, noSign⟩, noQuote⟩, noSymbol⟩ := other
  cases shape with
  | blank => exact Or.inr (Or.inl rfl)
  | @symbol word kind inside =>
    have differs := noSymbol _ inside
    cases word with
    | nil => exact Or.inl (by simp [wordLength])
    | cons w more =>
      have ne : w ≠ c := by simpa using differs
      exact Or.inl (wordLength_of_ne more rest ne)
  | keyword inside => exact Or.inr (Or.inr (Or.inr ⟨_, inside, rfl⟩))
  | name => exact Or.inr (Or.inr (Or.inl rfl))
  | string => exact Or.inl (stringLength_other rest noQuote)
  | int => exact Or.inl (intLength_of_first rest noDigit noSign)
  | float => exact Or.inl (floatLength_of_first rest noDigit noSign)

theorem keywordLength_of_not_start {word : Text} {c : Char} (rest : Text)
    (identifier : IsIdentifier word) (noStart : isNameStart c = false) :
    keywordLength word (c :: rest) = 0 := by
  obtain ⟨w, more, rfl, start, _⟩ := identifier
  have differs : w ≠ c := by rintro rfl; rw [start] at noStart; cases noStart
  simp [keywordLength, List.isPrefixOf, differs]

/-- Where no blank, word or number can begin, only symbols and literals do. -/
theorem rule_of_accepts {rule : Rule} {c : Char} {rest : Text} (shape : RuleShape rule)
    (positive : 0 < rule.accepts (c :: rest)) (noBlank : isBlank c = false) (noStart : isNameStart c = false)
    (noDigit : isDigit c = false) (noSign : c ≠ '-') :
    (∃ entry ∈ symbols, entry.1.head? = some c ∧ rule = ⟨some entry.2, wordLength entry.1⟩) ∨
      c = '"' ∧ rule = ⟨some .string, stringLength⟩ := by
  cases shape with
  | blank => simp [runLength, noBlank] at positive
  | @symbol word kind inside =>
    have lexeme := congrArg List.head? (take_wordLength positive)
    rw [List.head?_take, if_neg (Nat.ne_of_gt positive)] at lexeme
    exact Or.inl ⟨(word, kind), inside, lexeme.symm, rfl⟩
  | keyword inside =>
    have zero := keywordLength_of_not_start rest (reservedWords_identifier _ inside) noStart
    exact absurd zero (Nat.ne_of_gt positive)
  | name => simp [nameLength, noStart] at positive
  | string =>
    by_contra other
    rw [not_or, not_and] at other
    exact absurd (stringLength_other rest fun quote => other.2 quote rfl) (Nat.ne_of_gt positive)
  | int => exact absurd (intLength_of_first rest noDigit noSign) (Nat.ne_of_gt positive)
  | float => exact absurd (floatLength_of_first rest noDigit noSign) (Nat.ne_of_gt positive)

/-- Where neither a blank nor a word nor anything else can begin, nothing matches. -/
theorem longest_of_other {c : Char} (rest : Text) (noBlank : isBlank c = false)
    (noStart : isNameStart c = false) (other : opensToken c = false) :
    longest (c :: rest) = ⟨none, 0⟩ := by
  rcases longest_cases (c :: rest) with nothing | ⟨rule, shape, _, positive⟩
  · exact nothing
  · rcases accepts_of_not_opensToken rest shape other with zero | rfl | rfl | ⟨entry, inside, rfl⟩
    · omega
    · simp [runLength, noBlank] at positive
    · simp [nameLength, noStart] at positive
    · have zero := keywordLength_of_not_start rest (reservedWords_identifier _ inside) noStart
      exact absurd zero (Nat.ne_of_gt positive)

def blanks : Text := [' ', '\t', '\x0b', '\x0c', '\r', '\n', '\u00a0']

theorem mem_blanks {c : Char} (blank : isBlank c = true) : c ∈ blanks := by
  simpa [isBlank, blanks, or_assoc] using blank

theorem isBlank_cases {c : Char} (blank : isBlank c = true) :
    isNameStart c = false ∧ opensToken c = false := by
  have all : blanks.all (fun c => !isNameStart c && !opensToken c) = true := by decide
  simpa using List.all_eq_true.mp all c (mem_blanks blank)

/-- Blanks match up to the first other character. -/
theorem longest_of_blank {c : Char} (rest : Text) (blank : isBlank c = true) :
    longest (c :: rest) = ⟨none, runLength isBlank (c :: rest)⟩ := by
  obtain ⟨noStart, other⟩ := isBlank_cases blank
  rcases longest_cases (c :: rest) with nothing | ⟨rule, shape, same, positive⟩
  · have bound := @accepts_le_longest ⟨none, runLength isBlank⟩ (c :: rest) List.mem_cons_self
    simp [nothing, runLength, blank] at bound
  · rcases accepts_of_not_opensToken rest shape other with zero | rfl | rfl | ⟨entry, inside, rfl⟩
    · omega
    · exact same
    · simp [nameLength, noStart] at positive
    · have zero := keywordLength_of_not_start rest (reservedWords_identifier _ inside) noStart
      exact absurd zero (Nat.ne_of_gt positive)

theorem isNameStart_cases {c : Char} (start : isNameStart c = true) :
    isBlank c = false ∧ opensToken c = false := by
  constructor
  · by_contra blank
    rw [(isBlank_cases (Bool.not_eq_false _ ▸ blank)).1] at start
    cases start
  · have noDigit : isDigit c = false := isDigit_of_isNameStart start
    have noSymbol : ∀ entry ∈ symbols, entry.1.head?.all (!isNameStart ·) = true := by decide
    simp only [opensToken, noDigit, Bool.false_or, Bool.or_eq_false_iff, beq_eq_false_iff_ne,
      List.any_eq_false]
    have noSign : c ≠ '-' := by rintro rfl; cases start
    have noQuote : c ≠ '"' := by rintro rfl; cases start
    refine ⟨⟨noSign, noQuote⟩, fun entry inside first => ?_⟩
    have clash := noSymbol entry inside
    simp [beq_iff_eq.mp first, start] at clash

/-- The rule for a reserved word. -/
def keywordRule (entry : Text × TokenKind) : Rule := ⟨some entry.2, keywordLength entry.1⟩

/-- The rules before those for words. -/
def leadingRules : List Rule :=
  [⟨none, runLength isBlank⟩, ⟨some .dot, wordLength ['.']⟩, ⟨some .comma, wordLength [',']⟩]

/-- The rules behind those for words. -/
def trailingRules : List Rule := rules.drop 13

theorem rules_eq :
    rules = leadingRules ++
      (reservedWords.map keywordRule ++ ⟨some .name, nameLength⟩ :: trailingRules) := rfl

theorem accepts_leadingRules {c : Char} (rest : Text) (start : isNameStart c = true) :
    ∀ rule ∈ leadingRules, rule.accepts (c :: rest) = 0 := by
  have noBlank := (isNameStart_cases start).1
  have noDot : '.' ≠ c := by rintro rfl; cases start
  have noComma : ',' ≠ c := by rintro rfl; cases start
  simp only [leadingRules, List.forall_mem_cons, List.not_mem_nil, false_imp_iff, implies_true,
    and_true, wordLength_of_ne _ _ noDot, wordLength_of_ne _ _ noComma]
  simp [runLength, noBlank]

theorem accepts_keywordRule {entry : Text × TokenKind} (text : Text) (inside : entry ∈ reservedWords) :
    (keywordRule entry).accepts text = if entry.1 = segment text then entry.1.length else 0 :=
  keywordLength_eq _ (reservedWords_identifier entry inside).parts

theorem segment_length_le {c : Char} (rest : Text) (start : isNameStart c = true) :
    (segment (c :: rest)).length ≤ nameLength (c :: rest) := by
  have := nameLength_eq_segment rest start
  omega

/-- The rule for names accepts as much as any other where a word begins. -/
theorem accepts_le_nameLength {c : Char} {rule : Rule} (rest : Text) (start : isNameStart c = true)
    (inside : rule ∈ rules) : rule.accepts (c :: rest) ≤ nameLength (c :: rest) := by
  obtain ⟨noBlank, other⟩ := isNameStart_cases start
  rcases accepts_of_not_opensToken rest (rules_shape rule inside) other with
    zero | rfl | rfl | ⟨entry, member, rfl⟩
  · omega
  · simp [runLength, noBlank]
  · exact Nat.le_refl _
  · have accepts := accepts_keywordRule (c :: rest) member
    have bound := segment_length_le rest start
    split at accepts <;> rename_i whole
    · exact accepts ▸ whole ▸ bound
    · exact accepts ▸ Nat.zero_le _

/-- A name without dots is its first segment. -/
theorem segment_eq_of_parts {text : Text}
    (parts : ∀ c ∈ text.take (nameLength text), isNamePart c = true)
    (bound : (segment text).length ≤ nameLength text) :
    text.take (nameLength text) = segment text := by
  have run := runLength_append (text.drop (nameLength text)) parts
  have fits := nameLength_le_length text
  rw [List.take_append_drop, List.length_take] at run
  rw [segment_length] at bound
  rw [segment]
  congr 1
  omega

theorem nameLength_pos {c : Char} (rest : Text) (start : isNameStart c = true) :
    0 < nameLength (c :: rest) := by
  rw [nameLength_start _ start]; omega

theorem length_take_nameLength (text : Text) :
    (text.take (nameLength text)).length = nameLength text := by
  rw [List.length_take]
  exact Nat.min_eq_left (nameLength_le_length _)

theorem longest_of_reserved {c : Char} {kind : TokenKind} (rest : Text) (start : isNameStart c = true)
    (found : reservedWords.lookup ((c :: rest).take (nameLength (c :: rest))) = some kind) :
    longest (c :: rest) = ⟨some kind, nameLength (c :: rest)⟩ := by
  have length := length_take_nameLength (c :: rest)
  obtain ⟨earlier, later, table, others⟩ := List.lookup_eq_some_iff.mp found
  have inside := mem_of_lookup found
  have whole := segment_eq_of_parts (reservedWords_identifier _ inside).parts
    (segment_length_le rest start)
  generalize (c :: rest).take (nameLength (c :: rest)) = word at *
  have accepts : (keywordRule (word, kind)).accepts (c :: rest) = nameLength (c :: rest) := by
    rw [accepts_keywordRule _ inside, if_pos whole, length]
  have split : rules = (leadingRules ++ earlier.map keywordRule) ++
      keywordRule (word, kind) ::
        (later.map keywordRule ++ ⟨some .name, nameLength⟩ :: trailingRules) := by
    rw [rules_eq, table]; simp
  rw [← accepts]
  refine longest_of_first split (accepts ▸ nameLength_pos rest start) ?_ ?_
  · intro rule member
    rw [accepts]
    rcases List.mem_append.mp member with first | reserved
    · rw [accepts_leadingRules rest start rule first]
      exact nameLength_pos rest start
    · obtain ⟨entry, before, rfl⟩ := List.mem_map.mp reserved
      have differs : entry.1 ≠ segment (c :: rest) := by
        intro same
        simpa [same, whole] using others entry before
      rw [accepts_keywordRule _ (by rw [table]; simp [before]), if_neg differs]
      exact nameLength_pos rest start
  · intro rule member
    rw [accepts]
    exact accepts_le_nameLength rest start (by rw [split]; simp [member])

theorem longest_of_name {c : Char} (rest : Text) (start : isNameStart c = true)
    (free : reservedWords.lookup ((c :: rest).take (nameLength (c :: rest))) = none) :
    longest (c :: rest) = ⟨some .name, nameLength (c :: rest)⟩ := by
  refine longest_of_first (show rules = (leadingRules ++ reservedWords.map keywordRule) ++
    ⟨some .name, nameLength⟩ :: trailingRules from rfl) (nameLength_pos rest start) ?_ ?_
  · intro rule member
    show rule.accepts (c :: rest) < nameLength (c :: rest)
    rcases List.mem_append.mp member with first | reserved
    · rw [accepts_leadingRules rest start rule first]
      exact nameLength_pos rest start
    · obtain ⟨entry, inside, rfl⟩ := List.mem_map.mp reserved
      rw [accepts_keywordRule _ inside]
      split
      · rename_i whole
        have bound := segment_length_le rest start
        rw [whole]
        by_contra full
        have same : (c :: rest).take (nameLength (c :: rest)) = segment (c :: rest) := by
          rw [segment, ← segment_length]
          congr 1
          omega
        exact ne_of_lookup_eq_none free inside (whole.trans same.symm)
      · exact nameLength_pos rest start
  · intro rule member
    exact accepts_le_nameLength rest start (List.mem_of_mem_drop member)

/-- A word matches as a whole; its kind is that of a reserved word or that of a name. -/
theorem longest_of_word {c : Char} (rest : Text) (start : isNameStart c = true) :
    longest (c :: rest) =
      ⟨some (wordKind ((c :: rest).take (nameLength (c :: rest)))), nameLength (c :: rest)⟩ := by
  unfold wordKind
  cases found : reservedWords.lookup ((c :: rest).take (nameLength (c :: rest))) with
  | some kind => exact longest_of_reserved rest start found
  | none => exact longest_of_name rest start found

theorem mem_take_keywordLength {word text : Text} {c : Char} (identifier : IsIdentifier word)
    (inside : c ∈ text.take (keywordLength word text)) : isNamePart c = true := by
  rw [keywordLength_eq _ identifier.parts] at inside
  split at inside
  · rename_i whole
    rw [whole, segment_length] at inside
    exact mem_take_runLength inside
  · rw [List.take_zero] at inside; cases inside

/-- The shapes of what is matched: blanks, a string literal, or a token of which the characters are
of one class unless it is a single character. -/
theorem longest_lexeme {text : Text} (found : 0 < (longest text).length) :
    (longest text).kind = none ∧ (∀ c ∈ text.take (longest text).length, isBlank c = true) ∨
      (longest text).kind = some .string ∧
        (∃ body, StringBody body ∧ text.take (longest text).length = '"' :: body ++ ['"']) ∨
      (∃ kind, (longest text).kind = some kind ∧ kind ≠ .string) ∧
        ((longest text).length = 1 ∨ ∀ c ∈ text.take (longest text).length, isSolid c = true) := by
  rcases longest_cases text with nothing | ⟨rule, shape, same, positive⟩
  · rw [nothing] at found
    exact absurd found (Nat.lt_irrefl 0)
  rw [same]
  cases shape with
  | blank => exact Or.inl ⟨rfl, fun c inside => mem_take_runLength inside⟩
  | @symbol word kind inside =>
    have table : ∀ entry ∈ symbols, entry.2 ≠ .string ∧
        (entry.1.length = 1 ∨ entry.1.all isSolid = true) := by decide
    obtain ⟨noString, class'⟩ := table _ inside
    refine Or.inr (Or.inr ⟨⟨kind, rfl, noString⟩, ?_⟩)
    have lexeme := take_wordLength positive
    have length := congrArg List.length lexeme
    have bound := accepts_le_length (.symbol inside) text
    rw [List.length_take, Nat.min_eq_left bound] at length
    rcases class' with single | solid
    · exact Or.inl (length.trans single)
    · refine Or.inr fun c member => List.all_eq_true.mp solid c ?_
      rw [← lexeme]
      exact member
  | @keyword word kind inside =>
    have table : ∀ entry ∈ reservedWords, entry.2 ≠ .string := by decide
    refine Or.inr (Or.inr ⟨⟨kind, rfl, table _ inside⟩, Or.inr fun c member => ?_⟩)
    exact isSolid_of_isNamePart (mem_take_keywordLength (reservedWords_identifier _ inside) member)
  | name =>
    refine Or.inr (Or.inr ⟨⟨.name, rfl, by decide⟩, Or.inr fun c member => ?_⟩)
    rcases mem_take_nameLength member with part | dot
    · exact isSolid_of_isNamePart part
    · rw [dot]; rfl
  | string =>
    obtain ⟨body, items, lexeme, _⟩ := take_stringLength positive
    exact Or.inr (Or.inl ⟨rfl, body, items, lexeme⟩)
  | int =>
    refine Or.inr (Or.inr ⟨⟨.int, rfl, by decide⟩, Or.inr fun c member => ?_⟩)
    rcases mem_take_intLength member with sign | digit
    · rw [sign]; rfl
    · exact isSolid_of_isDigit digit
  | float =>
    exact Or.inr (Or.inr ⟨⟨.float, rfl, by decide⟩, Or.inr fun c member => mem_take_floatLength member⟩)

end QueryCompletion.Lexer
