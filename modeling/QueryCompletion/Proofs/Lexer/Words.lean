import QueryCompletion.Proofs.Lexer.Dotted

/-!
Words. Where a word can begin the tokenizer takes the longest dotted name that stands there, and looks up
in the table of reserved words what kind of token it is.
-/

namespace QueryCompletion.Lexer

/-- The longest dotted name at the start of a text. -/
structure LongestWord (text word : Text) : Prop where
  dotted : Dotted word
  starts : word <+: text
  longest : ∀ other, Dotted other → other <+: text → other.length ≤ word.length

/-- Kinds of tokens that are words. -/
def isWordKind (kind : TokenKind) : Bool := kind == .name || reservedWords.any (·.2 == kind)

theorem segment_identifier {c : Char} (rest : Text) (start : isNameStart c = true) :
    IsIdentifier (segment (c :: rest)) := by
  have parts := segment_parts (c :: rest)
  have first : segment (c :: rest) = c :: rest.take (runLength isNamePart rest) := by
    simp [segment, runLength, isNamePart_of_isNameStart start]
  rw [first] at parts ⊢
  exact ⟨c, _, rfl, start, fun d inside => parts d (List.mem_cons_of_mem _ inside)⟩

/-- What the rule for names accepts is a dotted name. -/
theorem dotted_take_nameLength {text : Text} (found : 0 < nameLength text) :
    Dotted (text.take (nameLength text)) := by
  induction length : text.length using Nat.strongRecOn generalizing text with
  | ind n ih =>
    cases text with
    | nil => simp [nameLength] at found
    | cons c rest =>
      have start : isNameStart c = true := by
        by_contra other
        simp [nameLength, other] at found
      have identifier := segment_identifier rest start
      have whole := nameLength_eq_segment rest start
      have bound := segment_length (c :: rest)
      have split : c :: rest = segment (c :: rest) ++ (c :: rest).drop (runLength isNamePart (c :: rest)) :=
        (List.take_append_drop _ _).symm
      have stops := head?_drop_segment (c :: rest)
      have positive : 0 < runLength isNamePart (c :: rest) := by
        simp [runLength, isNamePart_of_isNameStart start]
      -- Behind the first segment stands nothing, a dot or what no name goes on with.
      rw [whole]
      generalize behind : (c :: rest).drop (runLength isNamePart (c :: rest)) = tail at split stops
      have shorter : tail.length < n := by
        rw [← behind, List.length_drop, length]
        simp only [List.length_cons] at length
        omega
      have alone : Dotted ((c :: rest).take (segment (c :: rest)).length) := by
        rw [bound]
        exact .single identifier
      cases tail with
      | nil => exact alone
      | cons d more =>
        have noPart := stops d rfl
        by_cases dot : d = '.'
        · subst dot
          rw [nameTail_dot]
          split
          · exact alone
          · rename_i goes
            rw [List.take_add, bound, behind, List.take_succ_cons]
            refine .step identifier (ih more.length ?_ (Nat.pos_of_ne_zero goes) rfl)
            rw [List.length_cons] at shorter
            omega
        · rw [nameTail_other more noPart dot]
          exact alone

/-- The rule for names accepts the longest dotted name. -/
theorem longestWord_take {c : Char} (rest : Text) (start : isNameStart c = true) :
    LongestWord (c :: rest) ((c :: rest).take (nameLength (c :: rest))) := by
  refine ⟨dotted_take_nameLength (nameLength_pos rest start), List.take_prefix _ _, ?_⟩
  rintro other dotted ⟨behind, same⟩
  have accepted := nameLength_dotted behind dotted
  rw [same] at accepted
  rw [length_take_nameLength, accepted]
  exact Nat.le_add_right _ _

/-- Where a word can begin, the token is the longest dotted name there, of the kind that it has in the
table. -/
theorem emitted_of_word {text : Text} {position : Nat} {c : Char} (atStart : text[position]? = some c)
    (start : isNameStart c = true) :
    ∃ word, LongestWord (text.drop position) word ∧
      emitted text position = some ⟨wordKind word, word, position, position + word.length⟩ := by
  rw [← List.head?_drop] at atStart
  obtain ⟨rest, split⟩ := List.head?_eq_some_iff.mp atStart
  refine ⟨_, split ▸ longestWord_take rest start, ?_⟩
  rw [emitted, split, longest_of_word rest start, tokenAt?, Option.map_some, tokenValue,
    if_neg (wordKind_ne_string _), length_take_nameLength]

/-- Only where a word can begin a token of such a kind is matched. -/
theorem isNameStart_of_kind {text : Text} {kind : TokenKind} (found : (longest text).kind = some kind)
    (word : isWordKind kind = true) : ∃ c, text.head? = some c ∧ isNameStart c = true := by
  have noSymbol : ∀ entry ∈ symbols, isWordKind entry.2 = false := by decide
  rcases longest_cases text with nothing | ⟨rule, shape, same, positive⟩
  · rw [nothing] at found
    cases found
  rw [same] at found
  cases text with
  | nil =>
    have bound := accepts_le_length shape []
    exact absurd (Nat.lt_of_lt_of_le positive bound) (Nat.lt_irrefl 0)
  | cons c rest =>
    refine ⟨c, rfl, ?_⟩
    by_contra other
    rw [Bool.not_eq_true] at other
    cases shape with
    | symbol inside =>
      cases found
      rw [noSymbol _ inside] at word
      cases word
    | keyword inside =>
      have zero := keywordLength_of_not_start rest (reservedWords_identifier _ inside) other
      exact absurd zero (Nat.ne_of_gt positive)
    | name => exact absurd (nameLength_other rest other) (Nat.ne_of_gt positive)
    | _ => cases found <;> cases word

/-- A token that is a word is the longest dotted name where it begins, of the kind that it has in the
table. -/
theorem longestWord_of_mem {text : Text} {token : Token} (inside : token ∈ tokenize text)
    (word : isWordKind token.kind = true) :
    LongestWord (text.drop token.start) token.value ∧ token.kind = wordKind token.value := by
  obtain ⟨_, _, emits, _⟩ := (reach_length text).mem inside
  obtain ⟨_, _, _, kind, _⟩ := emitted_eq_some emits
  obtain ⟨c, first, start⟩ := isNameStart_of_kind kind word
  rw [List.head?_drop] at first
  obtain ⟨value, longest, same⟩ := emitted_of_word first start
  have parts := Option.some.inj (emits.symm.trans same)
  rw [parts]
  exact ⟨longest, rfl⟩

/-- Wherever the loop stands before a character with which a word can begin, it takes the longest dotted
name, of the kind that it has in the table, and goes on behind it. So no name is a reserved word, and no
reserved word is taken where a longer dotted name stands. -/
theorem words_are_looked_up (text : Text) :
    (∀ tokens position c, Reach text tokens position → text[position]? = some c → isNameStart c = true →
      ∃ word, LongestWord (text.drop position) word ∧
        tokenize text = tokens ++ ⟨wordKind word, word, position, position + word.length⟩ ::
          scan (position + word.length) (text.drop (position + word.length))) ∧
      (∀ token ∈ tokenize text, token.kind = .name → ∀ entry ∈ reservedWords, token.value ≠ entry.1) ∧
      ∀ token ∈ tokenize text, (∃ entry ∈ reservedWords, token.kind = entry.2) →
        ∀ word, Dotted word → word <+: text.drop token.start → ¬ token.value.length < word.length := by
  refine ⟨fun tokens position c reach atStart start => ?_, fun token inside name entry reserved same => ?_,
    fun token inside reserved word dotted starts => ?_⟩
  · obtain ⟨word, longest, emits⟩ := emitted_of_word atStart start
    exact ⟨word, longest, reach.tokenize_of_emitted emits⟩
  · have table : ∀ entry ∈ reservedWords, wordKind entry.1 ≠ .name := by decide
    obtain ⟨_, kind⟩ := longestWord_of_mem inside (by rw [name]; rfl)
    rw [name, same] at kind
    exact table entry reserved kind.symm
  · have table : ∀ entry ∈ reservedWords, isWordKind entry.2 = true := by decide
    obtain ⟨entry, member, kind⟩ := reserved
    obtain ⟨longest, _⟩ := longestWord_of_mem inside (kind ▸ table entry member)
    exact Nat.not_lt.mpr (longest.longest word dotted starts)

/-- A reserved word goes on in a dotted name and stands alone before a dot behind which no name begins. -/
theorem words_are_looked_up_before_dots :
    let text := "or.x or.1".toList
    (∃ word, LongestWord text word ∧
      tokenize text = ⟨wordKind word, word, 0, word.length⟩ :: scan word.length (text.drop word.length)) ∧
      (⟨.name, "or.x".toList, 0, 4⟩ ∈ tokenize text ∧ "or.x".toList ≠ "or".toList) ∧
      ⟨.orWord, "or".toList, 5, 7⟩ ∈ tokenize text ∧
      ∀ word, Dotted word → word <+: "or.1".toList → ¬ 2 < word.length := by
  intro text
  obtain ⟨taken, names, reserved⟩ := words_are_looked_up text
  have name : ⟨.name, "or.x".toList, 0, 4⟩ ∈ tokenize text := by decide +kernel
  have connector : ⟨.orWord, "or".toList, 5, 7⟩ ∈ tokenize text := by decide +kernel
  refine ⟨?_, ⟨name, names _ name rfl ("or".toList, .orWord) (by decide)⟩, connector, ?_⟩
  · obtain ⟨word, longest, same⟩ := taken [] 0 'o' .start rfl rfl
    rw [Nat.zero_add] at same
    exact ⟨word, longest, same⟩
  · exact reserved _ connector ⟨("or".toList, .orWord), by decide, rfl⟩

end QueryCompletion.Lexer
