import QueryCompletion.Proofs.Lexer.Parts

/-!
The spans of the tokens. They lie one behind the other and hold what the tokens say; what stands
outside of them is blank or begins no token, so nothing that could be recognized is lost.
-/

namespace QueryCompletion.Lexer

/-- A token holds the characters between its offsets, a string literal those between its quotes. -/
structure Spans (text : Text) (token : Token) : Prop where
  ordered : token.start < token.stop
  within : token.stop ≤ text.length
  plain : token.kind ≠ .string → token.value = text.slice token.start token.stop
  quoted : token.kind = .string → token.start + 2 ≤ token.stop ∧ text[token.start]? = some '"' ∧
    text[token.stop - 1]? = some '"' ∧
    token.value = text.slice (token.start + 1 : Nat) (token.stop - 1 : Nat)

/-- No token begins with a character that stands before the rest of a text. -/
structure BeginsNothing (c : Char) (rest : Text) : Prop where
  noWord : isNameStart c = false
  noDigit : isDigit c = false
  noSymbol : c ∉ ['.', ',', '(', ')', '=', '>', '<', '~']
  noNegation : c = '!' → rest.head? ≠ some '=' ∧ rest.head? ≠ some '~'
  noNumber : c = '-' → ∀ d ∈ rest.head?, isDigit d = false
  noLiteral : c = '"' → ¬ ∃ body behind, StringBody body ∧ rest = body ++ '"' :: behind

/-- The tokens emitted so far lie one behind the other. -/
theorem Reach.pairwise {text : Text} {tokens : List Token} {position : Nat}
    (reach : Reach text tokens position) :
    tokens.Pairwise fun first second => first.stop ≤ second.start := by
  induction reach with
  | start => exact .nil
  | @next tokens position previous _ ih =>
    cases found : emitted text position with
    | none => simpa using ih
    | some token =>
      obtain ⟨start, _⟩ := emitted_eq_some found
      refine List.pairwise_append.mpr ⟨ih, List.pairwise_singleton _ _, fun earlier inside last same => ?_⟩
      obtain ⟨_, _, _, bound⟩ := previous.mem inside
      rw [List.mem_singleton.mp same, start]
      exact bound

/-- The characters between the offsets of a token that was emitted. -/
theorem slice_emitted {text : Text} {token : Token} (emits : emitted text token.start = some token) :
    text.slice token.start token.stop =
      (text.drop token.start).take (longest (text.drop token.start)).length := by
  obtain ⟨_, _, stop, kind, _⟩ := emitted_eq_some emits
  have positive := longest_pos_of_kind kind
  have bound := longest_length_le (text.drop token.start)
  rw [List.length_drop] at bound
  rw [Text.slice_natCast (by omega), List.drop_take, stop, Nat.add_sub_cancel_left]

theorem spans_of_mem {text : Text} {token : Token} (inside : token ∈ tokenize text) : Spans text token := by
  obtain ⟨_, _, emits, within⟩ := (reach_length text).mem inside
  obtain ⟨_, _, stop, kind, value⟩ := emitted_eq_some emits
  have ordered := start_lt_stop emits
  refine ⟨ordered, within, fun other => ?_, fun string => ?_⟩
  · rw [slice_emitted emits, value, tokenValue, if_neg other]
  · have literal := literal_of_emitted emits string
    obtain ⟨long, closes⟩ := literal.closes
    obtain ⟨rest, _, opens, _⟩ := literal.tail
    refine ⟨by omega, ?_, by rw [stop]; exact closes, ?_⟩
    · rw [← List.head?_drop, opens]
      rfl
    · have length : ((text.drop token.start).take (longest (text.drop token.start)).length).length =
          (longest (text.drop token.start)).length := List.length_take_of_le (longest_length_le _)
      rw [value, tokenValue, if_pos string, List.dropLast_eq_take, List.length_drop, length,
        Text.slice_natCast (by omega), List.drop_take, List.drop_take, List.drop_drop, List.take_take]
      congr 1
      omega

theorem symbol_mem_rules : ∀ entry ∈ symbols, (⟨some entry.2, wordLength entry.1⟩ : Rule) ∈ rules := by
  unfold symbols
  simp only [List.forall_mem_cons, List.not_mem_nil, false_imp_iff, implies_true, and_true]
  simp only [rules, List.mem_cons, true_or, or_true, and_self]

/-- Where the punctuation of the language stands, something matches. -/
theorem longest_pos_of_symbol {entry : Text × TokenKind} (inside : entry ∈ symbols) (rest : Text) :
    0 < (longest (entry.1 ++ rest)).length := by
  have some' : ∀ entry ∈ symbols, 0 < entry.1.length := by decide
  have accepts : wordLength entry.1 (entry.1 ++ rest) = entry.1.length :=
    if_pos (List.isPrefixOf_iff_prefix.mpr (List.prefix_append _ _))
  have bound := accepts_le_longest (entry.1 ++ rest) (symbol_mem_rules entry inside)
  have positive := some' entry inside
  dsimp only at bound
  omega

theorem longest_pos_of_negative {d : Char} (rest : Text) (digit : isDigit d = true) :
    0 < (longest ('-' :: d :: rest)).length := by
  have number : 0 < intLength ('-' :: d :: rest) := by
    have natural : naturalLength (d :: rest) ≠ 0 := by
      rw [naturalLength, if_pos digit]
      split <;> omega
    rw [intLength_minus, if_neg natural]
    omega
  exact Nat.lt_of_lt_of_le number (accepts_le_longest ('-' :: d :: rest) int_mem_rules)

theorem longest_literal {body : Text} (items : StringBody body) (rest : Text) :
    longest ('"' :: (body ++ '"' :: rest)) = ⟨some .string, body.length + 2⟩ := by
  have table : ∀ entry ∈ symbols, entry.1.head? ≠ some '"' := by decide
  have length : stringLength ('"' :: (body ++ '"' :: rest)) = body.length + 2 := by
    rw [stringLength_quote, stringTail?_eq_some_iff.mpr ⟨body, rest, items, rfl, rfl⟩]
    rfl
  have bound := accepts_le_longest ('"' :: (body ++ '"' :: rest)) string_mem_rules
  rcases longest_cases ('"' :: (body ++ '"' :: rest)) with nothing | ⟨rule, shape, same, positive⟩
  · rw [nothing] at bound
    exact absurd (Nat.le_trans (Nat.le_of_eq length.symm) bound) (Nat.not_succ_le_zero _)
  rw [same]
  rcases rule_of_accepts shape positive rfl rfl rfl (by decide) with ⟨entry, inside, starts, _⟩ | ⟨_, rfl⟩
  · exact absurd starts (table entry inside)
  · exact congrArg (Match.mk (some .string)) length

/-- Where nothing matches, no token begins. -/
theorem beginsNothing_of_longest {c : Char} {rest : Text} (nothing : (longest (c :: rest)).length = 0) :
    BeginsNothing c rest where
  noWord := by
    by_contra start
    have positive := longest_pos_of_part rest (isNamePart_of_isNameStart (by simpa using start))
    omega
  noDigit := by
    by_contra digit
    have positive := longest_pos_of_part rest (show isNamePart c = true by simp [isNamePart, digit])
    omega
  noSymbol := by
    intro inside
    have single : ['.', ',', '(', ')', '=', '>', '<', '~'].all (fun c => symbols.any (·.1 == [c])) = true := by
      decide
    obtain ⟨entry, member, word⟩ := List.any_eq_true.mp (List.all_eq_true.mp single c inside)
    rw [beq_iff_eq] at word
    have positive := longest_pos_of_symbol member rest
    rw [word, List.singleton_append] at positive
    omega
  noNegation := by
    rintro rfl
    constructor
    all_goals
      intro next
      obtain ⟨more, rfl⟩ := List.head?_eq_some_iff.mp next
    · have positive := @longest_pos_of_symbol (['!', '='], .notEquals) (by decide) more
      exact absurd nothing (Nat.ne_of_gt positive)
    · have positive := @longest_pos_of_symbol (['!', '~'], .notContains) (by decide) more
      exact absurd nothing (Nat.ne_of_gt positive)
  noNumber := by
    rintro rfl d next
    obtain ⟨more, rfl⟩ := List.head?_eq_some_iff.mp next
    by_contra digit
    have positive := longest_pos_of_negative more (show isDigit d = true by simpa using digit)
    omega
  noLiteral := by
    rintro rfl ⟨body, behind, items, rfl⟩
    rw [longest_literal items] at nothing
    cases nothing

/-- An index outside of all spans holds a blank, or the loop passed it because nothing matched there. -/
theorem blank_or_beginsNothing {text : Text} {i : Nat} {c : Char} (atIndex : text[i]? = some c)
    (outside : ∀ token ∈ tokenize text, ¬ (token.start ≤ i ∧ i < token.stop)) :
    isBlank c = true ∨ BeginsNothing c (text.drop (i + 1)) := by
  have within : i < text.length := (List.getElem?_eq_some_iff.mp atIndex).1
  obtain ⟨tokens, position, reach, lower, upper⟩ := exists_reach_past (Nat.le_of_lt within)
  have silent : emitted text position = none := by
    by_contra found
    obtain ⟨token, emits⟩ := Option.ne_none_iff_exists'.mp found
    obtain ⟨start, stop, _⟩ := emitted_eq_some emits
    rw [← start] at reach emits
    exact outside token (reach.mem_tokenize emits) ⟨by omega, by omega⟩
  by_cases positive : 0 < (longest (text.drop position)).length
  · rcases emitted_or_blanks positive with ⟨token, emits⟩ | blanks
    · rw [silent] at emits
      cases emits
    · refine Or.inl (blanks c (mem_lexeme lower ?_ atIndex))
      unfold advance at upper
      omega
  · have here : position = i := by
      unfold advance at upper
      omega
    have split : text.drop i = c :: text.drop (i + 1) := by
      rw [List.drop_eq_getElem_cons within, (List.getElem?_eq_some_iff.mp atIndex).2]
    rw [here, split] at positive
    exact Or.inr (beginsNothing_of_longest (Nat.eq_zero_of_not_pos positive))

/-- The tokens of a text partition it: they lie one behind the other, each holds the characters of its
span, and what stands outside of their spans is blank or begins no token. -/
theorem tokens_partition_text (text : Text) :
    ((tokenize text).Pairwise fun first second => first.stop ≤ second.start) ∧
      (∀ token ∈ tokenize text, Spans text token) ∧
      ∀ i c, text[i]? = some c →
        (∀ token ∈ tokenize text, ¬ (token.start ≤ i ∧ i < token.stop)) →
        isBlank c = true ∨ BeginsNothing c (text.drop (i + 1)) :=
  ⟨(reach_length text).pairwise, fun _ inside => spans_of_mem inside,
    fun _ _ atIndex outside => blank_or_beginsNothing atIndex outside⟩

/-- A literal with an escaped quote holds what stands between its quotes, and an exclamation mark before
a letter begins no token. -/
theorem tokens_partition_text_with_rest :
    let text := "name = \"a\\\"b\" !x".toList
    Spans text ⟨.string, "a\\\"b".toList, 7, 13⟩ ∧ text[14]? = some '!' ∧ BeginsNothing '!' ['x'] := by
  intro text
  obtain ⟨_, spans, rest⟩ := tokens_partition_text text
  refine ⟨spans _ (by decide +kernel), rfl, ?_⟩
  exact (rest 14 '!' rfl (by decide +kernel)).resolve_left (by decide)

end QueryCompletion.Lexer
