import QueryCompletion.Proofs.Lexer.Parts

/-!
Writing tokens out again. What a token was read from is one token wherever it stands before a blank, so
the tokens of a text can be written with single spaces between them and read back.
-/

namespace QueryCompletion

/-- The characters a token is written with: its value, for a string literal between quotes. -/
def Token.rendered (token : Token) : Text :=
  if token.kind = .string then '"' :: (token.value ++ ['"']) else token.value

theorem Token.value_of_rendered (token : Token) :
    Lexer.tokenValue token.kind token.rendered = token.value := by
  unfold Lexer.tokenValue rendered
  split
  · rw [List.drop_one, List.tail_cons, List.dropLast_concat]
  · rfl

namespace Lexer

/-- A word that the rules take as one token from its first to its last character. -/
def Whole (kind : TokenKind) (word : Text) : Prop := longest word = ⟨some kind, word.length⟩

theorem rendered_of_emitted {text : Text} {token : Token} (emits : emitted text token.start = some token) :
    token.rendered = (text.drop token.start).take (longest (text.drop token.start)).length := by
  obtain ⟨_, _, _, _, value⟩ := emitted_eq_some emits
  by_cases string : token.kind = .string
  · obtain ⟨_, body, _, lexeme⟩ := literal_of_emitted emits string
    rw [lexeme, tokenValue, if_pos string, List.cons_append, List.drop_one, List.tail_cons,
      List.dropLast_concat] at value
    rw [Token.rendered, if_pos string, value, lexeme]
    rfl
  · rw [Token.rendered, if_neg string, value, tokenValue, if_neg string]

/-- What a token of a text is written with makes that token by itself. -/
theorem whole_of_mem {text : Text} {token : Token} (inside : token ∈ tokenize text) :
    Whole token.kind token.rendered := by
  obtain ⟨_, _, emits, _⟩ := (reach_length text).mem inside
  obtain ⟨_, _, _, kind, _⟩ := emitted_eq_some emits
  unfold Whole
  rw [rendered_of_emitted emits, longest_take (Nat.le_refl _), List.length_take,
    Nat.min_eq_left (longest_length_le _), ← kind]

namespace Whole

variable {kind : TokenKind} {word : Text}

theorem length_pos (whole : Whole kind word) : 0 < word.length := by
  have positive := longest_pos_of_kind (congrArg Match.kind whole)
  rwa [whole] at positive

/-- A token is a literal, or one character, or made of solid characters only. -/
theorem cases (whole : Whole kind word) :
    Literal word 0 ∨ word.length = 1 ∨ ∀ c ∈ word, isSolid c = true := by
  have length : (longest word).length = word.length := by rw [whole]
  have lexeme := longest_lexeme (length ▸ whole.length_pos)
  rw [length, List.take_length, whole] at lexeme
  rcases lexeme with ⟨none', _⟩ | ⟨string, body⟩ | ⟨_, single | solid⟩
  · cases none'
  · refine Or.inl ⟨?_, ?_⟩
    · rw [List.drop_zero, whole]
      exact string
    · rw [List.drop_zero, length, List.take_length]
      exact body
  · exact Or.inr (Or.inl single)
  · exact Or.inr (Or.inr solid)

/-- No token ends with a blank. -/
theorem not_isBlank_last (whole : Whole kind word) {c : Char} (last : word.getLast? = some c) :
    isBlank c = false := by
  by_contra blank
  rw [Bool.not_eq_false] at blank
  rcases whole.cases with ⟨_, body, _, lexeme⟩ | single | solid
  · rw [List.drop_zero, whole, List.take_length] at lexeme
    rw [lexeme, List.getLast?_concat] at last
    cases last
    cases blank
  · obtain ⟨d, rfl⟩ := List.length_eq_one_iff.mp single
    obtain rfl : d = c := Option.some.inj last
    rw [Whole, longest_of_blank [] blank] at whole
    cases whole
  · have solid' := solid c (List.mem_of_getLast? last)
    rw [not_isSolid_of_open (Or.inl blank)] at solid'
    cases solid'

/-- A token that begins with a quote is a literal. -/
theorem literal_of_quote (whole : Whole kind word) {rest : Text} (quote : word = '"' :: rest) :
    Literal word 0 := by
  rcases whole.cases with literal | single | solid
  · exact literal
  · exfalso
    obtain rfl : rest = [] := by simpa [quote] using single
    rw [quote] at whole
    have nothing : longest ['"'] = ⟨none, 0⟩ := by decide
    rw [Whole, nothing] at whole
    cases whole
  · have solid' := solid '"' (by rw [quote]; exact List.mem_cons_self)
    cases solid'

/-- Before a blank the word is matched as it is by itself. -/
theorem append_blank (whole : Whole kind word) (rest : Text) :
    longest (word ++ ' ' :: rest) = ⟨some kind, word.length⟩ := by
  by_cases fits : (longest (word ++ ' ' :: rest)).length ≤ word.length
  · rw [← longest_take fits, List.take_left]
    exact whole
  exfalso
  have crosses := @exists_over word (' ' :: rest) 0 whole.length_pos (by rw [List.drop_zero]; omega)
  obtain ⟨x, y, last, first, ⟨blank, _⟩ | literal | ⟨_, solid⟩⟩ := crosses
  · rw [whole.not_isBlank_last last] at blank
    cases blank
  · -- The literal opens with the quote of the word, which closes it within the word.
    obtain ⟨c, others, parts⟩ := List.exists_cons_of_length_pos whole.length_pos
    obtain ⟨_, _, opens, _⟩ := literal.tail
    rw [parts, List.drop_zero, List.cons_append] at opens
    have same := (whole.literal_of_quote (parts.trans (by rw [(List.cons.inj opens).1]))).length_append literal
    rw [List.drop_zero, List.drop_zero, whole] at same
    exact fits (Nat.le_of_eq same)
  · cases first
    cases solid

theorem tokenize_append_blank (whole : Whole kind word) (rest : Text) :
    (tokenize (word ++ ' ' :: rest)).map Token.content =
      (kind, tokenValue kind word) :: (tokenize rest).map Token.content := by
  have positive := whole.length_pos
  have matched := whole.append_blank rest
  have passed : advance (word ++ ' ' :: rest) = word.length := by
    rw [advance, matched]
    exact Nat.max_eq_right positive
  rw [tokenize, scan_eq 0 (by simp), passed, List.drop_left, scan_blank _ rest rfl, matched, tokenAt?,
    List.map_append, scan_content _ 0]
  simp only [Option.map_some, Option.toList_some, List.take_left, List.map_cons, List.map_nil,
    List.singleton_append, Token.content, tokenize]

theorem tokenize_self (whole : Whole kind word) :
    (tokenize word).map Token.content = [(kind, tokenValue kind word)] := by
  have positive := whole.length_pos
  have passed : advance word = word.length := by
    rw [advance, whole]
    exact Nat.max_eq_right positive
  rw [tokenize, scan_eq 0 (List.ne_nil_of_length_pos positive), passed, List.drop_length, scan_nil, whole]
  simp [tokenAt?, Token.content]

end Whole

/-- Words that are one token each are read back from between single spaces. -/
theorem tokenize_joinWith {tokens : List Token}
    (whole : ∀ token ∈ tokens, Whole token.kind token.rendered) :
    (tokenize (Text.joinWith [' '] (tokens.map Token.rendered))).map Token.content =
      tokens.map Token.content := by
  induction tokens with
  | nil => exact congrArg (List.map Token.content) (scan_nil 0)
  | cons token others ih =>
    have first := whole token List.mem_cons_self
    have later := ih fun other inside => whole other (List.mem_cons_of_mem _ inside)
    cases others with
    | nil =>
      show (tokenize token.rendered).map Token.content = [token.content]
      rw [first.tokenize_self, token.value_of_rendered]
      rfl
    | cons next more =>
      have joined : Text.joinWith [' '] ((token :: next :: more).map Token.rendered) =
          token.rendered ++ ' ' :: Text.joinWith [' '] ((next :: more).map Token.rendered) := by
        simp [Text.joinWith]
      rw [joined, first.tokenize_append_blank, later, token.value_of_rendered]
      rfl

/-- The tokens of a text, written one after another with single spaces between them, are read back with
the same kinds and values. -/
theorem tokens_survive_rendering (text : Text) :
    (tokenize (Text.joinWith [' '] ((tokenize text).map Token.rendered))).map Token.content =
      (tokenize text).map Token.content :=
  tokenize_joinWith fun _ inside => whole_of_mem inside

example : Text.joinWith [' '] ((tokenize "a.b>=01 ,\"x  y\"!".toList).map Token.rendered) =
    "a.b >= 0 1 , \"x  y\"".toList := by decide +kernel

end Lexer

end QueryCompletion
