import QueryCompletion.Proofs.Lexer.Parts

/-!
Lines. No token goes over a line break, and blanks around one are passed over, so the lines of a text have
the tokens that each of them has alone.
-/

namespace QueryCompletion.Lexer

theorem isLineBreak_cases {c : Char} (breaks : isLineBreak c = true) :
    Text.isSpace c = true ∧ c ≠ '"' ∧ isEscapable c = false ∧ isHexDigit c = false := by
  simp only [isLineBreak, Bool.or_eq_true, beq_iff_eq] at breaks
  rcases breaks with ((rfl | rfl) | rfl) | rfl <;> decide

theorem StringItem.no_break {item : Text} (shape : StringItem item) {c : Char} (inside : c ∈ item) :
    isLineBreak c = false := by
  by_contra breaks
  obtain ⟨_, _, noEscape, noHex⟩ := isLineBreak_cases (by simpa using breaks)
  cases shape with
  | plain _ _ noBreak =>
    rw [List.mem_singleton.mp inside, noBreak] at breaks
    exact breaks rfl
  | escape escapable =>
    rcases List.mem_pair.mp inside with rfl | rfl
    · exact breaks rfl
    · rw [escapable] at noEscape
      cases noEscape
  | code first second third fourth =>
    simp only [List.mem_cons, List.not_mem_nil, or_false] at inside
    rcases inside with rfl | rfl | rfl | rfl | rfl | rfl
    · exact breaks rfl
    · exact breaks rfl
    all_goals simp_all

theorem StringBody.no_break {body : Text} (items : StringBody body) {c : Char} (inside : c ∈ body) :
    isLineBreak c = false := by
  induction items with
  | nil => cases inside
  | item item _ ih =>
    rcases List.mem_append.mp inside with first | later
    · exact item.no_break first
    · exact ih later

variable {front rest : Text} {separator : Char} {position : Nat}

/-- No string literal goes over a line break. -/
theorem Literal.not_over_break (literal : Literal (front ++ separator :: rest) position)
    (breaks : isLineBreak separator = true) (left : position < front.length) :
    position + (longest ((front ++ separator :: rest).drop position)).length ≤ front.length := by
  by_contra across
  obtain ⟨_, body, items, lexeme⟩ := literal
  have atBreak : (front ++ separator :: rest)[front.length]? = some separator := by simp
  have inside := mem_lexeme (Nat.le_of_lt left) (Nat.lt_of_not_le across) atBreak
  have noQuote := (isLineBreak_cases breaks).2.1
  rw [lexeme, List.mem_append, List.mem_cons, List.mem_singleton] at inside
  rcases inside with (opens | later) | closes
  · exact noQuote opens
  · rw [items.no_break later] at breaks
    cases breaks
  · exact noQuote closes

/-- The loop comes to a line break, or to blanks that stand before it. -/
theorem exists_reach_break (front rest : Text) (breaks : isLineBreak separator = true) :
    ∃ tokens position, Reach (front ++ separator :: rest) tokens position ∧ position ≤ front.length ∧
      ∀ c ∈ front.drop position, isBlank c = true := by
  have within : front.length ≤ (front ++ separator :: rest).length := by simp
  obtain ⟨tokens, position, reach, rfl | ⟨left, right⟩⟩ := exists_reach within
  · refine ⟨tokens, _, reach, Nat.le_refl _, fun c inside => ?_⟩
    rw [List.drop_length] at inside
    cases inside
  refine ⟨tokens, position, reach, Nat.le_of_lt left, ?_⟩
  have atBreak : (front ++ separator :: rest)[front.length]? = some separator := by simp
  have inside := mem_lexeme (Nat.le_of_lt left) right atBreak
  have space := (isLineBreak_cases breaks).1
  have positive : 0 < (longest ((front ++ separator :: rest).drop position)).length := by omega
  -- Of the three shapes that a match can have only a run of blanks goes over the break.
  rcases longest_lexeme positive with ⟨_, blanks⟩ | literal | ⟨_, single | solid⟩
  · intro c member
    obtain ⟨j, atIndex⟩ := List.mem_iff_getElem?.mp member
    rw [List.getElem?_drop] at atIndex
    have before := (List.getElem?_eq_some_iff.mp atIndex).1
    refine blanks c (mem_lexeme (i := position + j) (Nat.le_add_right _ _) (by omega) ?_)
    rw [List.getElem?_append_left before, atIndex]
  · have literal : Literal (front ++ separator :: rest) position := literal
    have bound := literal.not_over_break breaks left
    omega
  · omega
  · have solid' := solid _ inside
    rw [not_isSolid_of_isSpace space] at solid'
    cases solid'

/-- The tokens of two lines are those of the first and then those of the second, as each line has them
alone, wherever a line feed, a carriage return or one of the other two line breaks stands between them. -/
theorem lines_tokenize_independently (front rest : Text) (breaks : isLineBreak separator = true) :
    tokenize (front ++ separator :: rest) =
      tokenize front ++ (tokenize rest).map (Token.shift (front.length + 1)) := by
  obtain ⟨tokens, position, reach, below, blanks⟩ := exists_reach_break front rest breaks
  have alone : tokenize front = tokens := by
    have all := (reach.take below).tokenize_eq
    have nothing := scan_blanks position blanks []
    rw [List.append_nil, scan_nil] at nothing
    rwa [List.take_left, nothing, List.append_nil] at all
  have spaces : ∀ c ∈ front.drop position ++ [separator], Text.isSpace c = true := by
    intro c inside
    rcases List.mem_append.mp inside with before | last
    · exact isSpace_of_isBlank (blanks c before)
    · rw [List.mem_singleton.mp last]
      exact (isLineBreak_cases breaks).1
  have length : position + (front.drop position ++ [separator]).length = front.length + 1 := by
    rw [List.length_append, List.length_drop, List.length_singleton]
    omega
  calc tokenize (front ++ separator :: rest)
      = tokens ++ scan position (front.drop position ++ [separator] ++ rest) := by
        rw [reach.tokenize_eq, List.drop_append_of_le_length below, List.append_assoc]
        rfl
    _ = tokens ++ scan (front.length + 1) rest := by rw [scan_spaces position rest spaces, length]
    _ = tokenize front ++ (tokenize rest).map (Token.shift (front.length + 1)) := by
        rw [alone, scan_eq_tokenize]

/-- A quote that is open at the end of a line makes no literal with one on the next line. -/
theorem lines_tokenize_independently_in_open_literal :
    let front := "name = \"x or ".toList
    let rest := " y\" @ .5".toList
    (isLineBreak '\n' = true ∧
        tokenize (front ++ '\n' :: rest) = tokenize front ++ (tokenize rest).map (Token.shift 14)) ∧
      isLineBreak '\r' = true ∧
        tokenize (front ++ '\r' :: rest) = tokenize front ++ (tokenize rest).map (Token.shift 14) :=
  ⟨⟨rfl, lines_tokenize_independently _ _ rfl⟩, rfl, lines_tokenize_independently _ _ rfl⟩

end QueryCompletion.Lexer
