import QueryCompletion.Proofs.Lexer.Dotted

/-!
Places where a new word begins. Behind a blank or an opening parenthesis the loop starts afresh, and
a dotted name goes on behind its last dot, whatever stands before it.
-/

namespace QueryCompletion.Lexer

/-- An opening parenthesis is one character. -/
theorem parenL_char {text : Text} {position : Nat} {token : Token}
    (found : emitted text position = some token) (kind : token.kind = .parenL) :
    token.stop = position + 1 ∧ text[position]? = some '(' := by
  obtain ⟨_, _, stop, isKind, _⟩ := emitted_eq_some found
  rw [kind] at isKind
  have bySymbol : ∀ entry ∈ symbols, entry.2 = .parenL → entry.1 = ['('] := by decide
  have noWord : ∀ entry ∈ reservedWords, entry.2 ≠ .parenL := by decide
  rcases longest_cases (text.drop position) with nothing | ⟨rule, shape, same, positive⟩
  · rw [nothing] at isKind; cases isKind
  rw [same] at isKind stop
  cases shape with
  | @symbol word other inside =>
    cases isKind
    obtain rfl := bySymbol _ inside rfl
    have lexeme := take_wordLength positive
    have one := congrArg List.length lexeme
    have bound := accepts_le_length (.symbol inside) (text.drop position)
    rw [List.length_take, Nat.min_eq_left bound] at one
    refine ⟨by rw [stop]; exact congrArg (position + ·) one, ?_⟩
    have first := congrArg List.head? lexeme
    rw [List.head?_take, if_neg (Nat.ne_of_gt positive), List.head?_drop] at first
    exact first
  | keyword inside => cases isKind; exact absurd rfl (noWord _ inside)
  | _ => cases isKind

/-- The text ends where a new word can begin. -/
def EndsOpen (head : Text) : Prop := ∀ c ∈ head.getLast?, isBlank c = true ∨ c = '('

theorem endsOpen_blanks {front blanks : Text} (some' : blanks ≠ [])
    (all : ∀ c ∈ blanks, isBlank c = true) : EndsOpen (front ++ blanks) := by
  intro c last
  rw [List.getLast?_append_of_ne_nil _ some'] at last
  exact Or.inl (all c (List.mem_of_getLast? last))

theorem mem_of_open {c : Char} (opens : isBlank c = true ∨ c = '(') : c ∈ '(' :: blanks :=
  List.mem_cons.mpr (opens.symm.imp_right mem_blanks)

theorem not_isSolid_of_open {c : Char} (opens : isBlank c = true ∨ c = '(') : isSolid c = false := by
  have all : ('(' :: blanks).all (fun c => !isSolid c) = true := by decide
  simpa using List.all_eq_true.mp all c (mem_of_open opens)

theorem mem_lexeme {text : Text} {position length i : Nat} {c : Char} (lower : position ≤ i)
    (upper : i < position + length) (atIndex : text[i]? = some c) :
    c ∈ (text.drop position).take length := by
  refine mem_take_of_getElem? (i := i - position) (by omega) ?_
  rw [List.getElem?_drop, show position + (i - position) = i by omega]
  exact atIndex

/-- The loop finds a string literal at a position. -/
def Literal (text : Text) (position : Nat) : Prop :=
  (longest (text.drop position)).kind = some .string ∧
    ∃ body, StringBody body ∧
      (text.drop position).take (longest (text.drop position)).length = '"' :: body ++ ['"']

theorem Literal.closes {text : Text} {position : Nat} (literal : Literal text position) :
    2 ≤ (longest (text.drop position)).length ∧
      text[position + (longest (text.drop position)).length - 1]? = some '"' := by
  obtain ⟨_, body, _, lexeme⟩ := literal
  have length := congrArg List.length lexeme
  have bound := longest_length_le (text.drop position)
  simp only [List.length_take, List.length_append, List.length_cons, List.length_nil] at length
  generalize (longest (text.drop position)).length = n at *
  refine ⟨by omega, ?_⟩
  have last := congrArg (fun chars : Text => chars[body.length + 1]?) lexeme
  rw [List.getElem?_take_of_lt (by omega), List.getElem?_drop] at last
  rw [show position + n - 1 = position + (body.length + 1) by omega, last]
  simp

theorem Literal.quote_mem {front rest : Text} {position : Nat} (literal : Literal (front ++ rest) position)
    (across : front.length < position + (longest ((front ++ rest).drop position)).length) : '"' ∈ rest := by
  obtain ⟨_, quote⟩ := literal.closes
  rw [List.getElem?_append_right (by omega)] at quote
  exact List.mem_of_getElem? quote

/-- A match over a cut joins two blanks or two solid characters, or it is a string literal. -/
theorem exists_over {front rest : Text} {position : Nat} (left : position < front.length)
    (right : front.length < position + (longest ((front ++ rest).drop position)).length) :
    ∃ x y, front.getLast? = some x ∧ rest.head? = some y ∧
      (isBlank x = true ∧ isBlank y = true ∨ Literal (front ++ rest) position ∨
        isSolid x = true ∧ isSolid y = true) := by
  have bound := longest_length_le ((front ++ rest).drop position)
  rw [List.length_drop, List.length_append] at bound
  have atLast : (front ++ rest)[front.length - 1]? = front.getLast? := by
    rw [List.getElem?_append_left (by omega), List.getLast?_eq_getElem?]
  have atFirst : (front ++ rest)[front.length]? = rest.head? := by
    rw [List.getElem?_append_right (Nat.le_refl _), Nat.sub_self, List.head?_eq_getElem?]
  obtain ⟨x, last⟩ : ∃ x, front.getLast? = some x :=
    ⟨_, List.getLast?_eq_some_getLast (List.ne_nil_of_length_pos (by omega))⟩
  obtain ⟨y, first⟩ : ∃ y, rest.head? = some y :=
    ⟨_, List.head?_eq_some_head (List.ne_nil_of_length_pos (by omega))⟩
  have inLast : x ∈ ((front ++ rest).drop position).take (longest ((front ++ rest).drop position)).length :=
    mem_lexeme (i := front.length - 1) (by omega) (by omega) (atLast.trans last)
  have inFirst := mem_lexeme (Nat.le_of_lt left) right (atFirst.trans first)
  refine ⟨x, y, last, first, ?_⟩
  rcases longest_lexeme (show 0 < (longest ((front ++ rest).drop position)).length by omega) with
    ⟨_, blanks⟩ | literal | ⟨_, single | solid⟩
  · exact Or.inl ⟨blanks _ inLast, blanks _ inFirst⟩
  · exact Or.inr (Or.inl literal)
  · omega
  · exact Or.inr (Or.inr ⟨solid _ inLast, solid _ inFirst⟩)

/-- Where a new word can begin the loop arrives, unless a string literal runs over the place. -/
theorem exists_reach_open {head rest : Text} (opens : EndsOpen head)
    (solid : ∀ c ∈ rest.head?, isBlank c = false) :
    (∃ tokens, Reach (head ++ rest) tokens head.length) ∨
      ∃ tokens position, Reach (head ++ rest) tokens position ∧ position < head.length ∧
        head.length < position + (longest ((head ++ rest).drop position)).length ∧
        Literal (head ++ rest) position := by
  obtain ⟨tokens, position, reach, same | ⟨left, right⟩⟩ :=
    exists_reach (show head.length ≤ (head ++ rest).length by simp)
  · exact Or.inl ⟨tokens, same ▸ reach⟩
  refine Or.inr ⟨tokens, position, reach, left, right, ?_⟩
  obtain ⟨x, y, last, first, ⟨_, blank⟩ | literal | ⟨char, _⟩⟩ := exists_over left right
  · rw [solid y first] at blank
    cases blank
  · exact literal
  · rw [not_isSolid_of_open (opens x last)] at char
    cases char

theorem reach_open {head rest : Text} (opens : EndsOpen head)
    (solid : ∀ c ∈ rest.head?, isBlank c = false) (noQuote : '"' ∉ rest) :
    ∃ tokens, Reach (head ++ rest) tokens head.length := by
  rcases exists_reach_open opens solid with reached | ⟨_, position, _, left, right, literal⟩
  · exact reached
  · exact absurd (literal.quote_mem right) noQuote

/-- A match with a dot inside it is a name, a string literal, or a number with a digit behind the
dot. -/
theorem dot_inside {text : Text} {position i : Nat} (left : position < i)
    (right : i + 1 < position + (longest (text.drop position)).length) (point : text[i]? = some '.') :
    (longest (text.drop position)).length = nameLength (text.drop position) ∨ Literal text position ∨
      ∃ d, text[i + 1]? = some d ∧ isDigit d = true := by
  have dot : '.' ∈ (text.drop position).take (longest (text.drop position)).length :=
    mem_lexeme (Nat.le_of_lt left) (by omega) point
  rcases longest_cases (text.drop position) with nothing | ⟨rule, shape, same, found⟩
  · rw [nothing] at right
    exact absurd right (by dsimp only; omega)
  rw [same] at right dot
  cases shape with
  | blank => cases mem_take_runLength dot
  | @symbol word kind inside =>
    have table : ∀ entry ∈ symbols, entry.1.length ≤ 2 := by decide
    have short := Nat.le_trans (wordLength_le word (text.drop position)) (table _ inside)
    dsimp only at right
    omega
  | keyword inside => cases mem_take_keywordLength (reservedWords_identifier _ inside) dot
  | name => exact Or.inl (by rw [same])
  | string =>
    obtain ⟨body, items, lexeme, _⟩ := take_stringLength found
    exact Or.inr (Or.inl ⟨by rw [same], body, items, by rw [same]; exact lexeme⟩)
  | int =>
    rcases mem_take_intLength dot with sign | digit
    · cases sign
    · cases digit
  | float =>
    have place : position + (i - position) = i := by omega
    have atPoint : (text.drop position)[i - position]? = some '.' := by
      rw [List.getElem?_drop, place]
      exact point
    dsimp only at right
    obtain ⟨d, behind, digit⟩ := digit_behind_point (by omega) atPoint
    rw [List.getElem?_drop, ← Nat.add_assoc, place] at behind
    exact Or.inr (Or.inr ⟨d, behind, digit⟩)

/-- Behind the dot of an unfinished name a word can be added without moving the start of the name. -/
theorem Reach.behind_dot {head front rest : Text} {tokens : List Token} (dotted : Dotted front)
    (noDigit : ∀ c ∈ rest.head?, isDigit c = false) (noQuote : '"' ∉ rest)
    (reach : Reach (head ++ front ++ ['.']) tokens head.length) :
    Reach (head ++ front ++ '.' :: rest) tokens head.length := by
  have positive := dotted.length_pos
  have length : (head ++ front ++ ['.']).length = head.length + front.length + 1 := by
    simp only [List.length_append, List.length_singleton]
  have whole : head ++ front ++ '.' :: rest = head ++ front ++ ['.'] ++ rest := by simp
  rw [whole]
  have start : (head ++ front ++ ['.'] ++ rest).take (head.length + front.length + 1) =
      head ++ front ++ ['.'] := by
    rw [← length, List.take_left]
  have point : (head ++ front ++ ['.'] ++ rest)[head.length + front.length]? = some '.' := by
    rw [← whole, List.getElem?_append_right (by simp)]
    simp
  have next : (head ++ front ++ ['.'] ++ rest)[head.length + front.length + 1]? = rest.head? := by
    rw [← length, List.getElem?_append_right (Nat.le_refl _), Nat.sub_self, List.head?_eq_getElem?]
  rw [← start] at reach
  rcases reach.of_take with reached | ⟨before, place, other, earlier, across⟩
  · exact reached
  exfalso
  -- A match from before the name would run over its dot.
  rcases dot_inside (by omega) across point with name | literal | ⟨d, behind, digit⟩
  · have inner := other.take (show place ≤ head.length + front.length + 1 by omega)
    have bound := reach.advance_le_of_lt inner earlier
    rw [List.drop_take] at bound
    have accepts := accepts_le_longest
      (((head ++ front ++ ['.'] ++ rest).drop place).take (head.length + front.length + 1 - place))
      name_mem_rules
    have advances := longest_length_le_advance
      (((head ++ front ++ ['.'] ++ rest).drop place).take (head.length + front.length + 1 - place))
    dsimp only at accepts
    rcases nameLength_take_cases ((head ++ front ++ ['.'] ++ rest).drop place)
      (head.length + front.length + 1 - place) with all | ⟨_, short⟩ <;> omega
  · rw [← length] at across
    exact noQuote (literal.quote_mem across)
  · rw [next] at behind
    rw [noDigit d behind] at digit
    cases digit

theorem longest_pos_of_part {c : Char} (rest : Text) (part : isNamePart c = true) :
    0 < (longest (c :: rest)).length := by
  simp only [isNamePart, Bool.or_eq_true] at part
  rcases part with start | digit
  · exact Nat.lt_of_lt_of_le (nameLength_pos rest start)
      (accepts_le_longest (c :: rest) name_mem_rules)
  · have unsigned : c ≠ '-' := by rintro rfl; cases digit
    have number : 0 < intLength (c :: rest) := by
      rw [intLength_cons_of_ne rest unsigned, naturalLength, if_pos digit]
      split <;> omega
    exact Nat.lt_of_lt_of_le number (accepts_le_longest (c :: rest) int_mem_rules)

theorem isBlank_of_isNamePart {c : Char} (part : isNamePart c = true) : isBlank c = false := by
  by_contra blank
  have solid := isSolid_of_isNamePart part
  rw [not_isSolid_of_open (Or.inl (by simpa using blank))] at solid
  cases solid

/-- A character of a name belongs to a token. -/
theorem exists_emitted {text : Text} {position i : Nat} {c : Char} (part : isNamePart c = true)
    (lower : position ≤ i) (upper : i < position + (longest (text.drop position)).length)
    (atIndex : text[i]? = some c) : ∃ token, emitted text position = some token := by
  rcases emitted_or_blanks (show 0 < (longest (text.drop position)).length by omega) with
    found | blanks
  · exact found
  · have blank := blanks c (mem_lexeme lower upper atIndex)
    rw [isBlank_of_isNamePart part] at blank
    cases blank

/-- Where the loop finds a character of a name, a token begins. -/
theorem Reach.exists_token {text : Text} {tokens : List Token} {position : Nat} {c : Char}
    (reach : Reach text tokens position) (part : isNamePart c = true) (atPlace : text[position]? = some c) :
    ∃ token ∈ tokenize text, token.start = position := by
  obtain ⟨rest, behind⟩ := List.head?_eq_some_iff.mp (List.head?_drop.trans atPlace)
  have positive := longest_pos_of_part rest part
  rw [← behind] at positive
  obtain ⟨token, emits⟩ := exists_emitted part (Nat.le_refl _) (by omega) atPlace
  obtain ⟨start, _⟩ := emitted_eq_some emits
  rw [← start] at reach emits
  exact ⟨token, reach.mem_tokenize emits, start⟩

/-- Where a text ends with a name and a dot, the dot is its last token. -/
theorem Reach.last_dot {head word : Text} {tokens earlier : List Token} {token : Token}
    (reach : Reach (head ++ (word ++ ['.'])) tokens head.length) (dotted : Dotted word)
    (all : tokenize (head ++ (word ++ ['.'])) = earlier ++ [token]) : token.kind = .dot := by
  have behindWord := reach.word dotted rfl
  rw [← List.append_assoc, ← List.length_append] at behindWord
  have parts := behindWord.dot.tokenize_eq
  rw [List.drop_eq_nil_of_le (by simp; omega), scan_nil, List.append_nil, List.append_assoc, all] at parts
  rw [(List.cons.inj (List.append_inj' parts rfl).2).1]

/-- A text that ends with a character of a name ends with a token. -/
theorem exists_last_token (front : Text) {c : Char} (part : isNamePart c = true) :
    ∃ tokens token, tokenize (front ++ [c]) = tokens ++ [token] ∧
      token.stop = (front ++ [c]).length := by
  generalize whole : front ++ [c] = text
  have length : text.length = front.length + 1 := by rw [← whole]; simp
  have atLast : text[front.length]? = some c := by rw [← whole]; simp
  obtain ⟨tokens, position, reach, place⟩ := exists_reach (show front.length ≤ text.length by omega)
  have across : position ≤ front.length ∧ front.length < position + (longest (text.drop position)).length := by
    rcases place with rfl | ⟨left, right⟩
    · have last : text.drop front.length = [c] := by rw [← whole, List.drop_left]
      have positive := longest_pos_of_part [] part
      rw [last]
      omega
    · exact ⟨Nat.le_of_lt left, right⟩
  have bound := longest_length_le (text.drop position)
  rw [List.length_drop] at bound
  obtain ⟨token, emits⟩ := exists_emitted part across.1 across.2 atLast
  obtain ⟨_, passed, stop, _⟩ := emitted_eq_some emits
  have stops : token.stop = text.length := by omega
  have all := (reach.next (by omega)).tokenize_eq
  rw [emits, ← passed, stops, List.drop_length, scan_nil, List.append_nil] at all
  exact ⟨tokens, token, all, stops⟩

end QueryCompletion.Lexer
