import QueryCompletion.Proofs.Lexer.Spaces

/-!
The tokens of the parts of a text. Its first characters alone have the tokens that end among them and
at most some more behind these, and a text behind a connector has the tokens that it has alone.
-/

namespace QueryCompletion

namespace Lexer

/-- The tokens of a text that end by a cut. -/
def endingBy (text : Text) (cut : Nat) : List Token :=
  (tokenize text).filter fun token => token.stop ≤ cut

/-- The loop stands before a cut, or at it, with its next step leading past the cut. -/
theorem exists_reach_past {text : Text} {cut : Nat} (within : cut ≤ text.length) :
    ∃ tokens position, Reach text tokens position ∧ position ≤ cut ∧
      cut < position + advance (text.drop position) := by
  obtain ⟨tokens, position, reach, same | ⟨left, right⟩⟩ := exists_reach within
  · have positive : 1 ≤ advance (text.drop position) := Nat.le_max_left _ _
    exact ⟨tokens, position, reach, by omega, by omega⟩
  · have passed := longest_length_le_advance (text.drop position)
    exact ⟨tokens, position, reach, by omega, by omega⟩

/-- Where the next step leads past the cut, the tokens emitted so far are those that end by it. -/
theorem Reach.endingBy_eq {text : Text} {tokens : List Token} {position cut : Nat}
    (reach : Reach text tokens position) (before : position ≤ cut)
    (past : cut < position + advance (text.drop position)) : endingBy text cut = tokens := by
  have early : tokens.filter (fun token => token.stop ≤ cut) = tokens := by
    rw [List.filter_eq_self]
    intro token inside
    obtain ⟨_, _, _, bound⟩ := reach.mem inside
    simp only [decide_eq_true_eq]
    omega
  have late : (scan position (text.drop position)).filter (fun token => token.stop ≤ cut) = [] := by
    rw [List.filter_eq_nil_iff]
    intro token inside
    have lower := le_start_of_mem_scan inside
    have member : token ∈ tokenize text := by
      rw [reach.tokenize_eq]
      exact List.mem_append_right tokens inside
    obtain ⟨_, other, emits, _⟩ := (reach_length text).mem member
    obtain ⟨_, stop, _⟩ := emitted_eq_some emits
    simp only [decide_eq_true_eq]
    -- The token is the one emitted next, or it starts behind the next step.
    rcases Nat.lt_or_eq_of_le lower with behind | same
    · have passed := other.advance_le_of_lt reach behind
      have order := start_lt_stop emits
      omega
    · rw [← same] at stop
      omega
  rw [endingBy, reach.tokenize_eq, List.filter_append, early, late, List.append_nil]

/-- Where no token crosses the cut, what stands between the loop and the cut makes no tokens. -/
theorem Reach.scan_eq_nil {text : Text} {tokens : List Token} {position cut : Nat}
    (reach : Reach text tokens position) (before : position ≤ cut)
    (past : cut < position + advance (text.drop position))
    (free : ∀ token ∈ tokenize text, ¬ (token.start < cut ∧ cut < token.stop)) :
    scan position ((text.take cut).drop position) = [] := by
  rcases Nat.lt_or_eq_of_le before with left | same
  · have right : cut < position + (longest (text.drop position)).length := by
      unfold advance at past
      omega
    by_contra pieces
    obtain ⟨whole, emits⟩ := exists_emitted_of_pieces left right pieces
    obtain ⟨start, stop, _⟩ := emitted_eq_some emits
    rw [← start] at reach emits
    exact free whole (reach.mem_tokenize emits) ⟨by omega, by omega⟩
  · rw [List.drop_eq_nil_of_le (by rw [List.length_take]; omega), scan_nil]

/-- The tokens that end by a cut are the first tokens of the text before the cut, and all of them if no
token crosses it. -/
theorem endingBy_initial_of_take {text : Text} {cut : Nat} (within : cut ≤ text.length) :
    endingBy text cut <+: tokenize (text.take cut) ∧
      ((∀ token ∈ tokenize text, ¬ (token.start < cut ∧ cut < token.stop)) →
        tokenize (text.take cut) = endingBy text cut) := by
  obtain ⟨tokens, position, reach, before, past⟩ := exists_reach_past within
  have split := (reach.take before).tokenize_eq
  rw [reach.endingBy_eq before past, split]
  refine ⟨List.prefix_append _ _, fun free => ?_⟩
  rw [reach.scan_eq_nil before past free, List.append_nil]

/-- A cut in a string literal turns its contents into tokens, behind those that end by the cut; at the
quote that opens it no token is cut. -/
theorem endingBy_initial_of_take_literal :
    endingBy "author.name = \"x y\"".toList 17 <+: tokenize ("author.name = \"x y\"".toList.take 17) ∧
      tokenize ("author.name = \"x y\"".toList.take 14) = endingBy "author.name = \"x y\"".toList 14 :=
  ⟨(endingBy_initial_of_take (by decide)).1, (endingBy_initial_of_take (by decide)).2 (by decide +kernel)⟩

end Lexer

/-- The token a distance further on. -/
def Token.shift (distance : Nat) (token : Token) : Token :=
  { token with start := token.start + distance, stop := token.stop + distance }

@[simp] theorem Token.shift_kind (distance : Nat) (token : Token) :
    (token.shift distance).kind = token.kind := rfl

@[simp] theorem Token.shift_value (distance : Nat) (token : Token) :
    (token.shift distance).value = token.value := rfl

@[simp] theorem Token.shift_start (distance : Nat) (token : Token) :
    (token.shift distance).start = token.start + distance := rfl

@[simp] theorem Token.shift_stop (distance : Nat) (token : Token) :
    (token.shift distance).stop = token.stop + distance := rfl

namespace Lexer

/-- A text that stands a distance further on has its tokens that distance further on. -/
theorem scan_shift (place distance : Nat) (text : Text) :
    scan (place + distance) text = (scan place text).map (Token.shift distance) := by
  induction hlen : text.length using Nat.strongRecOn generalizing text place with
  | _ length ih =>
    by_cases empty : text = []
    · rw [empty, scan_nil, scan_nil, List.map_nil]
    · have positive : 1 ≤ advance text := Nat.le_max_left _ _
      have bound := advance_le empty
      have rest := ih (text.drop (advance text)).length (by rw [List.length_drop]; omega)
        (place + advance text) (text.drop (advance text)) rfl
      have first : tokenAt? (place + distance) text (longest text) =
          (tokenAt? place text (longest text)).map (Token.shift distance) := by
        cases kind : (longest text).kind with
        | none => simp [tokenAt?, kind]
        | some kind' =>
          simp only [tokenAt?, kind, Option.map_some, Token.shift]
          rw [Nat.add_right_comm]
      rw [scan_eq _ empty, scan_eq place empty, List.map_append, first, Option.toList_map, ← rest,
        Nat.add_right_comm]

theorem scan_eq_tokenize (distance : Nat) (text : Text) :
    scan distance text = (tokenize text).map (Token.shift distance) := by
  rw [tokenize, ← scan_shift, Nat.zero_add]

/-- Every double quote of the text belongs to a string literal. -/
def QuotesClosed (text : Text) : Prop :=
  ∀ i < text.length, text[i]? = some '"' →
    ∃ token ∈ tokenize text, token.kind = .string ∧ token.start ≤ i ∧ i < token.stop

instance (text : Text) : Decidable (QuotesClosed text) :=
  inferInstanceAs (Decidable (∀ i < text.length, text[i]? = some '"' →
    ∃ token ∈ tokenize text, token.kind = .string ∧ token.start ≤ i ∧ i < token.stop))

theorem literal_of_emitted {text : Text} {token : Token} (emits : emitted text token.start = some token)
    (string : token.kind = .string) : Literal text token.start := by
  obtain ⟨_, _, _, kind, _⟩ := emitted_eq_some emits
  rw [string] at kind
  refine ⟨kind, ?_⟩
  rcases longest_lexeme (longest_pos_of_kind kind) with
    ⟨noKind, _⟩ | ⟨_, shape⟩ | ⟨⟨other, otherKind, differs⟩, _⟩
  · rw [kind] at noKind; cases noKind
  · exact shape
  · rw [kind] at otherKind
    exact absurd (Option.some.inj otherKind).symm differs

/-- What follows the quote that opens a literal ends it where the match ends. -/
theorem Literal.tail {text : Text} {position : Nat} (literal : Literal text position) :
    ∃ rest n, text.drop position = '"' :: rest ∧ stringTail? rest = some n ∧
      (longest (text.drop position)).length = n + 1 := by
  obtain ⟨_, body, items, lexeme⟩ := literal
  have bound := longest_length_le (text.drop position)
  have length := congrArg List.length lexeme
  rw [List.length_take, Nat.min_eq_left bound] at length
  have whole := List.take_append_drop (longest (text.drop position)).length (text.drop position)
  rw [lexeme] at whole
  simp only [List.cons_append, List.length_cons, List.length_append, List.length_nil] at whole length
  refine ⟨_, _, whole.symm, stringTail?_eq_some_iff.mpr ⟨body, _, items, List.append_assoc _ _ _, rfl⟩, ?_⟩
  omega

/-- A literal within a text is the same literal in every longer text. -/
theorem Literal.length_append {front rest : Text} {position : Nat} (literal : Literal front position)
    (longer : Literal (front ++ rest) position) :
    (longest ((front ++ rest).drop position)).length = (longest (front.drop position)).length := by
  obtain ⟨chars, n, drop, tail, length⟩ := literal.tail
  obtain ⟨chars', m, drop', tail', length'⟩ := longer.tail
  have within : position ≤ front.length := by
    by_contra beyond
    rw [List.drop_eq_nil_of_le (by omega)] at drop
    cases drop
  rw [List.drop_append_of_le_length within, drop, List.cons_append] at drop'
  rw [← (List.cons.inj drop').2, stringTail?_append tail] at tail'
  have same := Option.some.inj tail'
  omega

/-- Where the loop arrives at a cut, the text before the cut has no open quotes either. -/
theorem QuotesClosed.take {text : Text} {tokens : List Token} {cut : Nat} (closed : QuotesClosed text)
    (reach : Reach text tokens cut) : QuotesClosed (text.take cut) := by
  intro i inside quote
  rw [List.length_take] at inside
  rw [List.getElem?_take_of_lt (by omega)] at quote
  obtain ⟨token, member, string, lower, upper⟩ := closed i (by omega) quote
  refine ⟨token, ?_, string, lower, upper⟩
  rw [reach.tokenize_take]
  rw [reach.tokenize_eq] at member
  refine (List.mem_append.mp member).resolve_right fun later => ?_
  have beyond := le_start_of_mem_scan later
  omega

/-- Behind a text without open quotes and blanks the loop starts afresh. -/
theorem QuotesClosed.exists_reach {front blanks : Text} (closed : QuotesClosed front) (some' : blanks ≠ [])
    (all : ∀ c ∈ blanks, isBlank c = true) (rest : Text) (solid : ∀ d ∈ rest.head?, isBlank d = false) :
    ∃ tokens, Reach (front ++ blanks ++ rest) tokens (front ++ blanks).length := by
  rcases exists_reach_open (endsOpen_blanks some' all) solid with
    reached | ⟨tokens, position, reach, left, right, literal⟩
  · exact reached
  exfalso
  -- The literal opens with a quote of the front, which belongs to a literal of the front.
  obtain ⟨chars, n, drop, _, _⟩ := literal.tail
  have quote : (front ++ blanks ++ rest)[position]? = some '"' := by
    rw [← List.head?_drop, drop]
    rfl
  rw [List.getElem?_append_left left] at quote
  have inside : position < front.length := by
    by_contra behind
    rw [List.getElem?_append_right (Nat.le_of_not_lt behind)] at quote
    cases all _ (List.mem_of_getElem? quote)
  rw [List.getElem?_append_left inside] at quote
  obtain ⟨token, member, string, lower, upper⟩ := closed position inside quote
  rw [List.length_append] at right
  rw [List.append_assoc] at reach right literal
  have inFront := reach.take (Nat.le_of_lt inside)
  rw [List.take_left] at inFront
  have start : token.start = position := by
    by_contra other
    exact inFront.not_crosses ⟨member, by omega, upper⟩
  obtain ⟨_, _, emits, bound⟩ := (reach_length front).mem member
  obtain ⟨_, _, stop, _⟩ := emitted_eq_some emits
  have same := (start ▸ literal_of_emitted emits string).length_append literal
  rw [start] at stop
  omega

/-- What stands behind blanks may be exchanged: the tokens before the blanks stay, and behind them are
those of the other text. -/
theorem QuotesClosed.tokenize_exchange {front blanks rest other : Text} {tokens : List Token}
    (closed : QuotesClosed (front ++ blanks ++ rest))
    (reach : Reach (front ++ blanks ++ rest) tokens front.length) (some' : blanks ≠ [])
    (all : ∀ c ∈ blanks, isBlank c = true) (solid : ∀ d ∈ other.head?, isBlank d = false) :
    tokenize (front ++ blanks ++ other) =
      tokens ++ (tokenize other).map (Token.shift (front ++ blanks).length) := by
  have within : front.length ≤ (front ++ blanks).length := by simp
  have before := (reach.take within).tokenize_eq
  have nothing := scan_blanks front.length all []
  rw [List.append_nil, scan_nil] at nothing
  rw [List.take_left, List.drop_left, nothing, List.append_nil] at before
  have closed' := closed.take reach
  rw [List.append_assoc, List.take_left] at closed'
  obtain ⟨tokens', reach'⟩ := closed'.exists_reach some' all other solid
  have before' := reach'.tokenize_take
  rw [List.take_left, before] at before'
  rw [reach'.tokenize_eq, ← before', List.drop_left, scan_eq_tokenize]

/-- The connectors between two comparisons, with the blanks around them. -/
def connectors : List Text := [" and ".toList, " or ".toList]

/-- A connector is a word of its own between blanks. -/
theorem exists_word_of_connector {joint : Text} (connects : joint ∈ connectors) :
    ∃ word, joint = ' ' :: (word ++ [' ']) ∧ IsIdentifier word ∧ (wordKind word).isLogical = true := by
  simp only [connectors, List.mem_cons, List.not_mem_nil, or_false] at connects
  rcases connects with rfl | rfl
  · exact ⟨['a', 'n', 'd'], by decide⟩
  · exact ⟨['o', 'r'], by decide⟩

/-- A text without open quotes, a word between blanks and a further text: the word is a token of its own
between the tokens of the two. -/
theorem QuotesClosed.tokenize_append {front word : Text} (closed : QuotesClosed front)
    (identifier : IsIdentifier word) (rest : Text) :
    tokenize (front ++ ' ' :: (word ++ [' ']) ++ rest) =
      tokenize (front ++ [' ']) ++
        ⟨wordKind word, word, front.length + 1, front.length + 1 + word.length⟩ ::
          (tokenize rest).map (Token.shift (front ++ ' ' :: (word ++ [' '])).length) := by
  have whole : front ++ ' ' :: (word ++ [' ']) ++ rest = front ++ [' '] ++ (word ++ ' ' :: rest) := by simp
  have length : (front ++ [' ']).length = front.length + 1 := List.length_append
  obtain ⟨c, more, parts, start, _⟩ := id identifier
  have solid : ∀ d ∈ (word ++ ' ' :: rest).head?, isBlank d = false := by
    rw [parts]
    rintro d ⟨⟩
    exact (isNameStart_cases start).1
  obtain ⟨tokens, reach⟩ := closed.exists_reach (List.cons_ne_nil ' ' []) (by simp [isBlank]) _ solid
  have before := reach.tokenize_take
  rw [List.take_left] at before
  have behind := (reach.word (.single identifier) (nameTail_other rest rfl (by decide))).tokenize_eq
  rw [← List.length_append, ← List.append_assoc, List.drop_left, scan_blank _ _ rfl, scan_eq_tokenize,
    ← before, length] at behind
  rw [whole, ← List.append_assoc, behind, List.append_assoc]
  simp only [List.length_append, List.length_cons, List.length_nil, List.singleton_append]
  congr 4
  omega

end Lexer

end QueryCompletion
