import QueryCompletion.Proofs.Lexer.Spaces

/-!
The seam behind a word that is put in the place of another. The text behind the seam keeps its tokens
unless a token runs over the seam: the word itself, when its dot meets the start of another word, or a
string literal, when what was taken out at the seam is what kept a quote before the word from closing.
-/

namespace QueryCompletion.Lexer

/-- What the tokens from a cut on say. -/
def contentFrom (text : Text) (cut : Nat) : List (TokenKind × Text) :=
  ((tokenize text).filter fun token => cut ≤ token.start).map Token.content

/-- Behind a dot the text continues a name: another word begins, or a second dot and then a word. -/
def ContinuesName (rest : Text) : Prop :=
  ∃ c more, isNameStart c = true ∧ (rest = c :: more ∨ rest = '.' :: c :: more)

theorem contentFrom_of_reach {text : Text} {tokens : List Token} {cut : Nat}
    (reach : Reach text tokens cut) :
    contentFrom text cut = (tokenize (text.drop cut)).map Token.content := by
  refine reach.filter_content (Nat.le_refl cut) fun token inside => ?_
  obtain ⟨_, _, emits, bound⟩ := reach.mem inside
  have order := start_lt_stop emits
  omega

/-- Where a token crosses the cut, the tokens from the cut on are those behind this token. -/
theorem Crosses.contentFrom_eq {text : Text} {token : Token} {cut : Nat} (crosses : Crosses text cut token) :
    contentFrom text cut = (tokenize (text.drop token.stop)).map Token.content := by
  obtain ⟨tokens, reach, emits, _⟩ := (reach_length text).mem crosses.member
  refine (reach.emit emits).filter_content (Nat.le_of_lt crosses.right) fun other inside => ?_
  rcases List.mem_append.mp inside with earlier | same
  · obtain ⟨_, _, emits', bound⟩ := reach.mem earlier
    have order := start_lt_stop emits'
    have left := crosses.left
    omega
  · rw [List.mem_singleton.mp same]
    exact crosses.left

/-- A token that crosses the cut and takes some tokens of the rest changes what is said from the cut on. -/
theorem Crosses.contentFrom_ne {text rest : Text} {token : Token} {cut : Nat}
    (crosses : Crosses text cut token)
    (fewer : (tokenize (text.drop token.stop)).length < (tokenize rest).length) :
    contentFrom text cut ≠ (tokenize rest).map Token.content := by
  intro same
  rw [crosses.contentFrom_eq] at same
  have lengths := congrArg List.length same
  rw [List.length_map, List.length_map] at lengths
  omega

/-- The loop stands at the start of a word and takes all of it. -/
theorem Reach.wordAt {text rest : Text} {tokens : List Token} {position : Nat} {c : Char}
    (reach : Reach text tokens position) (behind : text.drop position = c :: rest)
    (start : isNameStart c = true) :
    ∃ token, emitted text position = some token ∧ token.kind ≠ .string ∧
      token.stop = position + nameLength (c :: rest) ∧ Reach text (tokens ++ [token]) token.stop := by
  have found := longest_of_word rest start
  obtain ⟨token, emits⟩ : ∃ token, emitted text position = some token := by
    rw [emitted, behind, tokenAt?, found]
    exact ⟨_, rfl⟩
  obtain ⟨start', _, ends, kind, _⟩ := emitted_eq_some emits
  rw [behind, found] at ends kind
  rw [← start'] at reach emits
  refine ⟨token, start' ▸ emits, ?_, ends, reach.emit emits⟩
  rw [← Option.some.inj kind]
  exact wordKind_ne_string _

theorem tokenize_length_word {c : Char} (rest : Text) (start : isNameStart c = true) :
    (tokenize (c :: rest)).length =
      (tokenize ((c :: rest).drop (nameLength (c :: rest)))).length + 1 := by
  obtain ⟨token, _, _, stop, reach⟩ := (Reach.start : Reach (c :: rest) [] 0).wordAt List.drop_zero start
  rw [Nat.zero_add] at stop
  rw [reach.tokenize_eq, stop, List.nil_append, List.length_append, scan_length, Nat.add_comm]
  rfl

theorem tokenize_length_dot (rest : Text) :
    (tokenize ('.' :: rest)).length = (tokenize rest).length + 1 := by
  have reach : Reach ([] ++ '.' :: rest) _ _ := .dot .start
  have all := congrArg List.length reach.tokenize_eq
  rw [List.nil_append, List.nil_append, List.length_append, scan_length] at all
  rw [all, Nat.add_comm]
  rfl

/-- What stands between a word and the text behind it: a dot, unless the text has one already. -/
def joint (rest : Text) : Text := if ['.'].isPrefixOf rest then [] else ['.']

theorem nameLength_pos_iff {text : Text} :
    0 < nameLength text ↔ ∃ c rest, text = c :: rest ∧ isNameStart c = true := by
  constructor
  · intro positive
    cases text with
    | nil => cases positive
    | cons c rest =>
      refine ⟨c, rest, rfl, ?_⟩
      by_contra other
      rw [nameLength_other rest (by simpa using other)] at positive
      cases positive
  · rintro ⟨c, rest, rfl, start⟩
    exact nameLength_pos rest start

/-- With its joint a text begins with a dot, and it continues a name if a word begins behind that. -/
theorem joint_cases (rest : Text) :
    ∃ more, joint rest ++ rest = '.' :: more ∧ (ContinuesName rest ↔ 0 < nameLength more) ∧
      (rest = '.' :: more ∧ joint rest = [] ∨ rest = more ∧ joint rest = ['.']) := by
  by_cases dot : ∃ more, rest = '.' :: more
  · obtain ⟨more, rfl⟩ := dot
    refine ⟨more, rfl, ?_, Or.inl ⟨rfl, rfl⟩⟩
    rw [nameLength_pos_iff]
    constructor
    · rintro ⟨c, others, start, same | same⟩ <;> cases same
      · cases start
      · exact ⟨c, others, rfl, start⟩
    · rintro ⟨c, others, rfl, start⟩
      exact ⟨c, others, start, Or.inr rfl⟩
  · have plain : joint rest = ['.'] := by
      unfold joint
      rw [if_neg]
      rw [List.isPrefixOf_iff_prefix]
      rintro ⟨more, rfl⟩
      exact dot ⟨more, rfl⟩
    refine ⟨rest, by rw [plain]; rfl, ?_, Or.inr ⟨rfl, plain⟩⟩
    rw [nameLength_pos_iff]
    constructor
    · rintro ⟨c, others, start, same | same⟩
      · exact ⟨c, others, same, start⟩
      · exact absurd ⟨_, same⟩ dot
    · rintro ⟨c, others, same, start⟩
      exact ⟨c, others, start, Or.inl same⟩

/-- Where a word begins behind the dot of a name, the token of the name takes it too. -/
theorem Reach.runs_on {head word more : Text} {tokens : List Token} (dotted : Dotted word)
    (reach : Reach (head ++ (word ++ '.' :: more)) tokens head.length) (positive : 0 < nameLength more) :
    ∃ token ∈ tokenize (head ++ (word ++ '.' :: more)), token.start = head.length ∧
      token.stop = head.length + word.length + (nameLength more + 1) ∧ token.kind ≠ .string ∧
      (tokenize ((head ++ (word ++ '.' :: more)).drop token.stop)).length < (tokenize more).length := by
  have tail := nameTail_dot more
  rw [if_neg (Nat.ne_of_gt positive)] at tail
  obtain ⟨c, others, whole, start⟩ := dotted.head
  have length := nameLength_dotted ('.' :: more) dotted
  have behind : (head ++ (word ++ '.' :: more)).drop head.length = c :: (others ++ '.' :: more) := by
    rw [List.drop_left, whole, List.cons_append]
  obtain ⟨token, emits, kind, stop, _⟩ := reach.wordAt behind start
  obtain ⟨begins, _⟩ := emitted_eq_some emits
  rw [← List.cons_append, ← whole, length, tail, ← Nat.add_assoc] at stop
  have dropped : (head ++ (word ++ '.' :: more)).drop token.stop = more.drop (nameLength more) := by
    rw [stop, ← List.append_assoc, ← List.length_append, List.drop_length_add_append,
      List.drop_succ_cons]
  have fewer : (tokenize (more.drop (nameLength more))).length < (tokenize more).length := by
    obtain ⟨d, rest', rfl, start'⟩ := nameLength_pos_iff.mp positive
    have := tokenize_length_word rest' start'
    omega
  rw [← begins] at reach emits
  exact ⟨token, reach.mem_tokenize emits, begins, stop, kind, by rw [dropped]; exact fewer⟩

/-- A word with a dot either ends at the seam, or its token takes some tokens of the rest. -/
theorem seam_of_dot {head word rest : Text} {tokens : List Token} (dotted : Dotted word)
    (reach : Reach (head ++ (word ++ (joint rest ++ rest))) tokens head.length) :
    ¬ ContinuesName rest ∧ (∃ tokens, Reach (head ++ (word ++ (joint rest ++ rest))) tokens
        (head.length + word.length + (joint rest).length)) ∨
      ContinuesName rest ∧ ∃ token,
        Crosses (head ++ (word ++ (joint rest ++ rest)))
          (head.length + word.length + (joint rest).length) token ∧
        token.kind ≠ .string ∧
        (tokenize ((head ++ (word ++ (joint rest ++ rest))).drop token.stop)).length <
          (tokenize rest).length := by
  obtain ⟨more, split, continues, shape⟩ := joint_cases rest
  rw [split] at reach ⊢
  rw [continues]
  by_cases positive : 0 < nameLength more
  · obtain ⟨token, member, start, stop, kind, fewer⟩ := reach.runs_on dotted positive
    have short : (joint rest).length ≤ 1 := by
      rcases shape with ⟨_, bare⟩ | ⟨_, dot⟩
      · rw [bare]; exact Nat.zero_le 1
      · rw [dot, List.length_singleton]
    have some' := dotted.length_pos
    refine Or.inr ⟨positive, token, ⟨member, by omega, by omega⟩, kind, ?_⟩
    rcases shape with ⟨begins, _⟩ | ⟨same, _⟩
    · rw [begins, tokenize_length_dot]; omega
    · rw [same]; exact fewer
  · refine Or.inl ⟨positive, ?_⟩
    have tail := nameTail_dot more
    rw [if_pos (Nat.eq_zero_of_not_pos positive)] at tail
    have behindWord := reach.word dotted tail
    rcases shape with ⟨_, bare⟩ | ⟨_, dot⟩
    · exact ⟨_, by rw [bare]; exact behindWord⟩
    · rw [← List.append_assoc, ← List.length_append] at behindWord
      have behindDot := behindWord.dot
      rw [List.append_assoc, List.length_append] at behindDot
      exact ⟨_, by rw [dot]; exact behindDot⟩

theorem isUnescaped_of_open {c : Char} (opens : isBlank c = true ∨ c = '(') : isUnescaped c = true := by
  have all : ('(' :: blanks).all isUnescaped = true := by decide
  exact List.all_eq_true.mp all c (mem_of_open opens)

/-- A quote in a head where a word can begin does not stand at its end. -/
theorem EndsOpen.behind_quote {head : Text} {position : Nat} (opens : EndsOpen head)
    (quote : (head.drop position).head? = some '"') :
    ∃ front c, head.drop position = '"' :: (front ++ [c]) ∧ (isBlank c = true ∨ c = '(') := by
  obtain ⟨others, chars⟩ := List.head?_eq_some_iff.mp quote
  have left : ¬ head.length ≤ position := by
    intro beyond
    rw [List.drop_eq_nil_of_le beyond] at quote
    cases quote
  have last : (head.drop position).getLast? = head.getLast? := by
    rw [List.getLast?_drop, if_neg left]
  rw [chars] at last ⊢
  rcases List.eq_nil_or_concat' others with rfl | ⟨front, c, rfl⟩
  · rcases opens _ last.symm with blank | paren
    · cases blank
    · cases paren
  · refine ⟨front, c, rfl, opens c ?_⟩
    rw [← List.cons_append, List.getLast?_concat] at last
    exact last.symm

/-- A literal over a word that begins where a word can begin, and over the seam behind it, also runs
over the start of any other plain characters in the place of the word. -/
theorem Literal.exchange {head run other rest : Text} {position : Nat} (opens : EndsOpen head)
    (plain : ∀ c ∈ run, isPlain c = true) (plain' : ∀ c ∈ other, isPlain c = true)
    (left : position < head.length) (literal : Literal (head ++ (run ++ rest)) position)
    (across : (head ++ run).length <
      position + (longest ((head ++ (run ++ rest)).drop position)).length) (more : Text) :
    head.length <
      position + (longest ((head ++ (other ++ (rest ++ more))).drop position)).length := by
  obtain ⟨_, body, items, lexeme⟩ := literal
  have bound := longest_length_le ((head ++ (run ++ rest)).drop position)
  have length := congrArg List.length lexeme
  rw [List.length_take, Nat.min_eq_left bound] at length
  simp only [List.length_append, List.length_cons, List.length_nil] at length
  have quote : (head.drop position).head? = some '"' := by
    have first := congrArg List.head? lexeme
    rwa [List.head?_take, if_neg (by omega), List.drop_append_of_le_length (Nat.le_of_lt left),
      List.head?_append_of_ne_nil _ (by rw [Ne, List.drop_eq_nil_iff]; omega)] at first
  obtain ⟨front, c, inHead, outside⟩ := opens.behind_quote quote
  have headLength := congrArg List.length inHead
  simp only [List.length_drop, List.length_append, List.length_cons, List.length_nil] at headLength across
  have split : ∀ tail : Text, (head ++ tail).drop position = '"' :: (front ++ c :: tail) := by
    intro tail
    rw [List.drop_append_of_le_length (Nat.le_of_lt left), inHead]
    simp
  have found : stringTail? (front ++ c :: (run ++ rest)) = some (body.length + 1) := by
    rw [length, split, List.cons_append] at lexeme
    have start := (List.cons.inj lexeme).2
    have whole := List.take_append_drop (body.length + 1) (front ++ c :: (run ++ rest))
    rw [start, List.append_assoc, List.singleton_append] at whole
    exact stringTail?_eq_some_iff.mpr ⟨body, _, items, whole.symm, rfl⟩
  obtain ⟨m, tail, beyond⟩ :=
    stringTail?_exchange (isUnescaped_of_open outside) plain plain' found (by omega) more
  have accepts := accepts_le_longest ('"' :: (front ++ c :: (other ++ (rest ++ more)))) string_mem_rules
  dsimp only at accepts
  rw [stringLength_quote, tail, Option.map_some, Option.getD_some] at accepts
  rw [split]
  omega

/-- Where the loop arrives at a place with plain characters behind it, no literal runs over that place
and over the seam when other plain characters stand there. -/
theorem Literal.not_reach {head run other rest more : Text} {others : List Token} {token : Token}
    (opens : EndsOpen head) (plain : ∀ c ∈ run, isPlain c = true) (plain' : ∀ c ∈ other, isPlain c = true)
    (literal : Literal (head ++ (run ++ rest)) token.start)
    (crosses : Crosses (head ++ (run ++ rest)) (head ++ run).length token)
    (left : token.start < head.length) :
    ¬ Reach (head ++ (other ++ (rest ++ more))) others head.length := by
  intro arrives
  obtain ⟨_, reach, emits, _⟩ := (reach_length _).mem crosses.member
  obtain ⟨_, _, stop, _⟩ := emitted_eq_some emits
  have beyond := literal.exchange opens plain plain' left (stop ▸ crosses.right) more
  have inHead := reach.take (Nat.le_of_lt left)
  have start : (head ++ (other ++ (rest ++ more))).take head.length = head := List.take_left
  rw [List.take_left, ← start] at inHead
  generalize head ++ (other ++ (rest ++ more)) = text at *
  rcases inHead.of_take with reached | ⟨_, place, reached, earlier, runs⟩
  · have passed := arrives.advance_le_of_lt reached left
    have advances := longest_length_le_advance (text.drop token.start)
    omega
  · have passed := arrives.advance_le_of_lt reached (by omega)
    have advances := longest_length_le_advance (text.drop place)
    omega

/-- A literal from before a place that runs over it runs over the plain characters behind it too. -/
theorem Literal.crosses {head run rest : Text} {tokens : List Token} {position : Nat}
    (plain : ∀ c ∈ run, isPlain c = true) (reach : Reach (head ++ (run ++ rest)) tokens position)
    (left : position < head.length)
    (right : head.length < position + (longest ((head ++ (run ++ rest)).drop position)).length)
    (literal : Literal (head ++ (run ++ rest)) position) :
    ∃ token, Crosses (head ++ (run ++ rest)) (head.length + run.length) token ∧
      token.start = position ∧ token.kind = .string := by
  obtain ⟨token, emits⟩ : ∃ token, emitted (head ++ (run ++ rest)) position = some token := by
    rw [emitted, tokenAt?, literal.1]
    exact ⟨_, rfl⟩
  obtain ⟨start, _, stop, kind, _⟩ := emitted_eq_some emits
  rw [literal.1] at kind
  have across : head.length + run.length < token.stop := by
    obtain ⟨_, quote⟩ := literal.closes
    by_contra inside
    rw [← stop, List.getElem?_append_right (by omega), List.getElem?_append_left (by omega)] at quote
    cases plain _ (List.mem_of_getElem? quote)
  refine ⟨token, ⟨?_, by omega, across⟩, start, (Option.some.inj kind).symm⟩
  rw [← start] at reach emits
  exact reach.mem_tokenize emits

/-- The tokens from the seam on are those of the rest exactly when no token crosses the seam, save a
string literal behind which the same tokens follow. -/
theorem contentFrom_eq_iff {text rest : Text} {seam : Nat} (dropped : text.drop seam = rest)
    (shape : (∃ tokens, Reach text tokens seam) ∨
      ∃ token, Crosses text seam token ∧
        (token.kind = .string ∨
          token.kind ≠ .string ∧ (tokenize (text.drop token.stop)).length < (tokenize rest).length)) :
    contentFrom text seam = (tokenize rest).map Token.content ↔
      ∀ token, Crosses text seam token → token.kind = .string ∧
        (tokenize (text.drop token.stop)).map Token.content = (tokenize rest).map Token.content := by
  rcases shape with ⟨tokens, reach⟩ | ⟨token, crosses, kind⟩
  · rw [contentFrom_of_reach reach, dropped]
    exact ⟨fun _ token crosses => absurd crosses reach.not_crosses, fun _ => rfl⟩
  · rcases kind with string | ⟨noString, fewer⟩
    · rw [crosses.contentFrom_eq]
      constructor
      · intro same other crosses'
        rw [crosses'.unique crosses]
        exact ⟨string, same⟩
      · intro all
        exact (all token crosses).2
    · constructor
      · intro same
        exact absurd same (crosses.contentFrom_ne fewer)
      · intro all
        exact absurd (all token crosses).1 noString

end QueryCompletion.Lexer
