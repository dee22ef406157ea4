import QueryCompletion.Proofs.Lexer.Rules

/-!
Dotted names and reserved words. A reserved word is accepted only where it is the whole first
segment of a name, so the rule for names accepts at least as much.
-/

namespace QueryCompletion.Lexer

theorem isNamePart_of_isNameStart {c : Char} (start : isNameStart c = true) : isNamePart c = true := by
  simp [isNamePart, start]

theorem isDigit_of_isNameStart {c : Char} (start : isNameStart c = true) : isDigit c = false := by
  by_contra digit
  simp only [isNameStart, isDigit, Bool.or_eq_true, Bool.and_eq_true, beq_iff_eq, decide_eq_true_eq,
    Bool.not_eq_false] at start digit
  rcases start with (rfl | capital) | small
  · revert digit; decide
  · exact absurd (Char.le_trans capital.1 digit.2) (by decide)
  · exact absurd (Char.le_trans small.1 digit.2) (by decide)

theorem nameTail_part {c : Char} (rest : Text) (part : isNamePart c = true) :
    nameTail (c :: rest) = nameTail rest + 1 := by
  cases rest <;> simp [nameTail, part]

theorem nameTail_dot (rest : Text) :
    nameTail ('.' :: rest) = if nameLength rest = 0 then 0 else nameLength rest + 1 := by
  have dot : isNamePart '.' = false := rfl
  cases rest with
  | nil => simp [nameTail, nameLength, dot]
  | cons d others =>
    simp only [nameTail, nameLength, dot]
    by_cases start : isNameStart d = true <;> simp [start]

theorem nameTail_other {c : Char} (rest : Text) (noPart : isNamePart c = false) (noDot : c ≠ '.') :
    nameTail (c :: rest) = 0 := by
  cases rest <;> simp [nameTail, noPart, noDot]

theorem nameLength_start {c : Char} (rest : Text) (start : isNameStart c = true) :
    nameLength (c :: rest) = nameTail rest + 1 := by
  simp [nameLength, start]

theorem nameLength_other {c : Char} (rest : Text) (other : isNameStart c = false) :
    nameLength (c :: rest) = 0 := by
  simp [nameLength, other]

/-- Name characters at the start belong to the name. -/
theorem nameTail_append {run : Text} (rest : Text) (parts : ∀ c ∈ run, isNamePart c = true) :
    nameTail (run ++ rest) = run.length + nameTail rest := by
  induction run with
  | nil => simp
  | cons c run ih =>
    have others := ih fun d inside => parts d (List.mem_cons_of_mem _ inside)
    rw [List.cons_append, nameTail_part _ (parts c List.mem_cons_self), others, List.length_cons]
    omega

/-- The first `n` characters of what continues a name continue it too, but for a dot at their
end. -/
theorem nameTail_take_cases (text : Text) (n : Nat) :
    nameTail (text.take n) = min n (nameTail text) ∨
      n < nameTail text ∧ nameTail (text.take n) + 1 = n := by
  fun_induction nameTail text generalizing n with
  | case1 => simp [nameTail]
  | case2 c part =>
    cases n with
    | zero => simp [nameTail]
    | succ n => simp [nameTail, part]
  | case3 c other =>
    cases n with
    | zero => simp [nameTail]
    | succ n => simp [nameTail, other]
  | case4 c d rest part ih =>
    cases n with
    | zero => simp [nameTail]
    | succ n =>
      rw [List.take_succ_cons, nameTail_part _ part]
      rcases ih n with all | ⟨inside, short⟩ <;> omega
  | case5 c d rest noPart dot ih =>
    obtain ⟨rfl, start⟩ : c = '.' ∧ isNameStart d = true := by simpa using dot
    match n with
    | 0 => simp [nameTail]
    | 1 => simp [nameTail, noPart]
    | n + 2 =>
      rw [List.take_succ_cons, List.take_succ_cons, nameTail_dot, nameLength_start _ start,
        if_neg (Nat.succ_ne_zero _)]
      rcases ih n with all | ⟨inside, short⟩ <;> omega
  | case6 c d rest noPart noDot =>
    left
    rw [Nat.min_zero]
    match n with
    | 0 => simp [nameTail]
    | 1 => simp [nameTail, noPart]
    | n + 2 => simp [nameTail, noPart, noDot]

theorem nameLength_take_cases (text : Text) (n : Nat) :
    nameLength (text.take n) = min n (nameLength text) ∨
      n < nameLength text ∧ nameLength (text.take n) + 1 = n := by
  cases text with
  | nil => simp [nameLength]
  | cons c rest =>
    cases n with
    | zero => simp [nameLength]
    | succ n =>
      rw [List.take_succ_cons]
      by_cases start : isNameStart c = true
      · rw [nameLength_start _ start, nameLength_start _ start]
        rcases nameTail_take_cases rest n with all | ⟨inside, short⟩ <;> omega
      · simp [nameLength, start]

theorem nameLength_take {text : Text} {n : Nat} (fits : nameLength text ≤ n) :
    nameLength (text.take n) = nameLength text := by
  rcases nameLength_take_cases text n with all | ⟨beyond, _⟩ <;> omega

theorem nameLength_le_length (text : Text) : nameLength text ≤ text.length := by
  rcases nameLength_take_cases text text.length with all | ⟨_, short⟩ <;>
    rw [List.take_length] at * <;> omega

/-- The name characters at the start of a text. -/
def segment (text : Text) : Text := text.take (runLength isNamePart text)

theorem segment_length (text : Text) : (segment text).length = runLength isNamePart text := by
  have := runLength_le_length isNamePart text
  simp only [segment, List.length_take]
  omega

theorem segment_parts (text : Text) : ∀ c ∈ segment text, isNamePart c = true :=
  fun _ inside => mem_take_runLength inside

theorem segment_append {run : Text} (rest : Text) (parts : ∀ c ∈ run, isNamePart c = true)
    (ends : ∀ c ∈ rest.head?, isNamePart c = false) : segment (run ++ rest) = run := by
  have stops : runLength isNamePart rest = 0 := by
    cases rest with
    | nil => rfl
    | cons c others => simp [runLength, ends c rfl]
  rw [segment, runLength_append rest parts, stops, Nat.add_zero, List.take_left]

theorem head?_drop_segment (text : Text) :
    ∀ c ∈ (text.drop (runLength isNamePart text)).head?, isNamePart c = false := by
  induction text with
  | nil => simp
  | cons d rest ih =>
    unfold runLength
    by_cases part : isNamePart d = true
    · simpa only [part, if_true, List.drop_succ_cons] using ih
    · simp [part]

theorem nameLength_eq_segment {c : Char} (rest : Text) (start : isNameStart c = true) :
    nameLength (c :: rest) =
      (segment (c :: rest)).length + nameTail ((c :: rest).drop (runLength isNamePart (c :: rest))) := by
  have part := isNamePart_of_isNameStart start
  have split : (c :: rest) = segment (c :: rest) ++ (c :: rest).drop (runLength isNamePart (c :: rest)) :=
    (List.take_append_drop _ _).symm
  calc nameLength (c :: rest) = nameTail (c :: rest) := by
        rw [nameLength_start _ start, nameTail_part _ part]
    _ = _ := by
        conv => lhs; rw [split]
        exact nameTail_append _ (segment_parts _)

/-- A reserved word is accepted where it is the first segment of a name. -/
theorem keywordLength_eq {word : Text} (text : Text) (parts : ∀ c ∈ word, isNamePart c = true) :
    keywordLength word text = if word = segment text then word.length else 0 := by
  unfold keywordLength
  by_cases whole : word = segment text
  · have ends := head?_drop_segment text
    rw [← segment_length, ← whole] at ends
    have starts : word.isPrefixOf text = true :=
      List.isPrefixOf_iff_prefix.mpr (whole ▸ List.take_prefix _ _)
    rw [if_pos whole]
    cases next : (text.drop word.length).head? with
    | none => simp [starts]
    | some c => simp [starts, ends c next]
  · rw [if_neg whole, if_neg]
    intro accepted
    simp only [Bool.and_eq_true, Bool.not_eq_true', List.isPrefixOf_iff_prefix] at accepted
    obtain ⟨⟨rest, rfl⟩, ends⟩ := accepted
    refine whole (segment_append rest parts fun c first => ?_).symm
    simpa [Option.mem_def.mp first] using ends

/-- The reserved words and the kinds of their tokens. -/
def reservedWords : List (Text × TokenKind) :=
  [ (['o', 'r'], .orWord), (['a', 'n', 'd'], .andWord), (['n', 'o', 't'], .notWord),
    (['i', 'n'], .inWord), (['s', 't', 'a', 'r', 't', 's', 'w', 'i', 't', 'h'], .startsWithWord),
    (['e', 'n', 'd', 's', 'w', 'i', 't', 'h'], .endsWithWord), (['T', 'r', 'u', 'e'], .trueWord),
    (['F', 'a', 'l', 's', 'e'], .falseWord), (['N', 'o', 'n', 'e'], .noneWord) ]

/-- The kind of the token that a dotted name makes. -/
def wordKind (word : Text) : TokenKind := (reservedWords.lookup word).getD .name

/-- Names without dots. -/
def IsIdentifier (word : Text) : Prop :=
  ∃ c rest, word = c :: rest ∧ isNameStart c = true ∧ ∀ d ∈ rest, isNamePart d = true

instance (word : Text) : Decidable (IsIdentifier word) :=
  match word with
  | [] => isFalse (by rintro ⟨_, _, same, _⟩; cases same)
  | c :: rest =>
    decidable_of_iff (isNameStart c = true ∧ rest.all isNamePart = true)
      ⟨fun ⟨start, parts⟩ => ⟨c, rest, rfl, start, List.all_eq_true.mp parts⟩,
        fun ⟨_, _, same, start, parts⟩ => by cases same; exact ⟨start, List.all_eq_true.mpr parts⟩⟩

theorem IsIdentifier.parts {word : Text} (identifier : IsIdentifier word) :
    ∀ c ∈ word, isNamePart c = true := by
  obtain ⟨c, rest, rfl, start, parts⟩ := identifier
  intro d inside
  rcases List.mem_cons.mp inside with same | later
  · rw [same]; exact isNamePart_of_isNameStart start
  · exact parts d later

theorem reservedWords_identifier : ∀ entry ∈ reservedWords, IsIdentifier entry.1 := by decide

theorem keywordLength_take {word text : Text} {n : Nat} (identifier : IsIdentifier word)
    (fits : nameLength text ≤ n) : keywordLength word (text.take n) = keywordLength word text := by
  rw [keywordLength_eq _ identifier.parts, keywordLength_eq _ identifier.parts]
  obtain ⟨w, others, rfl, wStart, _⟩ := identifier
  -- Without the start of a name no identifier can be the first segment.
  have absent : ∀ c rest, isNameStart c = false → w :: others ≠ segment (c :: rest) := by
    intro c rest noStart same
    unfold segment runLength at same
    split at same
    · rw [← (List.cons.inj same).1, wStart] at noStart
      cases noStart
    · cases same
  cases text with
  | nil => simp
  | cons c rest =>
    by_cases start : isNameStart c = true
    · have name := nameLength_eq_segment rest start
      have whole : segment ((c :: rest).take n) = segment (c :: rest) := by
        rw [segment_length] at name
        rw [segment, runLength_take, List.take_take, segment]
        congr 1
        omega
      rw [whole]
    · have noStart : isNameStart c = false := by simpa using start
      rw [if_neg (absent c rest noStart)]
      cases n with
      | zero => rw [if_neg]; simp [segment]
      | succ n => rw [List.take_succ_cons, if_neg (absent c _ noStart)]

theorem mem_take_nameTail {text : Text} {c : Char} (inside : c ∈ text.take (nameTail text)) :
    isNamePart c = true ∨ c = '.' := by
  fun_induction nameTail text with
  | case1 => simp at inside
  | case2 d part =>
    obtain rfl : c = d := by simpa using inside
    exact Or.inl part
  | case3 => simp at inside
  | case4 d e rest part ih =>
    rcases List.mem_cons.mp inside with same | later
    · rw [same]; exact Or.inl part
    · exact ih later
  | case5 d e rest noPart dot ih =>
    obtain ⟨rfl, start⟩ : d = '.' ∧ isNameStart e = true := by simpa using dot
    rcases List.mem_cons.mp inside with same | later
    · exact Or.inr same
    · rcases List.mem_cons.mp later with same | beyond
      · rw [same]; exact Or.inl (isNamePart_of_isNameStart start)
      · exact ih beyond
  | case6 => simp at inside

theorem mem_take_nameLength {text : Text} {c : Char} (inside : c ∈ text.take (nameLength text)) :
    isNamePart c = true ∨ c = '.' := by
  cases text with
  | nil => simp at inside
  | cons d rest =>
    by_cases start : isNameStart d = true
    · rw [nameLength_start _ start] at inside
      rcases List.mem_cons.mp inside with same | later
      · rw [same]; exact Or.inl (isNamePart_of_isNameStart start)
      · exact mem_take_nameTail later
    · simp [nameLength, start] at inside

end QueryCompletion.Lexer
