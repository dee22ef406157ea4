import QueryCompletion.Proofs.Lexer.Reach
import QueryCompletion.Proofs.Text.Pieces

/-!
Dotted names. The loop takes a dotted name as a whole, then the dot or the blank behind it.
-/

namespace QueryCompletion.Lexer

/-- Dotted names: identifiers with dots between them. -/
inductive Dotted : Text → Prop
  | single {word : Text} : IsIdentifier word → Dotted word
  | step {word rest : Text} : IsIdentifier word → Dotted rest → Dotted (word ++ '.' :: rest)

theorem dotted_of_parts {parts : List Text} (some' : parts ≠ [])
    (identifiers : ∀ part ∈ parts, IsIdentifier part) : Dotted (Text.joinWith ['.'] parts) := by
  induction parts with
  | nil => exact absurd rfl some'
  | cons first others ih =>
    have identifier := identifiers first List.mem_cons_self
    cases others with
    | nil => exact .single identifier
    | cons second more =>
      have rest := ih (List.cons_ne_nil second more)
        fun part inside => identifiers part (List.mem_cons_of_mem _ inside)
      have joined := Dotted.step identifier rest
      rwa [← List.singleton_append, ← List.append_assoc] at joined

theorem dotted_of_pieces {text : Text}
    (identifiers : ∀ piece ∈ Text.pieces '.' text, IsIdentifier piece) : Dotted text := by
  rw [← Text.joinWith_pieces '.' text]
  exact dotted_of_parts (Text.pieces_ne_nil '.' text) identifiers

theorem isPlain_of_isNamePart {c : Char} (part : isNamePart c = true) : isPlain c = true := by
  by_contra other
  have clash : c = '"' ∨ c = '\\' ∨ isLineBreak c = true := by
    simpa [isPlain, Classical.or_iff_not_imp_left] using other
  rcases clash with rfl | rfl | breaks
  · cases part
  · cases part
  · simp only [isLineBreak, Bool.or_eq_true, beq_iff_eq] at breaks
    rcases breaks with ((rfl | rfl) | rfl) | rfl <;> cases part

namespace Dotted

theorem append {front rest : Text} (first : Dotted front) (second : Dotted rest) :
    Dotted (front ++ '.' :: rest) := by
  induction first with
  | single identifier => exact .step identifier second
  | step identifier _ ih =>
    rw [List.append_assoc]
    exact .step identifier ih

theorem head {word : Text} (dotted : Dotted word) :
    ∃ c rest, word = c :: rest ∧ isNameStart c = true := by
  cases dotted with
  | single identifier =>
    obtain ⟨c, rest, same, start, _⟩ := identifier
    exact ⟨c, rest, same, start⟩
  | step identifier _ =>
    obtain ⟨c, rest, rfl, start, _⟩ := identifier
    exact ⟨c, _, rfl, start⟩

theorem chars {word : Text} (dotted : Dotted word) :
    ∀ c ∈ word, isNamePart c = true ∨ c = '.' := by
  induction dotted with
  | single identifier => exact fun c inside => Or.inl (identifier.parts c inside)
  | step identifier _ ih =>
    intro c inside
    rcases List.mem_append.mp inside with first | later
    · exact Or.inl (identifier.parts c first)
    · rcases List.mem_cons.mp later with dot | behind
      · exact Or.inr dot
      · exact ih c behind

theorem plain {word : Text} (dotted : Dotted word) : ∀ c ∈ word, isPlain c = true := by
  intro c inside
  rcases dotted.chars c inside with part | rfl
  · exact isPlain_of_isNamePart part
  · rfl

theorem no_quote {word : Text} (dotted : Dotted word) : '"' ∉ word :=
  fun inside => by cases dotted.plain _ inside

theorem length_pos {word : Text} (dotted : Dotted word) : 0 < word.length := by
  obtain ⟨c, more, rfl, _⟩ := dotted.head
  exact Nat.succ_pos _

end Dotted

theorem nameLength_identifier {word : Text} (rest : Text) (identifier : IsIdentifier word) :
    nameLength (word ++ rest) = word.length + nameTail rest := by
  obtain ⟨c, more, rfl, start, parts⟩ := identifier
  rw [List.cons_append, nameLength_start _ start, nameTail_append rest parts, List.length_cons]
  omega

/-- A dotted name at the start of a text is accepted with all that continues it. -/
theorem nameLength_dotted {word : Text} (rest : Text) (dotted : Dotted word) :
    nameLength (word ++ rest) = word.length + nameTail rest := by
  induction dotted with
  | single identifier => exact nameLength_identifier rest identifier
  | @step word more identifier inner ih =>
    obtain ⟨c, others, rfl, start⟩ := inner.head
    have positive := nameLength_pos (others ++ rest) start
    rw [List.cons_append] at ih
    rw [List.append_assoc, List.cons_append, nameLength_identifier _ identifier, nameTail_dot,
      List.cons_append, if_neg (Nat.ne_of_gt positive), ih, List.length_append]
    simp only [List.length_cons]
    omega

/-- A dotted name matches as a whole where nothing continues it. -/
theorem longest_dotted {word rest : Text} (dotted : Dotted word) (ends : nameTail rest = 0) :
    longest (word ++ rest) = ⟨some (wordKind word), word.length⟩ := by
  have length := nameLength_dotted rest dotted
  rw [ends, Nat.add_zero] at length
  obtain ⟨c, more, rfl, start⟩ := dotted.head
  rw [List.cons_append] at *
  rw [longest_of_word _ start, length, ← List.cons_append, List.take_left]

theorem wordKind_ne_string (word : Text) : wordKind word ≠ .string := by
  have table : ∀ entry ∈ reservedWords, entry.2 ≠ .string := by decide
  unfold wordKind
  cases found : reservedWords.lookup word with
  | none => decide
  | some kind =>
    exact table (word, kind) (mem_of_lookup found)

theorem longest_dot (rest : Text) : longest ('.' :: rest) = ⟨some .dot, 1⟩ := by
  have table : ∀ entry ∈ symbols, entry.1.head? = some '.' → entry = (['.'], .dot) := by decide
  have bound := @accepts_le_longest ⟨some .dot, wordLength ['.']⟩ ('.' :: rest)
    (List.mem_cons_of_mem _ List.mem_cons_self)
  have one : wordLength ['.'] ('.' :: rest) = 1 := by simp [wordLength, List.isPrefixOf]
  rcases longest_cases ('.' :: rest) with nothing | ⟨rule, shape, same, positive⟩
  · rw [nothing] at bound
    exact absurd (Nat.le_trans (Nat.le_of_eq one.symm) bound) (Nat.not_succ_le_zero 0)
  rw [same]
  rcases rule_of_accepts shape positive rfl rfl rfl (by decide) with ⟨entry, inside, starts, rfl⟩ | ⟨quote, _⟩
  · rw [table entry inside starts]
    exact congrArg (Match.mk (some .dot)) one
  · cases quote

/-- A name with a dot is not reserved. -/
theorem lookup_of_dot {word : Text} (dot : '.' ∈ word) : reservedWords.lookup word = none := by
  rw [List.lookup_eq_none_iff]
  intro entry inside
  have identifier := reservedWords_identifier entry inside
  by_contra same
  have equal : word = entry.1 := by simpa using same
  have part := identifier.parts '.' (equal ▸ dot)
  cases part

/-- A name consists of the characters of names and dots. -/
theorem mem_name {text : Text} {position : Nat} {c : Char}
    (kind : (longest (text.drop position)).kind = some .name)
    (inside : c ∈ (text.drop position).take (longest (text.drop position)).length) :
    isNamePart c = true ∨ c = '.' := by
  have noSymbol : ∀ entry ∈ symbols, entry.2 ≠ .name := by decide
  have noWord : ∀ entry ∈ reservedWords, entry.2 ≠ .name := by decide
  rcases longest_cases (text.drop position) with nothing | ⟨rule, shape, same, _⟩
  · rw [nothing] at kind; cases kind
  rw [same] at kind inside
  cases shape with
  | symbol entry => cases kind; exact absurd rfl (noSymbol _ entry)
  | keyword entry => cases kind; exact absurd rfl (noWord _ entry)
  | name => exact mem_take_nameLength inside
  | _ => cases kind

/-- One step over a match of known kind and length. -/
theorem Reach.step {front rest : Text} {tokens : List Token} {kind : Option TokenKind} (lexeme : Text)
    (reach : Reach (front ++ (lexeme ++ rest)) tokens front.length)
    (found : longest (lexeme ++ rest) = ⟨kind, lexeme.length⟩) (some' : lexeme ≠ []) :
    Reach (front ++ (lexeme ++ rest))
      (tokens ++ (kind.map fun kind => (⟨kind, tokenValue kind lexeme, front.length,
        front.length + lexeme.length⟩ : Token)).toList)
      (front.length + lexeme.length) := by
  have positive := List.length_pos_iff.mpr some'
  have next := reach.next (by simp only [List.length_append]; omega)
  rw [emitted, List.drop_left, advance, found, tokenAt?] at next
  dsimp only at next
  rwa [List.take_left, Nat.max_eq_right positive] at next

theorem Reach.word {head word rest : Text} {tokens : List Token}
    (reach : Reach (head ++ (word ++ rest)) tokens head.length) (dotted : Dotted word)
    (ends : nameTail rest = 0) :
    Reach (head ++ (word ++ rest))
      (tokens ++ [⟨wordKind word, word, head.length, head.length + word.length⟩])
      (head.length + word.length) := by
  have some' : word ≠ [] := List.ne_nil_of_length_pos dotted.length_pos
  have next := Reach.step word reach (longest_dotted dotted ends) some'
  rwa [Option.map_some, Option.toList_some, tokenValue, if_neg (wordKind_ne_string word)] at next

theorem Reach.dot {front rest : Text} {tokens : List Token}
    (reach : Reach (front ++ '.' :: rest) tokens front.length) :
    Reach (front ++ '.' :: rest) (tokens ++ [⟨.dot, ['.'], front.length, front.length + 1⟩])
      (front.length + 1) :=
  Reach.step ['.'] reach (longest_dot rest) (List.cons_ne_nil _ _)

theorem Reach.blank {front rest : Text} {tokens : List Token} {c : Char}
    (reach : Reach (front ++ c :: rest) tokens front.length) (blank : isBlank c = true)
    (solid : ∀ d ∈ rest.head?, isBlank d = false) :
    Reach (front ++ c :: rest) tokens (front.length + 1) := by
  have run : runLength isBlank (c :: rest) = 1 := by
    cases rest with
    | nil => simp [runLength, blank]
    | cons d more => simp [runLength, blank, solid d rfl]
  have found : longest ([c] ++ rest) = ⟨none, [c].length⟩ := by
    rw [List.singleton_append, longest_of_blank rest blank, run]
    rfl
  have next := Reach.step [c] reach found (List.cons_ne_nil _ _)
  rwa [Option.map_none, Option.toList_none, List.append_nil] at next

end QueryCompletion.Lexer
