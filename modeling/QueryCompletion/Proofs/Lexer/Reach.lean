import QueryCompletion.Proofs.Lexer.Longest

/-!
The loop of the tokenizer as a relation: which positions it reaches and what it has emitted there. A
position that the loop reaches is reached in every longer text too, unless a match there runs past
the end of the shorter one.
-/

namespace QueryCompletion.Lexer

/-- How many characters the loop passes at the start of a text. -/
def advance (text : Text) : Nat := max 1 (longest text).length

/-- The token that the loop emits at a position. -/
def emitted (text : Text) (position : Nat) : Option Token :=
  tokenAt? position (text.drop position) (longest (text.drop position))

/-- The loop over a text stands at a position and has emitted the tokens. -/
inductive Reach (text : Text) : List Token → Nat → Prop
  | start : Reach text [] 0
  | next {tokens : List Token} {position : Nat} : Reach text tokens position →
      position < text.length →
      Reach text (tokens ++ (emitted text position).toList)
        (position + advance (text.drop position))

theorem advance_le {text : Text} (some' : text ≠ []) : advance text ≤ text.length := by
  have length := List.length_pos_iff.mpr some'
  have bound := longest_length_le text
  unfold advance
  omega

theorem scan_nil (position : Nat) : scan position [] = [] := by
  rw [scan]

theorem scan_eq (position : Nat) {text : Text} (some' : text ≠ []) :
    scan position text =
      (tokenAt? position text (longest text)).toList ++
        scan (position + advance text) (text.drop (advance text)) := by
  cases text with
  | nil => exact absurd rfl some'
  | cons c rest =>
    have passed : advance (c :: rest) = (longest (c :: rest)).length - 1 + 1 := by
      unfold advance
      omega
    rw [scan, passed, List.drop_succ_cons, Nat.add_assoc]

/-- What the loop has not emitted yet it finds in the rest of the text. -/
theorem Reach.tokenize_eq {text : Text} {tokens : List Token} {position : Nat}
    (reach : Reach text tokens position) :
    tokenize text = tokens ++ scan position (text.drop position) := by
  induction reach with
  | start => rfl
  | @next tokens position _ within ih =>
    rw [ih, scan_eq position (List.drop_eq_nil_iff.not.mpr (Nat.not_le.mpr within)), List.drop_drop,
      List.append_assoc]
    rfl

theorem Reach.le_length {text : Text} {tokens : List Token} {position : Nat}
    (reach : Reach text tokens position) : position ≤ text.length := by
  induction reach with
  | start => exact Nat.zero_le _
  | @next tokens position _ within _ =>
    have bound := advance_le (List.drop_eq_nil_iff.not.mpr (Nat.not_le.mpr within))
    rw [List.length_drop] at bound
    omega

/-- The loop never jumps over a position that it reaches. -/
theorem Reach.advance_le_of_lt {text : Text} {tokens others : List Token} {position place : Nat}
    (reach : Reach text tokens position) (other : Reach text others place) (earlier : place < position) :
    place + advance (text.drop place) ≤ position := by
  induction reach generalizing others place with
  | start => omega
  | @next tokens position _ _ ih =>
    -- No position between the last two of the loop is reached by any other run of it.
    have outside : ∀ others place, Reach text others place →
        place ≤ position ∨ position + advance (text.drop position) ≤ place := by
      intro others place other
      induction other with
      | start => exact Or.inl (Nat.zero_le _)
      | @next others place previous _ inner =>
        rcases inner with early | late
        · rcases Nat.lt_or_eq_of_le early with before | same
          · exact Or.inl (ih previous before)
          · rw [same]; exact Or.inr (Nat.le_refl _)
        · exact Or.inr (Nat.le_trans late (Nat.le_add_right _ _))
    rcases outside others place other with early | late
    · rcases Nat.lt_or_eq_of_le early with before | same
      · exact Nat.le_trans (ih other before) (Nat.le_add_right _ _)
      · exact Nat.le_of_eq (by rw [same])
    · omega

theorem longest_length_le_advance (text : Text) : (longest text).length ≤ advance text :=
  Nat.le_max_right _ _

theorem longest_pos_of_kind {text : Text} {kind : TokenKind} (found : (longest text).kind = some kind) :
    0 < (longest text).length := by
  rcases longest_cases text with nothing | ⟨rule, _, same, positive⟩
  · rw [nothing] at found; cases found
  · rw [same]; exact positive

/-- What a token says about the place where it was emitted. -/
theorem emitted_eq_some {text : Text} {position : Nat} {token : Token}
    (found : emitted text position = some token) :
    token.start = position ∧ token.stop = position + advance (text.drop position) ∧
      token.stop = position + (longest (text.drop position)).length ∧
      (longest (text.drop position)).kind = some token.kind ∧
      token.value =
        tokenValue token.kind ((text.drop position).take (longest (text.drop position)).length) := by
  obtain ⟨kind, atKind, rfl⟩ := Option.map_eq_some_iff.mp found
  have positive := longest_pos_of_kind atKind
  have passed : advance (text.drop position) = (longest (text.drop position)).length := by
    unfold advance
    omega
  exact ⟨rfl, by rw [passed], rfl, atKind, rfl⟩

/-- A match makes a token, or it is a run of blanks. -/
theorem emitted_or_blanks {text : Text} {position : Nat}
    (positive : 0 < (longest (text.drop position)).length) :
    (∃ token, emitted text position = some token) ∨
      ∀ c ∈ (text.drop position).take (longest (text.drop position)).length, isBlank c = true := by
  unfold emitted tokenAt?
  rcases longest_lexeme positive with ⟨_, blanks⟩ | ⟨kind, _⟩ | ⟨⟨kind, isKind, _⟩, _⟩
  · exact Or.inr blanks
  · rw [kind]
    exact Or.inl ⟨_, rfl⟩
  · rw [isKind]
    exact Or.inl ⟨_, rfl⟩

/-- Every cut of a text is a position that the loop reaches, or a match runs over it. -/
theorem exists_reach {text : Text} {cut : Nat} (within : cut ≤ text.length) :
    ∃ tokens position, Reach text tokens position ∧
      (position = cut ∨ position < cut ∧ cut < position + (longest (text.drop position)).length) := by
  induction cut with
  | zero => exact ⟨[], 0, .start, Or.inl rfl⟩
  | succ cut ih =>
    obtain ⟨tokens, position, reach, place⟩ := ih (by omega)
    have next := reach.next (by omega)
    by_cases across : cut + 1 < position + (longest (text.drop position)).length
    · exact ⟨tokens, position, reach, Or.inr ⟨by omega, across⟩⟩
    · have stop : position + advance (text.drop position) = cut + 1 := by
        unfold advance
        omega
      rw [stop] at next
      exact ⟨_, _, next, Or.inl rfl⟩

theorem reach_length (text : Text) : Reach text (tokenize text) text.length := by
  obtain ⟨tokens, position, reach, place⟩ := exists_reach (Nat.le_refl text.length)
  have bound := longest_length_le (text.drop position)
  have inside := reach.le_length
  rw [List.length_drop] at bound
  obtain rfl : position = text.length := by omega
  have all := reach.tokenize_eq
  rw [List.drop_length, scan_nil, List.append_nil] at all
  rw [all]
  exact reach

/-- The loop stood at the start of a token with the tokens before it, and emitted it there. -/
theorem Reach.split {text : Text} {tokens earlier later : List Token} {position : Nat} {token : Token}
    (reach : Reach text tokens position) (parts : tokens = earlier ++ token :: later) :
    Reach text earlier token.start ∧ emitted text token.start = some token ∧ token.stop ≤ position := by
  induction reach generalizing later with
  | start => cases earlier <;> cases parts
  | @next tokens position previous _ ih =>
    cases found : emitted text position with
    | none =>
      rw [found, Option.toList_none, List.append_nil] at parts
      obtain ⟨before, emits, bound⟩ := ih parts
      exact ⟨before, emits, Nat.le_trans bound (Nat.le_add_right _ _)⟩
    | some last =>
      rw [found, Option.toList_some] at parts
      rcases List.eq_nil_or_concat' later with rfl | ⟨init, other, rfl⟩
      · obtain ⟨rfl, same⟩ := List.append_inj' parts rfl
        obtain rfl : last = token := by simpa using same
        obtain ⟨start, stop, _⟩ := emitted_eq_some found
        rw [start, stop]
        exact ⟨previous, found, Nat.le_refl _⟩
      · rw [← List.cons_append, ← List.append_assoc] at parts
        obtain ⟨before, emits, bound⟩ := ih (List.append_inj' parts rfl).1
        exact ⟨before, emits, Nat.le_trans bound (Nat.le_add_right _ _)⟩

/-- Every emitted token was emitted at its start. -/
theorem Reach.mem {text : Text} {tokens : List Token} {position : Nat} {token : Token}
    (reach : Reach text tokens position) (inside : token ∈ tokens) :
    ∃ before, Reach text before token.start ∧ emitted text token.start = some token ∧
      token.stop ≤ position := by
  obtain ⟨earlier, later, parts⟩ := List.append_of_mem inside
  exact ⟨earlier, reach.split parts⟩

theorem start_lt_stop {text : Text} {token : Token} (emits : emitted text token.start = some token) :
    token.start < token.stop := by
  obtain ⟨_, _, stop, kind, _⟩ := emitted_eq_some emits
  have positive := longest_pos_of_kind kind
  omega

theorem Reach.emit {text : Text} {tokens : List Token} {token : Token}
    (reach : Reach text tokens token.start) (emits : emitted text token.start = some token) :
    Reach text (tokens ++ [token]) token.stop := by
  obtain ⟨_, stop, ends, kind, _⟩ := emitted_eq_some emits
  have positive := longest_pos_of_kind kind
  have bound := longest_length_le (text.drop token.start)
  rw [List.length_drop] at bound
  have next := reach.next (by omega)
  rwa [emits, ← stop] at next

theorem Reach.mem_tokenize {text : Text} {tokens : List Token} {token : Token}
    (reach : Reach text tokens token.start) (emits : emitted text token.start = some token) :
    token ∈ tokenize text := by
  rw [(reach.emit emits).tokenize_eq]
  simp

/-- A token that the loop emits comes behind those before it, and the loop goes on at its end. -/
theorem Reach.tokenize_of_emitted {text : Text} {tokens : List Token} {position : Nat} {token : Token}
    (reach : Reach text tokens position) (emits : emitted text position = some token) :
    tokenize text = tokens ++ token :: scan token.stop (text.drop token.stop) := by
  obtain ⟨rfl, _⟩ := emitted_eq_some emits
  rw [(reach.emit emits).tokenize_eq, List.append_assoc]
  rfl

theorem stop_le_length {text : Text} {token : Token} (inside : token ∈ tokenize text) :
    token.stop ≤ text.length := by
  obtain ⟨_, _, _, bound⟩ := (reach_length text).mem inside
  exact bound

/-- What follows a token is found in the text behind it. -/
theorem later_eq_scan {text : Text} {earlier later : List Token} {token : Token}
    (parts : tokenize text = earlier ++ token :: later) :
    later = scan token.stop (text.drop token.stop) := by
  obtain ⟨reach, emits, _⟩ := (reach_length text).split parts
  have all := (reach.emit emits).tokenize_eq
  rw [parts, List.append_assoc] at all
  exact (List.cons.inj (List.append_cancel_left all)).2

/-- Tokens lie one behind the other. -/
theorem stop_le_of_split {text : Text} {earlier later : List Token} {token other : Token}
    (parts : tokenize text = earlier ++ token :: later) (inside : other ∈ earlier) :
    other.stop ≤ token.start := by
  obtain ⟨reach, _⟩ := (reach_length text).split parts
  obtain ⟨_, _, _, bound⟩ := reach.mem inside
  exact bound

/-- A token of the text begins before the cut and ends behind it. -/
structure Crosses (text : Text) (cut : Nat) (token : Token) : Prop where
  member : token ∈ tokenize text
  left : token.start < cut
  right : cut < token.stop

theorem Reach.not_crosses {text : Text} {tokens : List Token} {cut : Nat} {token : Token}
    (reach : Reach text tokens cut) : ¬ Crosses text cut token := by
  rintro ⟨member, left, right⟩
  obtain ⟨_, other, emits, _⟩ := (reach_length text).mem member
  obtain ⟨_, stop, _⟩ := emitted_eq_some emits
  have := reach.advance_le_of_lt other left
  omega

/-- No two tokens cross the same cut. -/
theorem Crosses.unique {text : Text} {cut : Nat} {token other : Token} (first : Crosses text cut token)
    (second : Crosses text cut other) : token = other := by
  obtain ⟨_, reach, emits, _⟩ := (reach_length text).mem first.member
  obtain ⟨_, reach', emits', _⟩ := (reach_length text).mem second.member
  obtain ⟨_, stop, _⟩ := emitted_eq_some emits
  obtain ⟨_, stop', _⟩ := emitted_eq_some emits'
  have right := first.right
  have right' := second.right
  have left := first.left
  have left' := second.left
  rcases Nat.lt_trichotomy token.start other.start with earlier | same | later
  · have := reach'.advance_le_of_lt reach earlier
    omega
  · rw [same, emits'] at emits
    exact (Option.some.inj emits).symm
  · have := reach.advance_le_of_lt reach' later
    omega

/-- Where the match stays within the first `cut` characters of a text, the loop over these characters
alone does the same. -/
theorem step_take {text : Text} {position cut : Nat}
    (fits : position + (longest (text.drop position)).length ≤ cut) :
    emitted (text.take cut) position = emitted text position ∧
      advance ((text.take cut).drop position) = advance (text.drop position) := by
  have same : longest ((text.take cut).drop position) = longest (text.drop position) := by
    rw [List.drop_take]
    exact longest_take (by omega)
  refine ⟨?_, by rw [advance, advance, same]⟩
  rw [emitted, emitted, same, tokenAt?, tokenAt?, List.drop_take, List.take_take,
    Nat.min_eq_left (by omega)]

theorem Reach.take {text : Text} {tokens : List Token} {position cut : Nat}
    (reach : Reach text tokens position) (below : position ≤ cut) :
    Reach (text.take cut) tokens position := by
  induction reach with
  | start => exact .start
  | @next tokens position _ within ih =>
    have positive : 1 ≤ advance (text.drop position) := Nat.le_max_left _ _
    have match' := longest_length_le_advance (text.drop position)
    have fits : position + (longest (text.drop position)).length ≤ cut := by omega
    obtain ⟨token, passed⟩ := step_take fits
    have next := (ih (by omega)).next (by rw [List.length_take]; omega)
    rwa [token, passed] at next

/-- A position reached in the first `cut` characters is reached in the whole text, unless a match
before it runs past the cut. -/
theorem Reach.of_take {text : Text} {tokens : List Token} {position cut : Nat}
    (reach : Reach (text.take cut) tokens position) :
    Reach text tokens position ∨
      ∃ before place, Reach text before place ∧ place < position ∧
        cut < place + (longest (text.drop place)).length := by
  induction reach with
  | start => exact Or.inl .start
  | @next tokens position previous within ih =>
    have positive : 1 ≤ advance ((text.take cut).drop position) := Nat.le_max_left _ _
    rcases ih with reach | ⟨before, place, reach, earlier, across⟩
    · by_cases across : cut < position + (longest (text.drop position)).length
      · exact Or.inr ⟨tokens, position, reach, by omega, across⟩
      · obtain ⟨token, passed⟩ := step_take (Nat.not_lt.mp across)
        rw [List.length_take] at within
        rw [token, passed]
        exact Or.inl (reach.next (by omega))
    · exact Or.inr ⟨before, place, reach, by omega, across⟩

/-- The tokens of the first `cut` characters, where the loop reaches the cut. -/
theorem Reach.tokenize_take {text : Text} {tokens : List Token} {cut : Nat}
    (reach : Reach text tokens cut) : tokenize (text.take cut) = tokens := by
  have all := (reach.take (Nat.le_refl cut)).tokenize_eq
  rwa [List.drop_eq_nil_iff.mpr (by rw [List.length_take]; omega), scan_nil, List.append_nil] at all

/-- The text up to the end of a token has the tokens up to it. -/
theorem tokenize_take_stop {text : Text} {earlier later : List Token} {token : Token}
    (parts : tokenize text = earlier ++ token :: later) :
    tokenize (text.take token.stop) = earlier ++ [token] := by
  obtain ⟨reach, emits, _⟩ := (reach_length text).split parts
  exact (reach.emit emits).tokenize_take

end QueryCompletion.Lexer

namespace QueryCompletion

/-- What a token says apart from its place. -/
def Token.content (token : Token) : TokenKind × Text := (token.kind, token.value)

namespace Lexer

theorem tokenAt?_content (position place : Nat) (text : Text) (found : Match) :
    (tokenAt? position text found).map Token.content = (tokenAt? place text found).map Token.content := by
  cases kind : found.kind <;> simp [tokenAt?, kind, Token.content]

/-- Where a text stands does not matter for what its tokens say. -/
theorem scan_content (position place : Nat) (text : Text) :
    (scan position text).map Token.content = (scan place text).map Token.content := by
  induction hlen : text.length using Nat.strongRecOn generalizing text position place with
  | _ length ih =>
    by_cases empty : text = []
    · rw [empty, scan_nil, scan_nil]
    · have positive : 1 ≤ advance text := Nat.le_max_left _ _
      have bound := advance_le empty
      have rest := ih (text.drop (advance text)).length (by rw [List.length_drop]; omega)
        (position + advance text) (place + advance text) (text.drop (advance text)) rfl
      rw [scan_eq position empty, scan_eq place empty, List.map_append, List.map_append, rest,
        ← Option.toList_map, ← Option.toList_map, tokenAt?_content position place]

theorem scan_length (position : Nat) (text : Text) :
    (scan position text).length = (tokenize text).length := by
  have same := congrArg List.length (scan_content position 0 text)
  rwa [List.length_map, List.length_map] at same

/-- The loop finds no token before the place where it starts. -/
theorem le_start_of_mem_scan {position : Nat} {text : Text} {token : Token}
    (inside : token ∈ scan position text) : position ≤ token.start := by
  induction hlen : text.length using Nat.strongRecOn generalizing text position with
  | _ length ih =>
    by_cases empty : text = []
    · rw [empty, scan_nil] at inside; cases inside
    · have positive : 1 ≤ advance text := Nat.le_max_left _ _
      have bound := advance_le empty
      rw [scan_eq position empty] at inside
      rcases List.mem_append.mp inside with first | later
      · obtain ⟨kind, _, rfl⟩ := Option.map_eq_some_iff.mp (Option.mem_toList.mp first)
        exact Nat.le_refl _
      · have behind := ih (text.drop (advance text)).length (by rw [List.length_drop]; omega) later rfl
        omega

/-- A blank is passed over by itself, whatever blanks follow. -/
theorem scan_blank {c : Char} (position : Nat) (rest : Text) (blank : isBlank c = true) :
    scan position (c :: rest) = scan (position + 1) rest := by
  have step := scan_eq position (List.cons_ne_nil c rest)
  rw [advance, longest_of_blank rest blank] at step
  simp only [runLength, blank, if_true] at step
  rw [Nat.max_eq_right (Nat.le_add_left 1 _), List.drop_succ_cons] at step
  cases rest with
  | nil => rw [step, runLength, scan_nil, List.drop_nil, scan_nil]; rfl
  | cons d others =>
    by_cases more : isBlank d = true
    · have next := scan_eq (position + 1) (List.cons_ne_nil d others)
      rw [advance, longest_of_blank others more, Nat.max_eq_right (by simp [runLength, more])] at next
      rw [step, next, Nat.add_comm _ 1, ← Nat.add_assoc]
      rfl
    · rw [step]
      simp [runLength, more, tokenAt?]

/-- Characters that are passed over one by one are passed over together. -/
theorem scan_passed {passed : Text} (position : Nat) (rest : Text)
    (each : ∀ c ∈ passed, ∀ position rest, scan position (c :: rest) = scan (position + 1) rest) :
    scan position (passed ++ rest) = scan (position + passed.length) rest := by
  induction passed generalizing position with
  | nil => rfl
  | cons c passed ih =>
    rw [List.cons_append, each c List.mem_cons_self,
      ih _ fun d inside => each d (List.mem_cons_of_mem _ inside), List.length_cons]
    congr 1
    omega

theorem scan_blanks {blanks : Text} (position : Nat) (all : ∀ c ∈ blanks, isBlank c = true) (rest : Text) :
    scan position (blanks ++ rest) = scan (position + blanks.length) rest :=
  scan_passed position rest fun c inside position rest => scan_blank position rest (all c inside)

/-- Where a match runs over a cut and what stands before the cut makes tokens, the match is no run of
blanks. -/
theorem exists_emitted_of_pieces {text : Text} {place cut : Nat} (left : place < cut)
    (right : cut < place + (longest (text.drop place)).length)
    (pieces : scan place ((text.take cut).drop place) ≠ []) :
    ∃ whole, emitted text place = some whole := by
  rcases emitted_or_blanks (show 0 < (longest (text.drop place)).length by omega) with found | blanks
  · exact found
  · refine absurd ?_ pieces
    rw [← List.append_nil ((text.take cut).drop place), scan_blanks place, scan_nil]
    intro c inside
    rw [List.drop_take] at inside
    refine blanks c (List.mem_of_mem_take (i := cut - place) ?_)
    rwa [List.take_take, Nat.min_eq_left (by omega)]

/-- The tokens from a cut on are those of the text behind the position that the loop reaches next. -/
theorem Reach.filter_content {text : Text} {tokens : List Token} {position cut : Nat}
    (reach : Reach text tokens position) (beyond : cut ≤ position)
    (early : ∀ token ∈ tokens, token.start < cut) :
    ((tokenize text).filter fun token => cut ≤ token.start).map Token.content =
      (tokenize (text.drop position)).map Token.content := by
  have before : tokens.filter (fun token => cut ≤ token.start) = [] := by
    rw [List.filter_eq_nil_iff]
    intro token inside
    have := early token inside
    simp only [decide_eq_true_eq]
    omega
  have behind : (scan position (text.drop position)).filter (fun token => cut ≤ token.start) =
      scan position (text.drop position) := by
    rw [List.filter_eq_self]
    intro token inside
    have := le_start_of_mem_scan inside
    simp only [decide_eq_true_eq]
    omega
  rw [reach.tokenize_eq, List.filter_append, before, behind, List.nil_append]
  exact scan_content position 0 _

end Lexer

end QueryCompletion
