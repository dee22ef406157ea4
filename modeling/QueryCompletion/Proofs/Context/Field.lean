import QueryCompletion.Proofs.Context.Token
import QueryCompletion.Proofs.Schema.Walk

/-!
Field paths. A path begins where a new word can begin, or goes on behind a lone dot; what stands before
its last segment leads to the model of the context. Behind a whole name a blank asks for an operator,
and a dot for a field of the model that the name leads to.
-/

namespace QueryCompletion

open Lexer

namespace Window

variable {text : Text} {cursor : Nat}

/-- The tokens that stand before the typed text. -/
def keptAt (text : Text) (cursor : Nat) : List Token := settled (tokenize (text.take cursor)) cursor

theorem keptAt_initial (text : Text) (cursor : Nat) :
    keptAt text cursor <+: tokenize (text.take cursor) := by
  unfold keptAt settled
  split
  · exact List.dropLast_prefix _
  · exact List.prefix_rfl

theorem mem_of_mem_keptAt {token : Token} (inside : token ∈ keptAt text cursor) :
    token ∈ tokenize (text.take cursor) :=
  (keptAt_initial text cursor).subset inside

/-- Where the typed text and the blanks before it begin. -/
def edge (tokens : List Token) : Nat := (tokens.getLast?.map Token.stop).getD 0

theorem edge_le (text : Text) (cursor : Nat) : edge (keptAt text cursor) ≤ (text.take cursor).length := by
  unfold edge
  cases last : (keptAt text cursor).getLast? with
  | none => exact Nat.zero_le _
  | some token => exact stop_le_length (mem_of_mem_keptAt (List.mem_of_getLast? last))

theorem mem_keptAt {token : Token} (inside : token ∈ tokenize (text.take cursor))
    (ends : token.stop < cursor) : token ∈ keptAt text cursor := by
  unfold keptAt settled
  split
  · rename_i touching
    obtain ⟨front, last, tokens, reaches⟩ := touches_iff.mp touching
    rw [tokens, List.dropLast_concat]
    rw [tokens] at inside
    rcases List.mem_append.mp inside with earlier | same
    · exact earlier
    · rw [List.mem_singleton.mp same] at ends
      omega
  · exact inside

/-- Tokens that end before the cursor end before what is typed. -/
theorem stop_le_edge {token : Token} (inside : token ∈ tokenize (text.take cursor))
    (ends : token.stop < cursor) : token.stop ≤ edge (keptAt text cursor) := by
  have kept := mem_keptAt inside ends
  rcases List.eq_nil_or_concat' (keptAt text cursor) with empty | ⟨init, last, split⟩
  · rw [empty] at kept; cases kept
  have whole : ∃ later, tokenize (text.take cursor) = init ++ last :: later := by
    unfold keptAt settled at split
    split at split
    · obtain ⟨front, final, tokens, _⟩ := touches_iff.mp (by assumption)
      rw [tokens, List.dropLast_concat] at split
      exact ⟨[final], by rw [tokens, split]; simp⟩
    · exact ⟨[], split⟩
  obtain ⟨later, whole⟩ := whole
  rw [edge, split, List.getLast?_concat]
  show token.stop ≤ last.stop
  rw [split] at kept
  rcases List.mem_append.mp kept with earlier | same
  · have order := stop_le_of_split whole earlier
    have bound := start_lt_stop ((reach_length _).split whole).2.1
    omega
  · exact Nat.le_of_eq (by rw [List.mem_singleton.mp same])

theorem behind_keptAt (text : Text) (cursor : Nat) :
    behind text (keptAt text cursor) cursor = (text.take cursor).drop (edge (keptAt text cursor)) := by
  have bound : edge (keptAt text cursor) ≤ text.length := by
    have within := edge_le text cursor
    rw [List.length_take] at within
    omega
  exact Text.slice_natCast bound

theorem atCursor_last (text : Text) (cursor : Nat) :
    (atCursor text cursor).last = (keptAt text cursor).getLast? := by
  rw [atCursor, Text.before_natCast]
  rfl

theorem start_le_of_last {last : Token} (atLast : (atCursor text cursor).last = some last) :
    last.start ≤ (text.take cursor).length := by
  rw [atCursor_last] at atLast
  have inside := mem_of_mem_keptAt (List.mem_of_getLast? atLast)
  obtain ⟨_, reach, _⟩ := (reach_length (text.take cursor)).mem inside
  exact reach.le_length

theorem atCursor_beforeLast (text : Text) (cursor : Nat) :
    (atCursor text cursor).beforeLast = (keptAt text cursor).dropLast.getLast? := by
  rw [atCursor, Text.before_natCast]
  rfl

theorem atCursor_typed (text : Text) (cursor : Nat) :
    (atCursor text cursor).typed = typedIn ((text.take cursor).drop (edge (keptAt text cursor))) := by
  rw [atCursor, Text.before_natCast, ← behind_keptAt]
  rfl

theorem atCursor_spaced (text : Text) (cursor : Nat) :
    (atCursor text cursor).spaced =
      decide (0 < runLength isBlank ((text.take cursor).drop (edge (keptAt text cursor)))) := by
  rw [atCursor, Text.before_natCast, ← behind_keptAt]
  rfl

/-- What is typed stands behind blanks, unless it is a lone parenthesis that does not count. -/
theorem typedIn_cases (raw : Text) :
    raw = raw.take (runLength isBlank raw) ++ typedIn raw ∨
      typedIn raw = [] ∧ raw.getLast? = some '(' := by
  unfold typedIn
  dsimp only
  split
  · rename_i paren
    refine Or.inr ⟨rfl, ?_⟩
    rw [← List.take_append_drop (runLength isBlank raw) raw, paren, List.getLast?_concat]
  · exact Or.inl (List.take_append_drop _ _).symm

/-- What is typed behind a place where a word can begin, or behind blanks, begins such a place too. -/
theorem exists_open_head {front : Text} (raw : Text) (opens : 0 < runLength isBlank raw ∨ EndsOpen front) :
    ∃ head, front ++ raw = head ++ typedIn raw ∧ EndsOpen head ∧ front.length ≤ head.length := by
  rcases typedIn_cases raw with split | ⟨empty, paren⟩
  · refine ⟨front ++ raw.take (runLength isBlank raw), by rw [List.append_assoc, ← split], ?_, by simp⟩
    by_cases spaced : 0 < runLength isBlank raw
    · have bound := runLength_le_length isBlank raw
      refine endsOpen_blanks ?_ fun c inside => mem_take_runLength inside
      rw [← List.length_pos_iff, List.length_take]
      omega
    · rw [Nat.eq_zero_of_not_pos spaced, List.take_zero, List.append_nil]
      exact opens.resolve_left spaced
  · refine ⟨front ++ raw, by rw [empty, List.append_nil], fun c last => ?_, by simp⟩
    have some' : raw ≠ [] := by rintro rfl; cases paren
    rw [List.getLast?_append_of_ne_nil _ some', paren] at last
    cases last
    exact Or.inr rfl

theorem endsOpen_of_parenL {token : Token} (inside : token ∈ tokenize text) (kind : token.kind = .parenL) :
    EndsOpen (text.take token.stop) := by
  obtain ⟨_, _, emits, bound⟩ := (reach_length text).mem inside
  obtain ⟨stop, paren⟩ := parenL_char emits kind
  intro c last
  rw [List.getLast?_eq_getElem?, List.length_take, Nat.min_eq_left bound,
    List.getElem?_take_of_lt (by omega), stop, Nat.add_sub_cancel, paren] at last
  cases last
  exact Or.inr rfl

/-- Where a field path starts: behind a blank or a parenthesis, or with the last token when a lone dot
is typed behind that. -/
theorem path_cases (starts : (atCursor text cursor).startsField = true) :
    (∃ head, text.take cursor = head ++ (atCursor text cursor).path text cursor ∧ EndsOpen head ∧
        edge (keptAt text cursor) ≤ head.length) ∨
      ∃ last ∈ tokenize (text.take cursor),
        (atCursor text cursor).path text cursor = (text.take cursor).drop last.start ∧
        (atCursor text cursor).typed = ['.'] := by
  have typed := atCursor_typed text cursor
  have spaced := atCursor_spaced text cursor
  have split := List.take_append_drop (edge (keptAt text cursor)) (text.take cursor)
  unfold startsField at starts
  unfold path
  rw [atCursor_last] at starts ⊢
  generalize (text.take cursor).drop (edge (keptAt text cursor)) = raw at typed spaced split
  cases last : (keptAt text cursor).getLast? with
  | none =>
    rw [edge, last] at split
    have opens : EndsOpen [] := by nofun
    obtain ⟨head, same, openHead, _⟩ := exists_open_head raw (Or.inr opens)
    exact Or.inl ⟨head, by rw [typed, ← same, ← split]; rfl, openHead, by simp [edge, last]⟩
  | some token =>
    have inside := mem_of_mem_keptAt (List.mem_of_getLast? last)
    have bound := stop_le_length inside
    rw [last] at starts
    rw [edge, last, Option.map_some, Option.getD_some] at split
    dsimp only at starts ⊢
    split
    · rename_i dot
      refine Or.inr ⟨token, inside, Text.slice_natCast ?_, dot⟩
      obtain ⟨_, _, emits, _⟩ := (reach_length (text.take cursor)).mem inside
      obtain ⟨_, _, stop, _⟩ := emitted_eq_some emits
      rw [List.length_take] at bound
      omega
    · rename_i noDot
      have opens : 0 < runLength isBlank raw ∨ EndsOpen ((text.take cursor).take token.stop) := by
        simp only [noDot, spaced, decide_false, Bool.false_and, Bool.or_false, Bool.or_eq_true,
          Bool.and_eq_true, beq_iff_eq, decide_eq_true_eq] at starts
        rcases starts with ⟨_, blanks⟩ | ⟨paren, _⟩
        · exact Or.inl blanks
        · exact Or.inr (endsOpen_of_parenL inside paren)
      obtain ⟨head, same, openHead, longer⟩ := exists_open_head raw opens
      refine Or.inl ⟨head, by rw [typed, ← same, split], openHead, ?_⟩
      rw [List.length_take, Nat.min_eq_left bound] at longer
      simpa [edge, last] using longer

/-- The window behind a whole name and one more character. -/
theorem atCursor_behind_word {head word : Text} {c : Char} {tokens : List Token}
    (reach : Reach (head ++ (word ++ [c])) tokens head.length) (dotted : Dotted word)
    (ends : nameTail [c] = 0) :
    ∃ token, atCursor (head ++ (word ++ [c])) (head ++ (word ++ [c])).length =
      ⟨some ⟨wordKind word, word, head.length, head.length + word.length⟩, tokens.getLast?, typedIn [c],
        decide (0 < runLength isBlank [c]), token⟩ := by
  have behindWord := reach.word dotted ends
  have length : (head ++ (word ++ [c])).length = head.length + word.length + 1 := by
    simp only [List.length_append, List.length_singleton]
    omega
  have rest : (head ++ (word ++ [c])).drop (head.length + word.length) = [c] := by
    rw [← List.append_assoc, ← List.length_append, List.drop_left]
  generalize head ++ (word ++ [c]) = text at *
  have atEnd := behindWord.next (by omega)
  have kept : settled (tokenize text) text.length =
      tokens ++ [⟨wordKind word, word, head.length, head.length + word.length⟩] := by
    have one : advance [c] = 1 := by
      have bound := longest_length_le [c]
      rw [List.length_singleton] at bound
      exact Nat.max_eq_left bound
    have all := atEnd.tokenize_eq
    rw [rest, one, ← length, List.drop_length, scan_nil, List.append_nil] at all
    rw [settled, all]
    -- What the last character makes, if anything, is set aside as it touches the cursor.
    cases emits : emitted text (head.length + word.length) with
    | none =>
      rw [Option.toList_none, List.append_nil, touches_concat, if_neg]
      simp only [decide_eq_true_eq]
      omega
    | some token =>
      obtain ⟨_, stop, _⟩ := emitted_eq_some emits
      rw [rest, one] at stop
      rw [Option.toList_some, touches_concat, if_pos, List.dropLast_concat]
      simp only [decide_eq_true_eq]
      omega
  have raw : behind text
      (tokens ++ [⟨wordKind word, word, head.length, head.length + word.length⟩]) text.length = [c] := by
    rw [behind, List.getLast?_concat, Option.map_some, Option.getD_some,
      Text.slice_natCast (by dsimp only; omega), List.take_length, rest]
  refine ⟨(atCursor text text.length).token, ?_⟩
  rw [atCursor, Text.before_natCast, List.take_length, kept, raw, List.getLast?_concat,
    List.dropLast_concat]

end Window

namespace Schema

variable {schema : Schema} {text : Text} {cursor : Nat}

theorem contextAt_of_field {cursor : Int} (scope : (schema.contextAt text cursor).scope = some .field) :
    (Window.atCursor text cursor).startsField = true ∧
      schema.contextAt text cursor =
        schema.fieldContext ((Window.atCursor text cursor).path text cursor)
          (Window.atCursor text cursor).token := by
  rcases schema.contextAt_cases text cursor with
    field | same | ⟨name, same⟩ | ⟨name, same⟩ | same
  · exact field
  all_goals rw [same] at scope
  · cases scope
  · simp only [valueContext] at scope
    split at scope <;> cases scope
  · simp only [comparisonContext] at scope
    split at scope <;> cases scope
  · cases scope

/-- The text typed ends with a path: its base leads to the model of the context, and it begins where a
word can begin, or its dot is the last character. -/
structure FieldPlace (schema : Schema) (context : Context) (text head base : Text) : Prop where
  split : text = head ++ (base ++ context.typed)
  noDot : '.' ∉ context.typed
  leads : schema.Leads base context.model context.stack
  begins : (EndsOpen head ∧ ∀ token ∈ tokenize text, token.stop < text.length → token.stop ≤ head.length) ∨
    context.typed = [] ∧ base ≠ [] ∧ ∃ tokens, Reach text tokens head.length

/-- A path that resolves to a model, without a field, leads to it. -/
theorem leads_of_named (identifiers : schema.HasIdentifiers) {front : Text}
    (named : (named? (schema.resolve front).model).isSome = true)
    (noField : (named? (schema.resolve front).field).isNone = true) :
    schema.Leads (front ++ ['.']) (schema.resolve front).model (schema.resolve front).stack := by
  have hasName := identifiers.resolve_field_ne front
  cases resolved : schema.resolve front with
  | mk model field stack =>
    rw [resolved] at named noField hasName
    match model, field with
    | some (c :: rest), none => exact .path (List.cons_ne_nil c rest) resolved
    | some (c :: rest), some [] => exact absurd rfl hasName
    | some (c :: rest), some (d :: more) => cases noField
    | some [], _ => cases named
    | none, _ => cases named

theorem eq_nil_of_last_dot {front typed before : Text} (same : front ++ '.' :: typed = before ++ ['.'])
    (noDot : '.' ∉ typed) : typed = [] := by
  rcases List.eq_nil_or_concat' typed with empty | ⟨init, last, rfl⟩
  · exact empty
  · have ends := congrArg List.getLast? same
    rw [List.getLast?_concat, List.getLast?_append_of_ne_nil _ (List.cons_ne_nil _ _),
      ← List.cons_append, List.getLast?_concat] at ends
    cases ends
    exact absurd (List.mem_append_right init List.mem_cons_self) noDot

/-- From the start of any token on a text ends as before. -/
theorem drop_start_concat {front : Text} {c : Char} {token : Token}
    (inside : token ∈ tokenize (front ++ [c])) :
    (front ++ [c]).drop token.start = front.drop token.start ++ [c] := by
  obtain ⟨_, _, emits, bound⟩ := (reach_length (front ++ [c])).mem inside
  have order := start_lt_stop emits
  rw [List.length_append, List.length_singleton] at bound
  exact List.drop_append_of_le_length (by omega)

theorem exists_fieldPlace (identifiers : schema.HasIdentifiers)
    (scope : (schema.contextAt text cursor).scope = some .field) :
    ∃ head base, schema.FieldPlace (schema.contextAt text cursor) (text.take cursor) head base := by
  obtain ⟨starts, same⟩ := contextAt_of_field scope
  rw [same] at scope ⊢
  have places := Window.path_cases starts
  have suffix := atCursor_typed_suffix text cursor
  generalize (Window.atCursor text cursor).path text cursor = path at *
  have lone : ∀ last ∈ tokenize (text.take cursor), path = (text.take cursor).drop last.start →
      (Window.atCursor text cursor).typed = ['.'] → ∃ front, path = front ++ ['.'] := by
    intro last inside whole typed
    obtain ⟨front, ends⟩ := typed ▸ suffix
    rw [← ends] at inside whole
    exact ⟨_, whole.trans (drop_start_concat inside)⟩
  have before : ∀ token ∈ tokenize (text.take cursor), token.stop < (text.take cursor).length →
      token.stop ≤ Window.edge (Window.keptAt text cursor) := by
    intro token inside ends
    rw [List.length_take] at ends
    exact Window.stop_le_edge inside (by omega)
  rcases schema.fieldContext_cases path (Window.atCursor text cursor).token with
    ⟨noDot, context⟩ | ⟨front, typed, rfl, noDot, ⟨named, noField, context⟩ | context⟩
  · rw [context]
    rcases places with ⟨head, split, opens, edge⟩ | ⟨last, inside, whole, typed⟩
    · exact ⟨head, [], ⟨split, noDot, .root, Or.inl ⟨opens, fun token inside ends =>
        Nat.le_trans (before token inside ends) edge⟩⟩⟩
    · obtain ⟨front, rfl⟩ := lone last inside whole typed
      exact absurd (List.mem_append_right front List.mem_cons_self) noDot
  · have leads := leads_of_named identifiers named noField
    rw [context]
    rcases places with ⟨head, split, opens, edge⟩ | ⟨last, inside, whole, lastTyped⟩
    · exact ⟨head, front ++ ['.'], ⟨by rw [split]; simp, noDot, leads, Or.inl ⟨opens,
        fun token inside ends => Nat.le_trans (before token inside ends) edge⟩⟩⟩
    · obtain ⟨before, ends⟩ := lone last inside whole lastTyped
      obtain ⟨earlier, reach, _, bound⟩ := (reach_length (text.take cursor)).mem inside
      have length : ((text.take cursor).take last.start).length = last.start := by
        rw [List.length_take]
        exact Nat.min_eq_left reach.le_length
      refine ⟨(text.take cursor).take last.start, front ++ ['.'], ⟨?_, noDot, leads, Or.inr
        ⟨eq_nil_of_last_dot ends noDot, by simp, earlier, by rw [length]; exact reach⟩⟩⟩
      rw [List.append_assoc, List.singleton_append, whole, List.take_append_drop]
  · rw [context] at scope; cases scope

/-- With a name in the place of what is typed, the loop still arrives where the path begins. -/
theorem FieldPlace.reach {context : Context} {head base name : Text}
    (place : schema.FieldPlace context text head base) (identifiers : schema.HasIdentifiers)
    (identifier : IsIdentifier name) (rest : Text) (noQuote : '"' ∉ rest) :
    ∃ tokens, Reach (head ++ (base ++ name ++ rest)) tokens head.length := by
  have dotted := place.leads.dotted identifiers identifier
  rcases place.begins with ⟨opens, _⟩ | ⟨empty, some', tokens, reach⟩
  · refine reach_open opens ?_ ?_
    · obtain ⟨c, more, whole, start⟩ := dotted.head
      rw [whole]
      rintro d ⟨⟩
      exact (isNameStart_cases start).1
    · intro inside
      rcases List.mem_append.mp inside with inName | inRest
      · exact dotted.no_quote inName
      · exact noQuote inRest
  · obtain ⟨front, rfl, frontDotted⟩ := place.leads.exists_front identifiers some'
    have split := place.split
    rw [empty, List.append_nil, ← List.append_assoc] at split
    rw [split] at reach
    have next : ∀ c ∈ (name ++ rest).head?, isDigit c = false := by
      obtain ⟨c, more, rfl, start, _⟩ := identifier
      rintro d ⟨⟩
      exact isDigit_of_isNameStart start
    have longer := reach.behind_dot frontDotted next ?_
    · exact ⟨tokens, by simpa using longer⟩
    · intro inside
      rcases List.mem_append.mp inside with inName | inRest
      · exact (Dotted.single identifier).no_quote inName
      · exact noQuote inRest

theorem contextAt_of_name {last : Token} (atLast : (Window.atCursor text cursor).last = some last)
    (name : last.kind = .name) (typed : (Window.atCursor text cursor).typed = [])
    (spaced : (Window.atCursor text cursor).spaced = true) :
    schema.contextAt text cursor =
      schema.comparisonContext last.value ((Window.atCursor text cursor).bare schema) := by
  have starts : (Window.atCursor text cursor).startsField = false := by
    simp [Window.startsField, atLast, name, typed, TokenKind.isLogical]
  have compared : (Window.atCursor text cursor).comparedName? = none := by
    unfold Window.comparedName?
    rw [atLast]
    split
    · rename_i same
      cases same
      simp [name, TokenKind.isComparison]
    · rfl
  rw [contextAt]
  simp only [starts, compared, atLast, typed, spaced, name]
  simp [Window.bare, typed]

theorem contextAt_of_lone_dot {last : Token} (atLast : (Window.atCursor text cursor).last = some last)
    (typed : (Window.atCursor text cursor).typed = ['.'])
    (spaced : (Window.atCursor text cursor).spaced = false) :
    schema.contextAt text cursor =
      schema.fieldContext (text.slice last.start cursor) (Window.atCursor text cursor).token := by
  have starts : (Window.atCursor text cursor).startsField = true := by
    simp [Window.startsField, atLast, typed, spaced]
  have path : (Window.atCursor text cursor).path text cursor = text.slice last.start cursor := by
    simp [Window.path, atLast, typed]
  rw [contextAt_of_startsField schema starts (by simp [typed]), path]

/-- Behind a name and a blank an operator is typed. -/
theorem contextAt_behind_blank (schema : Schema) {head word : Text} {tokens : List Token}
    (reach : Reach (head ++ (word ++ [' '])) tokens head.length) (dotted : Dotted word)
    (free : wordKind word = .name) :
    ∃ token, schema.contextAt (head ++ (word ++ [' '])) (head ++ (word ++ [' '])).length =
      schema.comparisonContext word ⟨[], none, none, none, token, schema.rootStack⟩ := by
  obtain ⟨token, window⟩ := Window.atCursor_behind_word reach dotted rfl
  refine ⟨token, ?_⟩
  rw [contextAt_of_name (by rw [window]) free (by rw [window]; rfl) (by rw [window]; rfl), window]
  rfl

/-- Behind a name and a dot a field is typed. -/
theorem contextAt_behind_dot (schema : Schema) {head word : Text} {tokens : List Token}
    (reach : Reach (head ++ (word ++ ['.'])) tokens head.length) (dotted : Dotted word) :
    ∃ token, schema.contextAt (head ++ (word ++ ['.'])) (head ++ (word ++ ['.'])).length =
      schema.fieldContext (word ++ ['.']) token := by
  obtain ⟨token, window⟩ := Window.atCursor_behind_word reach dotted rfl
  refine ⟨token, ?_⟩
  rw [contextAt_of_lone_dot (by rw [window]) (by rw [window]; rfl) (by rw [window]; rfl), window,
    Text.slice_natCast (by simp), List.take_length, List.drop_left]

end Schema

end QueryCompletion
