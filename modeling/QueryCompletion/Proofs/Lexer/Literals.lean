import QueryCompletion.Proofs.Lexer.Escapes

/-!
String literals where the tokenizer meets a quote. It takes a literal exactly if the grammar has one there,
and then the only one; from a quote that no literal begins with it goes on with the next character.
-/

namespace QueryCompletion.Lexer

/-- A literal that begins with the quote at an offset ends before another one: behind the quote stand items
and a closing quote. -/
structure EndsLiteral (text : Text) (start stop : Nat) : Prop where
  long : start + 1 < stop
  closes : text[stop - 1]? = some '"'
  items : StringBody (text.slice (start + 1 : Nat) (stop - 1 : Nat))

theorem stringBody_iff {body : Text} :
    StringBody body ↔ ∃ items : List Text, (∀ item ∈ items, StringItem item) ∧ body = items.flatten := by
  constructor
  · intro items
    induction items with
    | nil => exact ⟨[], nofun, rfl⟩
    | item item _ ih =>
      obtain ⟨items, each, rfl⟩ := ih
      exact ⟨_ :: items, List.forall_mem_cons.mpr ⟨item, each⟩, rfl⟩
  · rintro ⟨items, each, rfl⟩
    induction items with
    | nil => exact .nil
    | cons first others ih =>
      obtain ⟨item, later⟩ := List.forall_mem_cons.mp each
      exact .item item (ih later)

variable {text : Text} {position stop : Nat}

/-- What stands behind the opening quote of a literal. -/
theorem EndsLiteral.split (ends : EndsLiteral text position stop) :
    text.drop (position + 1) =
      text.slice (position + 1 : Nat) (stop - 1 : Nat) ++ '"' :: text.drop stop := by
  have long := ends.long
  obtain ⟨within, quote⟩ := List.getElem?_eq_some_iff.mp ends.closes
  have closing : text.drop (stop - 1) = '"' :: text.drop stop := by
    rw [List.drop_eq_getElem_cons within, quote, Nat.sub_add_cancel (by omega)]
  have behind : (text.drop (position + 1)).drop (stop - 1 - (position + 1)) = text.drop (stop - 1) := by
    rw [List.drop_drop]
    congr 1
    omega
  rw [Text.slice_natCast (by omega), List.drop_take, ← closing, ← behind, List.take_append_drop]

/-- The grammar has a literal where the reader finds the rest of one. -/
theorem endsLiteral_iff :
    EndsLiteral text position stop ↔
      ∃ length, stringTail? (text.drop (position + 1)) = some length ∧ stop = position + 1 + length := by
  constructor
  · intro ends
    have long := ends.long
    have within := (List.getElem?_eq_some_iff.mp ends.closes).1
    refine ⟨_, stringTail?_eq_some_iff.mpr ⟨_, _, ends.items, ends.split, rfl⟩, ?_⟩
    rw [Text.slice_natCast (by omega), List.length_drop, List.length_take]
    omega
  · rintro ⟨length, found, rfl⟩
    obtain ⟨body, rest, items, split, rfl⟩ := stringTail?_eq_some_iff.mp found
    have inside := congrArg List.length split
    simp only [List.length_drop, List.length_append, List.length_cons] at inside
    have last : position + 1 + (body.length + 1) - 1 = position + 1 + body.length := by omega
    refine ⟨by omega, ?_, ?_⟩
    · rw [last, ← List.getElem?_drop, split]
      simp
    · rw [last, Text.slice_natCast (by omega), List.drop_take, Nat.add_sub_cancel_left, split, List.take_left]
      exact items

theorem EndsLiteral.unique {other : Nat} (ends : EndsLiteral text position stop)
    (again : EndsLiteral text position other) : other = stop := by
  obtain ⟨length, found, rfl⟩ := endsLiteral_iff.mp ends
  obtain ⟨length', found', rfl⟩ := endsLiteral_iff.mp again
  rw [found, Option.some.injEq] at found'
  rw [found']

/-- Nothing matches at a quote behind which no literal is closed. -/
theorem longest_unclosed {rest : Text} (unclosed : stringTail? rest = none) :
    longest ('"' :: rest) = ⟨none, 0⟩ := by
  have table : ∀ entry ∈ symbols, entry.1.head? ≠ some '"' := by decide
  rcases longest_cases ('"' :: rest) with nothing | ⟨rule, shape, _, positive⟩
  · exact nothing
  exfalso
  rcases rule_of_accepts shape positive rfl rfl rfl (by decide) with ⟨entry, inside, starts, _⟩ | ⟨_, rfl⟩
  · exact table entry inside starts
  · dsimp only at positive
    rw [stringLength_quote, unclosed] at positive
    exact Nat.lt_irrefl 0 positive

/-- At a quote with which a literal begins the whole literal is taken. -/
theorem EndsLiteral.emitted_eq (ends : EndsLiteral text position stop) (quote : text[position]? = some '"') :
    emitted text position =
      some ⟨.string, text.slice (position + 1 : Nat) (stop - 1 : Nat), position, stop⟩ := by
  obtain ⟨length, found, reaches⟩ := endsLiteral_iff.mp ends
  obtain ⟨body, rest, items, split, rfl⟩ := stringTail?_eq_some_iff.mp found
  have whole := ends.split
  have lengths : (text.slice (position + 1 : Nat) (stop - 1 : Nat)).length = body.length := by
    have within := (List.getElem?_eq_some_iff.mp ends.closes).1
    rw [Text.slice_natCast (by omega), List.length_drop, List.length_take]
    omega
  have same := (List.append_inj (whole.symm.trans split) lengths).1
  have matched := longest_literal items rest
  rw [same, reaches, emitted, drop_eq_cons quote, split, matched, tokenAt?, Option.map_some, tokenValue,
    if_pos rfl, List.take_succ_cons]
  simp [List.take_append, List.take_of_length_le (Nat.le_succ body.length), Nat.add_comm, Nat.add_left_comm]

/-- A quote with which no literal begins makes no token, and the loop goes on right behind it. -/
theorem Reach.behind_unclosed {tokens : List Token} (reach : Reach text tokens position)
    (quote : text[position]? = some '"') (open' : ∀ stop, ¬ EndsLiteral text position stop) :
    emitted text position = none ∧ Reach text tokens (position + 1) := by
  have unclosed : stringTail? (text.drop (position + 1)) = none := by
    by_contra found
    obtain ⟨length, found⟩ := Option.ne_none_iff_exists'.mp found
    exact open' _ (endsLiteral_iff.mpr ⟨length, found, rfl⟩)
  have nothing := longest_unclosed unclosed
  have silent : emitted text position = none := by
    rw [emitted, drop_eq_cons quote, nothing]
    rfl
  have passed : advance (text.drop position) = 1 := by
    rw [advance, drop_eq_cons quote, nothing]
    rfl
  have next := reach.next (List.getElem?_eq_some_iff.mp quote).1
  rw [silent, passed, Option.toList_none, List.append_nil] at next
  exact ⟨silent, next⟩

/-- Wherever the loop stands before a quote, a string literal is taken exactly if the grammar has one
there; it ends at the only place where it can, and its value is what stands between the quotes. Without one
the quote alone is passed over. So items between quotes are one literal, whatever items they are. -/
theorem literals_are_recognized (text : Text) :
    (∀ tokens position, Reach text tokens position → text[position]? = some '"' →
      ((∃ token ∈ tokenize text, token.kind = .string ∧ token.start = position) ↔
          ∃ stop, EndsLiteral text position stop) ∧
        (∀ stop, EndsLiteral text position stop →
          (∀ other, EndsLiteral text position other → other = stop) ∧
            tokenize text = tokens ++
              ⟨.string, text.slice (position + 1 : Nat) (stop - 1 : Nat), position, stop⟩ ::
                scan stop (text.drop stop)) ∧
        ((∀ stop, ¬ EndsLiteral text position stop) →
          tokenize text = tokens ++ scan (position + 1) (text.drop (position + 1)) ∧
            Reach text tokens (position + 1))) ∧
      ∀ items : List Text, (∀ item ∈ items, StringItem item) →
        tokenize ('"' :: (items.flatten ++ ['"'])) =
          [⟨.string, items.flatten, 0, items.flatten.length + 2⟩] := by
  refine ⟨fun tokens position reach quote => ?_, fun items each =>
    tokenize_literal (stringBody_iff.mpr ⟨items, each, rfl⟩)⟩
  have closed : ∀ stop, EndsLiteral text position stop → tokenize text = tokens ++
      ⟨.string, text.slice (position + 1 : Nat) (stop - 1 : Nat), position, stop⟩ ::
        scan stop (text.drop stop) :=
    fun stop ends => reach.tokenize_of_emitted (ends.emitted_eq quote)
  refine ⟨⟨?_, ?_⟩, fun stop ends => ⟨fun other again => ends.unique again, closed stop ends⟩,
    fun open' => ?_⟩
  · rintro ⟨token, inside, _, rfl⟩
    obtain ⟨_, _, emits, _⟩ := (reach_length text).mem inside
    by_contra none'
    rw [(reach.behind_unclosed quote fun stop ends => none' ⟨stop, ends⟩).1] at emits
    cases emits
  · rintro ⟨stop, ends⟩
    refine ⟨⟨.string, text.slice (position + 1 : Nat) (stop - 1 : Nat), position, stop⟩, ?_, rfl, rfl⟩
    rw [closed stop ends]
    exact List.mem_append_right _ List.mem_cons_self
  · have next := (reach.behind_unclosed quote open').2
    exact ⟨next.tokenize_eq, next⟩

/-- Behind a truncated code escape the quote at the start is passed over, and the one that was to close the
literal begins another. -/
theorem literals_are_recognized_behind_truncated_escape :
    let text := "\"\\u00\" \\\"\"".toList
    (∀ stop, ¬ EndsLiteral text 0 stop) ∧ tokenize text = scan 1 (text.drop 1) ∧
      EndsLiteral text 5 10 ∧ (∀ other, EndsLiteral text 5 other → other = 10) ∧
      (∃ token ∈ tokenize text, token.kind = .string ∧ token.start = 5) ∧
      tokenize "\"\\u00e9\\\"\"".toList = [⟨.string, "\\u00e9\\\"".toList, 0, 10⟩] := by
  intro text
  obtain ⟨taken, items⟩ := literals_are_recognized text
  have open' : ∀ stop, ¬ EndsLiteral text 0 stop := by
    intro stop ends
    obtain ⟨length, found, _⟩ := endsLiteral_iff.mp ends
    have none' : stringTail? (text.drop 1) = none := by decide +kernel
    rw [none'] at found
    cases found
  have literal : ⟨.string, " \\\"".toList, 5, 10⟩ ∈ tokenize text := by decide +kernel
  have ends : EndsLiteral text 5 10 := endsLiteral_iff.mpr ⟨4, by decide +kernel, rfl⟩
  obtain ⟨before, reach, _⟩ := (reach_length text).mem literal
  obtain ⟨recognized, exact', _⟩ := taken before 5 reach rfl
  refine ⟨open', ((taken [] 0 .start rfl).2.2 open').1, ends, (exact' 10 ends).1, recognized.mpr ⟨10, ends⟩, ?_⟩
  refine items ["\\u00e9".toList, "\\\"".toList] ?_
  intro item inside
  rcases List.mem_pair.mp inside with rfl | rfl
  · exact .code rfl rfl rfl rfl
  · exact .escape rfl

end QueryCompletion.Lexer
