import QueryCompletion.Token.Lexer

/-!
The grammar of string literals. A literal is a sequence of items between two quotes; its end is
found without looking at what follows.
-/

namespace QueryCompletion.Lexer

/-- One item of a string literal. -/
inductive StringItem : Text → Prop
  | plain {c : Char} : c ≠ '"' → c ≠ '\\' → isLineBreak c = false → StringItem [c]
  | escape {c : Char} : isEscapable c = true → StringItem ['\\', c]
  | code {a b c d : Char} : isHexDigit a = true → isHexDigit b = true → isHexDigit c = true →
      isHexDigit d = true → StringItem ['\\', 'u', a, b, c, d]

/-- Items one after another. -/
inductive StringBody : Text → Prop
  | nil : StringBody []
  | item {first rest : Text} : StringItem first → StringBody rest → StringBody (first ++ rest)

theorem stringTail?_quote (rest : Text) : stringTail? ('"' :: rest) = some 1 :=
  stringTail?.eq_2 rest

theorem stringTail?_other {c : Char} (rest : Text) (noQuote : c ≠ '"') (noEscape : c ≠ '\\') :
    stringTail? (c :: rest) = if isLineBreak c then none else (stringTail? rest).map (· + 1) := by
  rw [stringTail?.eq_5 c rest noQuote (fun _ _ _ _ _ same _ => noEscape same)
    (fun _ _ same _ => noEscape same)]
  simp only [noEscape, decide_false, Bool.false_or]

theorem stringTail?_item {first : Text} (item : StringItem first) (rest : Text) :
    stringTail? (first ++ rest) = (stringTail? rest).map (· + first.length) := by
  cases item with
  | plain noQuote noEscape noBreak =>
    rw [List.singleton_append, stringTail?_other rest noQuote noEscape, noBreak]
    rfl
  | @escape c escapable =>
    have notCode : c ≠ 'u' := by rintro rfl; cases escapable
    have step := stringTail?.eq_4 c rest fun _ _ _ _ _ same _ => notCode same
    rw [if_pos escapable] at step
    exact step
  | @code a b c d first second third fourth =>
    have step := stringTail?.eq_3 a b c d rest
    rw [first, second, third, fourth] at step
    exact step

/-- A literal ends at the quote behind its items. -/
theorem stringTail?_body {body : Text} (items : StringBody body) (rest : Text) :
    stringTail? (body ++ rest) = (stringTail? rest).map (· + body.length) := by
  induction items with
  | nil => simp
  | item item _ ih =>
    rw [List.append_assoc, stringTail?_item item, ih, Option.map_map, List.length_append]
    congr 1
    funext length
    simp only [Function.comp_apply]
    omega

theorem stringTail?_eq_some_iff {text : Text} {n : Nat} :
    stringTail? text = some n ↔
      ∃ body rest, StringBody body ∧ text = body ++ '"' :: rest ∧ n = body.length + 1 := by
  constructor
  · intro found
    fun_induction stringTail? text generalizing n with
    | case1 => cases found
    | case2 rest => cases found; exact ⟨[], rest, .nil, rfl, rfl⟩
    | case3 a b c d others hex ih =>
      obtain ⟨m, inner, rfl⟩ := Option.map_eq_some_iff.mp found
      obtain ⟨body, rest, items, rfl, rfl⟩ := ih inner
      simp only [Bool.and_eq_true] at hex
      exact ⟨_, rest, .item (.code hex.1.1.1 hex.1.1.2 hex.1.2 hex.2) items, by simp, by simp⟩
    | case4 => cases found
    | case5 c others _ escapable ih =>
      obtain ⟨m, inner, rfl⟩ := Option.map_eq_some_iff.mp found
      obtain ⟨body, rest, items, rfl, rfl⟩ := ih inner
      exact ⟨_, rest, .item (.escape escapable) items, by simp, by simp⟩
    | case6 => cases found
    | case7 => cases found
    | case8 c others noQuote _ _ plain ih =>
      obtain ⟨m, inner, rfl⟩ := Option.map_eq_some_iff.mp found
      obtain ⟨body, rest, items, rfl, rfl⟩ := ih inner
      simp only [Bool.or_eq_true, decide_eq_true_eq, not_or, Bool.not_eq_true] at plain
      exact ⟨_, rest, .item (.plain noQuote plain.1 plain.2) items, by simp, by simp⟩
  · rintro ⟨body, rest, items, rfl, rfl⟩
    rw [stringTail?_body items, stringTail?_quote]
    simp [Nat.add_comm]

theorem stringTail?_append {text : Text} {n : Nat} (found : stringTail? text = some n) (more : Text) :
    stringTail? (text ++ more) = some n := by
  obtain ⟨body, rest, items, rfl, rfl⟩ := stringTail?_eq_some_iff.mp found
  exact stringTail?_eq_some_iff.mpr ⟨body, rest ++ more, items, by simp, rfl⟩

theorem stringTail?_take {text : Text} {m n : Nat} (found : stringTail? text = some m)
    (fits : m ≤ n) : stringTail? (text.take n) = some m := by
  obtain ⟨body, rest, items, rfl, rfl⟩ := stringTail?_eq_some_iff.mp found
  refine stringTail?_eq_some_iff.mpr ⟨body, rest.take (n - body.length - 1), items, ?_, rfl⟩
  rw [List.take_append, List.take_of_length_le (by omega),
    show n - body.length = n - body.length - 1 + 1 by omega, List.take_succ_cons]
  rfl

theorem stringLength_quote (rest : Text) :
    stringLength ('"' :: rest) = ((stringTail? rest).map (· + 1)).getD 0 := rfl

theorem stringLength_other {c : Char} (rest : Text) (other : c ≠ '"') :
    stringLength (c :: rest) = 0 := by
  unfold stringLength
  split
  · rename_i same
    exact absurd (List.cons.inj same).1 other
  · rfl

theorem stringLength_take {text : Text} {n : Nat} (fits : stringLength text ≤ n) :
    stringLength (text.take n) = stringLength text := by
  cases text with
  | nil => simp
  | cons c rest =>
    cases n with
    | zero => exact (Nat.le_zero.mp fits).symm
    | succ n =>
      rw [List.take_succ_cons]
      by_cases quote : c = '"'
      · subst quote
        rw [stringLength_quote] at fits
        rw [stringLength_quote, stringLength_quote]
        cases full : stringTail? rest with
        | none =>
          cases cut : stringTail? (rest.take n) with
          | none => rfl
          | some m =>
            have extended := stringTail?_append cut (rest.drop n)
            rw [List.take_append_drop, full] at extended
            cases extended
        | some m =>
          rw [full] at fits
          rw [stringTail?_take full (by simpa using fits)]
      · rw [stringLength_other _ quote, stringLength_other _ quote]

/-- What the rule for strings accepts is a literal. -/
theorem take_stringLength {text : Text} (found : 0 < stringLength text) :
    ∃ body, StringBody body ∧ text.take (stringLength text) = '"' :: body ++ ['"'] ∧
      stringLength text = body.length + 2 := by
  cases text with
  | nil => simp [stringLength] at found
  | cons c rest =>
    by_cases quote : c = '"'
    · subst quote
      rw [stringLength_quote] at *
      cases tail : stringTail? rest with
      | none => simp [tail] at found
      | some m =>
        obtain ⟨body, others, items, rfl, rfl⟩ := stringTail?_eq_some_iff.mp tail
        refine ⟨body, items, ?_, by simp⟩
        simp [List.take_append, List.take_of_length_le (Nat.le_succ body.length)]
    · rw [stringLength_other _ quote] at found
      omega

/-- Characters that stand for themselves in a literal. -/
def isPlain (c : Char) : Bool := c != '"' && c != '\\' && !isLineBreak c

/-- Characters of which no escape is made. -/
def isUnescaped (c : Char) : Bool := c != '\\' && !isEscapable c && c != 'u' && !isHexDigit c

theorem StringItem.eq_singleton {first : Text} {c : Char} (item : StringItem first) (inside : c ∈ first)
    (alone : isUnescaped c = true) : first = [c] := by
  simp only [isUnescaped, Bool.and_eq_true, bne_iff_ne, Bool.not_eq_true'] at alone
  obtain ⟨⟨⟨noEscape, noMark⟩, noCode⟩, noHex⟩ := alone
  cases item with
  | plain _ _ _ => rw [List.mem_singleton.mp inside]
  | escape escapable =>
    rcases List.mem_cons.mp inside with rfl | later
    · exact absurd rfl noEscape
    · rw [← List.mem_singleton.mp later, noMark] at escapable
      cases escapable
  | code first second third fourth =>
    simp only [List.mem_cons, List.not_mem_nil, or_false] at inside
    rcases inside with rfl | rfl | rfl | rfl | rfl | rfl
    · exact absurd rfl noEscape
    · exact absurd rfl noCode
    · rw [noHex] at first; cases first
    · rw [noHex] at second; cases second
    · rw [noHex] at third; cases third
    · rw [noHex] at fourth; cases fourth

namespace StringBody

theorem append {front rest : Text} (first : StringBody front) (second : StringBody rest) :
    StringBody (front ++ rest) := by
  induction first with
  | nil => exact second
  | item item _ ih =>
    rw [List.append_assoc]
    exact .item item ih

theorem plain_append {run rest : Text} (plain : ∀ c ∈ run, isPlain c = true)
    (items : StringBody rest) : StringBody (run ++ rest) := by
  induction run with
  | nil => exact items
  | cons c run ih =>
    have first := plain c List.mem_cons_self
    simp only [isPlain, Bool.and_eq_true, bne_iff_ne, Bool.not_eq_true'] at first
    rw [List.cons_append, ← List.singleton_append]
    exact .item (.plain first.1.1 first.1.2 first.2)
      (ih fun d inside => plain d (List.mem_cons_of_mem _ inside))

theorem of_cons {c : Char} {rest : Text} (items : StringBody (c :: rest)) (plain : isPlain c = true) :
    StringBody rest := by
  generalize whole : c :: rest = body at items
  cases items with
  | nil => cases whole
  | item item inner =>
    cases item with
    | plain _ _ _ => cases whole; exact inner
    | escape _ => cases whole; cases plain
    | code _ _ _ _ => cases whole; cases plain

theorem of_append {run rest : Text} (items : StringBody (run ++ rest))
    (plain : ∀ c ∈ run, isPlain c = true) : StringBody rest := by
  induction run with
  | nil => exact items
  | cons c run ih =>
    exact ih (items.of_cons (plain c List.mem_cons_self))
      fun d inside => plain d (List.mem_cons_of_mem _ inside)

/-- A character of which no escape is made is an item by itself, so the items can be split there. -/
theorem split {front rest : Text} {c : Char} (items : StringBody (front ++ c :: rest))
    (alone : isUnescaped c = true) : StringBody (front ++ [c]) ∧ StringBody rest := by
  generalize whole : front ++ c :: rest = body at items
  induction items generalizing front with
  | nil => cases front <;> cases whole
  | @item first others item inner ih =>
    rcases List.append_eq_append_iff.mp whole with ⟨more, same, tail⟩ | ⟨more, rfl, tail⟩
    · cases more with
      | nil =>
        obtain ⟨before, behind⟩ := @ih [] tail
        rw [List.append_nil] at same
        exact ⟨same ▸ .item item before, behind⟩
      | cons d more =>
        obtain ⟨rfl, rfl⟩ := List.cons.inj tail
        have single := item.eq_singleton (by rw [same]; simp) alone
        have lengths := congrArg List.length (same.symm.trans single)
        simp only [List.length_append, List.length_cons, List.length_nil] at lengths
        have before : front = [] := List.eq_nil_of_length_eq_zero (by omega)
        have behind : more = [] := List.eq_nil_of_length_eq_zero (by omega)
        rw [before, behind]
        refine ⟨?_, inner⟩
        have alone' := StringBody.item item .nil
        rwa [List.append_nil, single] at alone'
    · obtain ⟨before, behind⟩ := ih tail.symm
      refine ⟨?_, behind⟩
      rw [List.append_assoc]
      exact .item item before

end StringBody

/-- A literal that runs over plain characters behind an unescaped one runs over any other plain
characters in their place. -/
theorem stringTail?_exchange {front run other rest : Text} {c : Char} {n : Nat}
    (alone : isUnescaped c = true) (plain : ∀ d ∈ run, isPlain d = true)
    (plain' : ∀ d ∈ other, isPlain d = true)
    (found : stringTail? (front ++ c :: (run ++ rest)) = some n) (beyond : front.length + run.length + 1 < n)
    (more : Text) :
    ∃ m, stringTail? (front ++ c :: (other ++ (rest ++ more))) = some m ∧ front.length + 1 < m := by
  obtain ⟨body, tail, items, whole, rfl⟩ := stringTail?_eq_some_iff.mp found
  have split : ∃ inner, body = front ++ c :: (run ++ inner) ∧ rest = inner ++ '"' :: tail := by
    rw [← List.cons_append, ← List.append_assoc] at whole
    rcases List.append_eq_append_iff.mp whole with ⟨inner, rfl, behind⟩ | ⟨inner, same, behind⟩
    · exact ⟨inner, by simp, behind⟩
    · have length := congrArg List.length same
      simp only [List.length_append, List.length_cons] at length
      have empty : inner = [] := List.eq_nil_of_length_eq_zero (by omega)
      rw [empty] at same behind
      exact ⟨[], by simpa using same.symm, by simpa using behind.symm⟩
  obtain ⟨inner, rfl, rfl⟩ := split
  obtain ⟨before, behind⟩ := items.split alone
  have items' := before.append ((behind.of_append plain).plain_append plain')
  refine ⟨_, stringTail?_eq_some_iff.mpr ⟨_, tail ++ more, items', by simp, rfl⟩, ?_⟩
  simp only [List.length_append, List.length_cons, List.length_nil]
  omega

end QueryCompletion.Lexer
