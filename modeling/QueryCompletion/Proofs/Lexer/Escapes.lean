import Mathlib.Data.Option.NAry
import QueryCompletion.Json.Reader
import QueryCompletion.Proofs.Lexer.Coverage

/-!
What string literals stand for. Escapes are longer than what they stand for, so a text between quotes is a
literal for itself exactly if nothing in it would have to be escaped.
-/

namespace QueryCompletion.Lexer

/-- The code points that the characters between the quotes of a literal stand for. -/
def codePoints? : Text → Option (List Nat)
  | [] => some []
  | '\\' :: 'u' :: a :: b :: c :: d :: rest => Option.map₂ List.cons (Json.codeUnit? a b c d) (codePoints? rest)
  | '\\' :: c :: rest => Option.map₂ List.cons (Json.escaped? c) (codePoints? rest)
  | c :: rest => if isPlain c then (codePoints? rest).map (c.toNat :: ·) else none

theorem hexValue?_isSome (c : Char) : (Json.hexValue? c).isSome = isHexDigit c := by
  unfold Json.hexValue? isHexDigit isDigit
  cases '0' ≤ c && c ≤ '9' <;> cases 'a' ≤ c && c ≤ 'f' <;> cases 'A' ≤ c && c ≤ 'F' <;> rfl

theorem codeUnit?_isSome (a b c d : Char) :
    (Json.codeUnit? a b c d).isSome = (isHexDigit a && isHexDigit b && isHexDigit c && isHexDigit d) := by
  rw [← hexValue?_isSome, ← hexValue?_isSome, ← hexValue?_isSome, ← hexValue?_isSome, Json.codeUnit?]
  cases Json.hexValue? a <;> cases Json.hexValue? b <;> cases Json.hexValue? c <;> cases Json.hexValue? d <;> rfl

theorem escaped?_isSome (c : Char) : (Json.escaped? c).isSome = isEscapable c := by
  unfold Json.escaped?
  split
  case h_9 noQuote noEscape noSlash noB noF noN noR noT =>
    simp only [isEscapable, beq_false_of_ne noQuote, beq_false_of_ne noEscape, beq_false_of_ne noSlash,
      beq_false_of_ne noB, beq_false_of_ne noF, beq_false_of_ne noN, beq_false_of_ne noR, beq_false_of_ne noT]
    rfl
  all_goals rfl

theorem codePoints?_plain {c : Char} (rest : Text) (plain : isPlain c = true) :
    codePoints? (c :: rest) = (codePoints? rest).map (c.toNat :: ·) := by
  have noEscape : c ≠ '\\' := by rintro rfl; cases plain
  rw [codePoints?.eq_4 c rest (fun _ _ _ _ _ same _ => noEscape same) (fun _ _ same _ => noEscape same),
    if_pos plain]

/-- Every item stands for one code point. -/
theorem codePoints?_item {first : Text} (item : StringItem first) :
    ∃ code, ∀ rest, codePoints? (first ++ rest) = (codePoints? rest).map (code :: ·) := by
  cases item with
  | @plain c noQuote noEscape noBreak =>
    exact ⟨c.toNat, fun rest => codePoints?_plain rest (by simp [isPlain, noQuote, noEscape, noBreak])⟩
  | @escape c escapable =>
    have notCode : c ≠ 'u' := by rintro rfl; cases escapable
    rw [← escaped?_isSome] at escapable
    obtain ⟨code, found⟩ := Option.isSome_iff_exists.mp escapable
    refine ⟨code, fun rest => ?_⟩
    have step := codePoints?.eq_3 c rest fun _ _ _ _ _ same _ => notCode same
    rw [found, Option.map₂_coe_left] at step
    exact step
  | @code a b c d first second third fourth =>
    have hex : (Json.codeUnit? a b c d).isSome = true := by
      rw [codeUnit?_isSome, first, second, third, fourth]
      rfl
    obtain ⟨code, found⟩ := Option.isSome_iff_exists.mp hex
    refine ⟨code, fun rest => ?_⟩
    have step := codePoints?.eq_2 a b c d rest
    rw [found, Option.map₂_coe_left] at step
    exact step

/-- What stands for something is what can stand in a literal. -/
theorem codePoints?_isSome_iff {body : Text} : (codePoints? body).isSome = true ↔ StringBody body := by
  constructor
  · intro known
    fun_induction codePoints? body with
    | case1 => exact .nil
    | case2 a b c d rest ih =>
      obtain ⟨codes, found⟩ := Option.isSome_iff_exists.mp known
      obtain ⟨unit, units, hex, inner, _⟩ := Option.map₂_eq_some_iff.mp found
      have digits := codeUnit?_isSome a b c d
      rw [hex] at digits
      simp only [Option.isSome_some, Bool.true_eq, Bool.and_eq_true] at digits
      exact .item (.code digits.1.1.1 digits.1.1.2 digits.1.2 digits.2) (ih (by rw [inner]; rfl))
    | case3 c rest _ ih =>
      obtain ⟨codes, found⟩ := Option.isSome_iff_exists.mp known
      obtain ⟨unit, units, escapes, inner, _⟩ := Option.map₂_eq_some_iff.mp found
      exact .item (.escape (by rw [← escaped?_isSome, escapes]; rfl)) (ih (by rw [inner]; rfl))
    | case4 c rest _ _ plain ih =>
      exact @StringBody.plain_append [c] rest (by simpa using plain) (ih (by simpa using known))
    | case5 => cases known
  · intro items
    induction items with
    | nil => rfl
    | item item _ ih =>
      obtain ⟨code, step⟩ := codePoints?_item item
      rw [step, Option.isSome_map]
      exact ih

/-- An escape is longer than what it stands for. -/
theorem codePoints?_length {body : Text} {codes : List Nat} (found : codePoints? body = some codes) :
    codes.length ≤ body.length ∧ (codes.length = body.length → ∀ c ∈ body, isPlain c = true) := by
  have items : StringBody body := codePoints?_isSome_iff.mp (by rw [found]; rfl)
  induction items generalizing codes with
  | nil => cases found; exact ⟨Nat.le_refl _, fun _ _ inside => by cases inside⟩
  | item item _ ih =>
    obtain ⟨code, step⟩ := codePoints?_item item
    rw [step] at found
    obtain ⟨codes, inner, rfl⟩ := Option.map_eq_some_iff.mp found
    obtain ⟨bound, plain⟩ := ih inner
    rw [List.length_append, List.length_cons]
    cases item with
    | plain noQuote noEscape noBreak =>
      rw [List.length_singleton]
      refine ⟨by omega, fun equal => List.forall_mem_cons.mpr ⟨?_, plain (by omega)⟩⟩
      simp [isPlain, noQuote, noEscape, noBreak]
    | escape _ =>
      simp only [List.length_cons, List.length_nil]
      exact ⟨by omega, fun equal => absurd equal (by omega)⟩
    | code _ _ _ _ =>
      simp only [List.length_cons, List.length_nil]
      exact ⟨by omega, fun equal => absurd equal (by omega)⟩

/-- A text stands for itself exactly if all its characters are plain. -/
theorem codePoints?_eq_self_iff {body : Text} :
    codePoints? body = some (body.map Char.toNat) ↔ ∀ c ∈ body, isPlain c = true := by
  refine ⟨fun found => (codePoints?_length found).2 (List.length_map _), fun plain => ?_⟩
  induction body with
  | nil => rfl
  | cons c rest ih =>
    obtain ⟨first, others⟩ := List.forall_mem_cons.mp plain
    rw [codePoints?_plain rest first, ih others]
    rfl

/-- The last token of a text is a string literal that ends with the text and stands for a value. -/
def EndsInLiteral (text value : Text) : Prop :=
  ∃ token, (tokenize text).getLast? = some token ∧ token.kind = .string ∧ token.stop = text.length ∧
    codePoints? token.value = some (value.map Char.toNat)

theorem tokenize_literal {body : Text} (items : StringBody body) :
    tokenize ('"' :: (body ++ ['"'])) = [⟨.string, body, 0, body.length + 2⟩] := by
  have length : ('"' :: (body ++ ['"'])).length = body.length + 2 := by simp
  have reach := @Reach.step [] [] [] (some .string) ('"' :: (body ++ ['"'])) .start
    (by rw [List.append_nil, length]; exact longest_literal items []) (List.cons_ne_nil _ _)
  have tokens := reach.tokenize_eq
  simp only [List.nil_append, List.append_nil, List.length_nil, Nat.zero_add, length] at tokens
  rw [tokens, List.drop_eq_nil_of_le (Nat.le_of_eq length), scan_nil, Option.map_some, Option.toList_some,
    tokenValue, if_pos rfl, List.drop_one, List.tail_cons, List.dropLast_concat]
  rfl

/-- A text between quotes is a literal for itself exactly if all its characters are plain. -/
theorem endsInLiteral_self_iff {value : Text} :
    EndsInLiteral ('"' :: (value ++ ['"'])) value ↔ ∀ c ∈ value, isPlain c = true := by
  rw [← codePoints?_eq_self_iff]
  constructor
  · rintro ⟨token, last, string, stop, denotes⟩
    obtain ⟨long, _, _, between⟩ := (spans_of_mem (List.mem_of_getLast? last)).quoted string
    have bound := (codePoints?_length denotes).1
    simp only [List.length_cons, List.length_append, List.length_nil] at stop
    rw [Text.slice_natCast (by simp only [List.length_cons, List.length_append]; omega)] at between
    have length := congrArg List.length between
    simp only [List.length_drop, List.length_take, List.length_cons, List.length_append, List.length_nil] at length
    rw [List.length_map] at bound
    -- A literal is no shorter than what it stands for, so it begins at the first quote.
    rw [show token.start = 0 by omega, stop] at between
    have same : token.value = value := by
      rw [between]
      simp
    rwa [same] at denotes
  · intro denotes
    have items : StringBody value := codePoints?_isSome_iff.mp (by rw [denotes]; rfl)
    exact ⟨_, by rw [tokenize_literal items]; rfl, rfl, by simp, denotes⟩

end QueryCompletion.Lexer
