import QueryCompletion.Proofs.Lexer.Boundary
import QueryCompletion.Proofs.Text.Trim

/-!
White space around a text. It makes no tokens, whether the rules know it as blank or not, and it does
not change those of the text.
-/

namespace QueryCompletion.Lexer

theorem isNamePart_bounds {c : Char} (part : isNamePart c = true) : 0x30 ≤ c.toNat ∧ c.toNat ≤ 0x7a := by
  have order : ∀ a b : Char, a ≤ b ↔ a.toNat ≤ b.toNat :=
    fun a b => Char.le_def.trans UInt32.le_iff_toNat_le
  simp only [isNamePart, isNameStart, isDigit, Bool.or_eq_true, Bool.and_eq_true, decide_eq_true_eq,
    beq_iff_eq, order, Char.reduceToNat] at part
  rcases part with ((rfl | capital) | small) | digit
  · decide
  all_goals omega

/-- White space is outside the range of the characters of names. -/
theorem isNamePart_of_isSpace {c : Char} (space : Text.isSpace c = true) : isNamePart c = false := by
  by_contra part
  have bounds := isNamePart_bounds (by simpa using part)
  simp only [Text.isSpace, Text.isPatternSpace, Bool.or_eq_true, Bool.and_eq_true, decide_eq_true_eq,
    beq_iff_eq] at space
  omega

theorem isSpace_of_isBlank {c : Char} (blank : isBlank c = true) : Text.isSpace c = true := by
  have all : blanks.all Text.isSpace = true := by decide
  exact List.all_eq_true.mp all c (mem_blanks blank)

theorem opensToken_of_isSpace {c : Char} (space : Text.isSpace c = true) : opensToken c = false := by
  have noPart := isNamePart_of_isSpace space
  simp only [isNamePart, Bool.or_eq_false_iff] at noPart
  have heads : ∀ entry ∈ symbols, entry.1.head?.all (!Text.isSpace ·) = true := by decide
  have noSign : c ≠ '-' := by rintro rfl; cases space
  have noQuote : c ≠ '"' := by rintro rfl; cases space
  simp only [opensToken, noPart.2, Bool.false_or, Bool.or_eq_false_iff, beq_eq_false_iff_ne,
    List.any_eq_false]
  refine ⟨⟨noSign, noQuote⟩, fun entry inside first => ?_⟩
  have clash := heads entry inside
  simp [beq_iff_eq.mp first, space] at clash

theorem not_isSolid_of_isSpace {c : Char} (space : Text.isSpace c = true) : isSolid c = false := by
  have noPart := isNamePart_of_isSpace space
  by_contra solid
  simp only [isSolid, noPart, Bool.false_or, Bool.or_eq_true, beq_iff_eq, Bool.not_eq_false] at solid
  rcases solid with ((((((rfl | rfl) | rfl) | rfl) | rfl) | rfl) | rfl) | rfl <;> cases space

theorem isPlain_of_isSpace {c : Char} (space : Text.isSpace c = true) (noBreak : isLineBreak c = false) :
    isPlain c = true := by
  have noQuote : c ≠ '"' := by rintro rfl; cases space
  have noEscape : c ≠ '\\' := by rintro rfl; cases space
  simp [isPlain, noQuote, noEscape, noBreak]

theorem scan_space {c : Char} (position : Nat) (rest : Text) (space : Text.isSpace c = true) :
    scan position (c :: rest) = scan (position + 1) rest := by
  by_cases blank : isBlank c = true
  · exact scan_blank position rest blank
  · have noStart : isNameStart c = false := by
      have noPart := isNamePart_of_isSpace space
      simp only [isNamePart, Bool.or_eq_false_iff] at noPart
      exact noPart.1
    have nothing := longest_of_other rest (by simpa using blank) noStart (opensToken_of_isSpace space)
    rw [scan_eq position (List.cons_ne_nil c rest), advance, nothing]
    rfl

theorem scan_spaces {spaces : Text} (position : Nat) (rest : Text)
    (all : ∀ c ∈ spaces, Text.isSpace c = true) :
    scan position (spaces ++ rest) = scan (position + spaces.length) rest :=
  scan_passed position rest fun c inside position rest => scan_space position rest (all c inside)

/-- White space behind a text leaves its tokens as they are. -/
theorem tokenize_append_spaces {text spaces : Text} (all : ∀ c ∈ spaces, Text.isSpace c = true)
    (ends : ∀ c ∈ text.getLast?, Text.isSpace c = false) :
    tokenize (text ++ spaces) = tokenize text := by
  obtain ⟨tokens, position, reach, rfl | ⟨left, right⟩⟩ :=
    exists_reach (show text.length ≤ (text ++ spaces).length by simp)
  · have nothing := scan_spaces text.length [] all
    rw [List.append_nil, scan_nil] at nothing
    have same := reach.tokenize_take
    rw [List.take_left] at same
    rw [reach.tokenize_eq, List.drop_left, nothing, List.append_nil, same]
  · exfalso
    obtain ⟨x, y, last, first, ⟨blank, _⟩ | literal | ⟨_, solid⟩⟩ := exists_over left right
    · have space := isSpace_of_isBlank blank
      rw [ends x last] at space
      cases space
    · cases all _ (literal.quote_mem right)
    · rw [not_isSolid_of_isSpace (all y (List.mem_of_mem_head? first))] at solid
      cases solid

/-- Trimming a text leaves what its tokens say. -/
theorem tokenize_trim_content (text : Text) :
    (tokenize (Text.trim text)).map Token.content = (tokenize text).map Token.content := by
  obtain ⟨left, right, split, spaces, spaces', _⟩ := Text.trim_decompose text
  calc (tokenize (Text.trim text)).map Token.content
      = (tokenize (Text.trim text ++ right)).map Token.content := by
        rw [tokenize_append_spaces spaces' (Text.getLast?_trim text)]
    _ = (scan (0 + left.length) (Text.trim text ++ right)).map Token.content := scan_content 0 _ _
    _ = (tokenize (left ++ (Text.trim text ++ right))).map Token.content := by
        rw [← scan_spaces 0 _ spaces, tokenize]
    _ = (tokenize text).map Token.content := by rw [← List.append_assoc, ← split]

/-- What follows a token says the same as the trimmed text behind it. -/
theorem later_content {text : Text} {earlier later : List Token} {token : Token}
    (parts : tokenize text = earlier ++ token :: later) :
    later.map Token.content = (tokenize (Text.trim (text.drop token.stop))).map Token.content := by
  rw [later_eq_scan parts, tokenize_trim_content]
  exact scan_content _ _ _

end QueryCompletion.Lexer
