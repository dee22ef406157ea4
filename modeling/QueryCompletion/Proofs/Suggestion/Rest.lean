import QueryCompletion.Proofs.Lexer.Seam
import QueryCompletion.Proofs.Suggestion.Field

/-!
What accepting a field does to the rest of a query. The rest loses the white space before it and then
follows the dot or the blank of the field; its tokens stay what they are unless one of the tokens of the
new text runs over the seam.
-/

namespace QueryCompletion

open Lexer

namespace Schema

variable {schema : Schema} {text head base : Text} {earlier later : List Token} {token : Token}

/-- At the end of a token of the text this is the token under the cursor. -/
theorem contextAt_token_stop (parts : tokenize text = earlier ++ token :: later) :
    (schema.contextAt text token.stop).token = some token := by
  rw [contextAt_token, Window.atCursor_token, tokenize_take_stop parts, Window.touches_concat,
    if_pos (by simp), parts]
  simp

theorem FieldPlace.first_part {context : Context} (place : schema.FieldPlace context text head base)
    (identifiers : schema.HasIdentifiers) (typed : ∀ c ∈ context.typed, isNamePart c = true) :
    ∀ c ∈ (base ++ context.typed).head?, isNamePart c = true := by
  intro c inside
  rw [List.head?_append] at inside
  cases begins : base.head? with
  | some d =>
    rw [begins] at inside
    cases inside
    exact place.leads.head_part identifiers c begins
  | none =>
    rw [begins] at inside
    exact typed c (List.mem_of_mem_head? inside)

theorem FieldPlace.path_chars {context : Context} (place : schema.FieldPlace context text head base)
    (identifiers : schema.HasIdentifiers) (typed : ∀ c ∈ context.typed, isNamePart c = true) :
    ∀ c ∈ base ++ context.typed, isNamePart c = true ∨ c = '.' := by
  intro c inside
  rcases List.mem_append.mp inside with inBase | inTyped
  · exact place.leads.chars identifiers c inBase
  · exact Or.inl (typed c inTyped)

/-- A text that ends with a name does not end where a word can begin. -/
theorem not_endsOpen_of_name (tokens : tokenize text = earlier ++ [token]) (name : token.kind = .name)
    (stop : token.stop = text.length) : ¬ EndsOpen text := by
  intro opens
  obtain ⟨_, emits, _⟩ := (reach_length text).split tokens
  obtain ⟨_, _, ends, kind, _⟩ := emitted_eq_some emits
  have order := start_lt_stop emits
  rw [name] at kind
  obtain ⟨x, last⟩ : ∃ x, text.getLast? = some x :=
    ⟨_, List.getLast?_eq_some_getLast (List.ne_nil_of_length_pos (by omega))⟩
  have atLast : text[text.length - 1]? = some x := List.getLast?_eq_getElem?.symm.trans last
  have solid : isSolid x = true := by
    rcases mem_name kind (mem_lexeme (i := text.length - 1) (by omega) (by omega) atLast) with part | dot
    · exact isSolid_of_isNamePart part
    · rw [dot]; rfl
  rw [not_isSolid_of_open (opens x last)] at solid
  cases solid

/-- No token ends inside a field path that begins where a word can begin, so the last token of the text
does not begin behind the start of the path. -/
theorem FieldPlace.start_le {context : Context} {others : List Token}
    (place : schema.FieldPlace context text head base) (identifiers : schema.HasIdentifiers)
    (typed : ∀ c ∈ context.typed, isNamePart c = true)
    (before : ∀ token ∈ tokenize text, token.stop < text.length → token.stop ≤ head.length)
    (reach : Reach text others head.length) (tokens : tokenize text = earlier ++ [token]) :
    token.start ≤ head.length := by
  by_contra behind
  obtain ⟨_, emits, bound⟩ := (reach_length text).split tokens
  have order := start_lt_stop emits
  obtain ⟨c, atFirst⟩ : ∃ c, text[head.length]? = some c :=
    ⟨_, List.getElem?_eq_getElem (by omega)⟩
  have part : isNamePart c = true := by
    refine place.first_part identifiers typed c ?_
    rw [place.split, List.getElem?_append_right (Nat.le_refl _), Nat.sub_self] at atFirst
    rwa [List.head?_eq_getElem?]
  obtain ⟨other, member, start⟩ := reach.exists_token part atFirst
  obtain ⟨_, _, emits', _⟩ := (reach_length text).mem member
  have order' := start_lt_stop emits'
  rw [tokens] at member
  rcases List.mem_append.mp member with inside | last
  · have ends := stop_le_of_split tokens inside
    have := before other (tokens ▸ member) (by omega)
    omega
  · rw [List.mem_singleton.mp last] at start
    omega

/-- A field path at the end of a name is that name. -/
theorem FieldPlace.start_eq {context : Context} (place : schema.FieldPlace context text head base)
    (identifiers : schema.HasIdentifiers) (typed : ∀ c ∈ context.typed, isNamePart c = true)
    (tokens : tokenize text = earlier ++ [token]) (name : token.kind = .name)
    (length : token.stop = text.length) : EndsOpen head ∧ token.start = head.length := by
  obtain ⟨reach, emits, _⟩ := (reach_length text).split tokens
  obtain ⟨_, stop, _⟩ := emitted_eq_some emits
  have split := place.split
  rcases place.begins with ⟨opens, before⟩ | ⟨empty, some', others, lone⟩
  · have noQuote : '"' ∉ base ++ context.typed := by
      intro inside
      rcases place.path_chars identifiers typed _ inside with part | dot
      · cases part
      · cases dot
    obtain ⟨others, reachHead⟩ := reach_open opens
      (fun c inside => isBlank_of_isNamePart (place.first_part identifiers typed c inside)) noQuote
    rw [← split] at reachHead
    refine ⟨opens, Nat.le_antisymm (place.start_le identifiers typed before reachHead tokens) ?_⟩
    by_contra inside
    -- The name would end where a word can begin.
    have passed := reachHead.advance_le_of_lt reach (Nat.not_le.mp inside)
    have lengths := congrArg List.length split
    rw [List.length_append] at lengths
    have nothing : base ++ context.typed = [] := List.eq_nil_of_length_eq_zero (by omega)
    rw [nothing, List.append_nil] at split
    exact not_endsOpen_of_name tokens name length (split ▸ opens)
  · -- Behind a lone dot the last token is that dot.
    obtain ⟨front, rfl, dotted⟩ := place.leads.exists_front identifiers some'
    rw [empty, List.append_nil] at split
    subst split
    rw [lone.last_dot dotted tokens] at name
    cases name

end Schema

namespace FieldDef

variable {field : FieldDef} {name after : Text}

theorem follows_of_relation (relation : field.isRelation = true) :
    field.follows name after = joint after := by
  simp only [follows, suggestion, relation, if_true, joint]

theorem follows_of_scalar (scalar : field.isRelation = false)
    (trimmed : ∀ c ∈ after.head?, Text.isSpace c = false) : field.follows name after = [' '] := by
  have noBlank : ¬ [' '].isPrefixOf after = true := by
    rw [List.isPrefixOf_iff_prefix]
    rintro ⟨rest, rfl⟩
    cases trimmed ' ' rfl
  simp [follows, suggestion, scalar, noBlank]

/-- What is pasted for a field stands for itself in a string literal. -/
theorem follows_plain (field : FieldDef) (name after : Text) :
    ∀ c ∈ field.follows name after, isPlain c = true := by
  have snippet : ∀ c ∈ (field.suggestion name).snippetAfter, isPlain c = true := by
    intro c inside
    unfold suggestion at inside
    dsimp only at inside
    split at inside <;> cases List.mem_singleton.mp inside <;> rfl
  intro c inside
  rw [follows] at inside
  split at inside
  · cases inside
  · exact snippet c inside

/-- The word of an accepted field goes on into the rest. -/
def RunsOn (field : FieldDef) (after : Text) : Prop := field.isRelation = true ∧ ContinuesName after

end FieldDef

namespace FieldDef

variable {field : FieldDef} {head word follows after : Text}

theorem plain_run (field : FieldDef) (name after : Text) (dotted : Dotted word) :
    ∀ c ∈ word ++ field.follows name after, isPlain c = true := by
  intro c inside
  rcases List.mem_append.mp inside with inWord | behind
  · exact dotted.plain c inWord
  · exact field.follows_plain name after c behind

/-- Behind a field that is no relation the loop arrives at the rest. -/
theorem seam_of_scalar {tokens : List Token} (dotted : Dotted word)
    (trimmed : ∀ c ∈ after.head?, Text.isSpace c = false)
    (reach : Reach (head ++ (word ++ ([' '] ++ after))) tokens head.length) :
    ∃ tokens, Reach (head ++ (word ++ ([' '] ++ after))) tokens (head.length + word.length + 1) := by
  have behindWord := reach.word dotted (nameTail_other after rfl (by decide))
  rw [← List.append_assoc, ← List.length_append, List.singleton_append] at behindWord
  have atSeam := behindWord.blank rfl (fun d head => by
    by_contra blank
    have space := isSpace_of_isBlank (c := d) (by simpa using blank)
    rw [trimmed d head] at space
    cases space)
  rw [List.append_assoc, List.length_append] at atSeam
  exact ⟨_, atSeam⟩

/-- How the text with an accepted field is read around the seam: the loop arrives there, or the word of
the field runs on into the rest, or a string literal from before the word runs over both. -/
theorem seam_cases (name : Text) (opens : EndsOpen head) (dotted : Dotted word)
    (trimmed : ∀ c ∈ after.head?, Text.isSpace c = false) (tail : field.follows name after = follows) :
    ¬ field.RunsOn after ∧ (∃ tokens, Reach (head ++ (word ++ (follows ++ after))) tokens
        (head.length + word.length + follows.length)) ∨
      ∃ token, Crosses (head ++ (word ++ (follows ++ after)))
          (head.length + word.length + follows.length) token ∧
        (field.RunsOn after ∧ token.kind ≠ .string ∧
            (tokenize ((head ++ (word ++ (follows ++ after))).drop token.stop)).length <
              (tokenize after).length ∨
          token.kind = .string ∧ token.start < head.length ∧
            Literal (head ++ (word ++ (follows ++ after))) token.start) := by
  have first : ∀ c ∈ (word ++ (follows ++ after)).head?, isBlank c = false := by
    obtain ⟨c, more, rfl, start⟩ := dotted.head
    rintro d ⟨⟩
    exact (isNameStart_cases start).1
  rcases exists_reach_open opens first with ⟨tokens, reach⟩ |
    ⟨tokens, position, reach, left, right, literal⟩
  · cases relation : field.isRelation with
    | false =>
      have notRuns : ¬ field.RunsOn after := fun runs => by cases relation.symm.trans runs.1
      obtain rfl : follows = [' '] := tail.symm.trans (follows_of_scalar relation trimmed)
      exact Or.inl ⟨notRuns, seam_of_scalar dotted trimmed reach⟩
    | true =>
      obtain rfl : follows = joint after := tail.symm.trans (follows_of_relation relation)
      rcases seam_of_dot dotted reach with ⟨ends, atSeam⟩ | ⟨continues, token, crosses, kind, fewer⟩
      · exact Or.inl ⟨fun runs => ends runs.2, atSeam⟩
      · exact Or.inr ⟨token, crosses, Or.inl ⟨⟨relation, continues⟩, kind, fewer⟩⟩
  · have plain := tail ▸ field.plain_run name after dotted
    rw [← List.append_assoc word] at reach right literal ⊢
    obtain ⟨token, crosses, start, string⟩ := literal.crosses plain reach left right
    rw [List.length_append, ← Nat.add_assoc] at crosses
    exact Or.inr ⟨token, crosses, Or.inr ⟨string, by omega, start ▸ literal⟩⟩

end FieldDef

/-- Without a line break before the rest no literal runs over a word put in the place of the name: it
would have run over the name too. -/
theorem Schema.FieldPlace.not_literal {schema : Schema} {context : Context} {text head base run : Text}
    {earlier later : List Token} {token across : Token} {seam : Nat}
    (place : schema.FieldPlace context (text.take token.stop) head base)
    (identifiers : schema.HasIdentifiers) (typed : ∀ c ∈ context.typed, isNamePart c = true)
    (parts : tokenize text = earlier ++ token :: later) (opens : EndsOpen head)
    (start : token.start = head.length)
    (noBreak : ∀ c ∈ (text.drop token.stop).takeWhile Text.isSpace, isLineBreak c = false)
    (plain : ∀ c ∈ run, isPlain c = true)
    (crosses : Crosses (head ++ (run ++ Text.trim (text.drop token.stop))) seam across)
    (atSeam : seam = (head ++ run).length) (left : across.start < head.length) :
    ¬ Literal (head ++ (run ++ Text.trim (text.drop token.stop))) across.start := by
  intro literal
  obtain ⟨spaces, ending, split, allSpaces, _, leading⟩ := Text.trim_decompose (text.drop token.stop)
  have plain' : ∀ c ∈ base ++ context.typed ++ spaces, isPlain c = true := by
    intro c inside
    rcases List.mem_append.mp inside with inPath | inSpaces
    · rcases place.path_chars identifiers typed c inPath with part | rfl
      · exact isPlain_of_isNamePart part
      · rfl
    · exact isPlain_of_isSpace (allSpaces c inSpaces) (noBreak c (leading ▸ inSpaces))
  have whole : text = head ++
      (base ++ context.typed ++ spaces ++ (Text.trim (text.drop token.stop) ++ ending)) := by
    conv => lhs; rw [← List.take_append_drop token.stop text, place.split, split]
    simp only [List.append_assoc]
  have arrives := ((reach_length text).split parts).1
  rw [start] at arrives
  generalize Text.trim (text.drop token.stop) = after at *
  rw [whole] at arrives
  exact literal.not_reach opens plain plain' (atSeam ▸ crosses) left arrives

namespace Suggestion

variable {schema : Schema} {text : Text} {suggestion : Suggestion} {earlier later : List Token}
  {token : Token}

/-- Accepting a field at the end of a name keeps the tokens of the rest exactly when no token runs over
the seam, save a string literal behind which the same tokens follow. Where no line break stands before
the rest, only a relation does harm, and it does so when its dot meets a word. -/
theorem accept_field_keeps_rest_iff (identifiers : schema.HasIdentifiers)
    (parts : tokenize text = earlier ++ token :: later) (isName : token.kind = .name)
    (scope : (schema.contextAt text token.stop).scope = some .field)
    (listed : suggestion ∈
      (fieldCandidates schema (schema.contextAt text token.stop)).complete.suggestions) :
    let before := (schema.contextAt text token.stop).textBefore text token.stop
    let after := (schema.contextAt text token.stop).textAfter text token.stop
    let edited := (suggestion.accept schema text token.stop).text
    let seam := before.length + (suggestion.pasted before after).length
    (contentFrom edited seam = later.map Token.content ↔
        ∀ across ∈ tokenize edited, across.start < seam → seam < across.stop →
          across.kind = .string ∧
            (tokenize (edited.drop across.stop)).map Token.content = (tokenize after).map Token.content) ∧
      ((∀ c ∈ (text.drop token.stop).takeWhile Text.isSpace, isLineBreak c = false) →
        (contentFrom edited seam = later.map Token.content ↔
          ¬ (suggestion.snippetAfter = ['.'] ∧ ContinuesName after))) := by
  intro before after edited seam
  obtain ⟨head, base, place⟩ := Schema.exists_fieldPlace identifiers scope
  obtain ⟨model, name, found, _, member, rfl, inside⟩ := mem_fieldCandidates listed
  have inText : token ∈ tokenize text := by rw [parts]; simp
  have within := stop_le_length inText
  have identifier := identifiers _ (Schema.exists_entry member) _ member
  have dotted := place.leads.dotted identifiers identifier
  have typed : ∀ c ∈ (schema.contextAt text token.stop).typed, isNamePart c = true :=
    fun c member => identifier.parts c (inside c member)
  obtain ⟨opens, start⟩ := place.start_eq identifiers typed (tokenize_take_stop parts) isName
    (by rw [List.length_take, Nat.min_eq_left within])
  have behind : after = Text.trim (text.drop token.stop) :=
    Context.textAfter_of_token within (schema.contextAt_typed_suffix text token.stop)
      (Schema.contextAt_token_stop parts)
  have trimmed : ∀ c ∈ after.head?, Text.isSpace c = false := behind ▸ Text.head?_trim _
  have whole : edited = head ++ (base ++ name ++ (found.follows name after ++ after)) :=
    place.accept_text within found name
  have atSeam : seam = head.length + (base ++ name).length + (found.follows name after).length :=
    place.pasted_length within found name
  have rest : later.map Token.content = (tokenize after).map Token.content :=
    behind ▸ later_content parts
  have dropped : edited.drop seam = after := by
    rw [whole, atSeam, ← List.append_assoc, ← List.append_assoc, ← List.length_append,
      ← List.length_append, List.drop_left]
  have shape := found.seam_cases name opens dotted trimmed rfl
  rw [← whole, ← atSeam] at shape
  rw [rest]
  have dot : (found.suggestion name).snippetAfter = ['.'] ↔ found.isRelation = true := by
    cases relation : found.isRelation <;> simp [FieldDef.suggestion, relation]
  refine ⟨?_, fun noBreak => ?_⟩
  · rw [contentFrom_eq_iff dropped]
    · exact ⟨fun all across member left right => all across ⟨member, left, right⟩,
        fun all across crosses => all across crosses.member crosses.left crosses.right⟩
    · rcases shape with ⟨_, arrives⟩ | ⟨across, crosses, ⟨_, kind, fewer⟩ | ⟨kind, _⟩⟩
      · exact Or.inl arrives
      · exact Or.inr ⟨across, crosses, Or.inr ⟨kind, fewer⟩⟩
      · exact Or.inr ⟨across, crosses, Or.inl kind⟩
  · rw [dot]
    rcases shape with ⟨ends, tokens, arrives⟩ |
      ⟨across, crosses, ⟨runs, _, fewer⟩ | ⟨_, inHead, literal⟩⟩
    · rw [contentFrom_of_reach arrives, dropped]
      exact ⟨fun _ => ends, fun _ => rfl⟩
    · exact ⟨fun same => absurd same (crosses.contentFrom_ne fewer), fun ends => absurd runs ends⟩
    · exfalso
      have run : edited = head ++ (base ++ name ++ found.follows name after ++ after) := by
        rw [whole, List.append_assoc (base ++ name)]
      rw [run, behind] at crosses literal
      refine place.not_literal identifiers typed parts opens start noBreak
        (behind ▸ found.plain_run name after dotted) crosses ?_ inHead literal
      rw [atSeam, behind]
      simp only [List.length_append]
      omega

/-- A scalar field is accepted in the place of a half-typed path, and the comparison behind it stays. -/
theorem accept_field_keeps_comparison :
    let schema : Schema :=
      { currentModel := some "book".toList
        models :=
          [("book".toList, [("author".toList, { type := .relation, relation := some "user".toList })]),
            ("user".toList, [("name".toList, { type := .str })])] }
    let edited := Suggestion.accept ⟨"name".toList, [], [' '], none⟩ schema "author.na = 1".toList (9 : Nat)
    edited.text = "author.name = 1".toList ∧
      contentFrom edited.text 12 = [(.equals, ['=']), (.int, ['1'])] := by
  intro schema edited
  have context : schema.contextAt "author.na = 1".toList (9 : Nat) =
      ⟨"na".toList, some .field, some "user".toList, none, some ⟨.name, "author.na".toList, 0, 9⟩,
        ["book".toList, "user".toList]⟩ := by
    decide +kernel
  have parts : tokenize "author.na = 1".toList =
      [] ++ ⟨.name, "author.na".toList, 0, 9⟩ :: [⟨.equals, ['='], 10, 11⟩, ⟨.int, ['1'], 12, 13⟩] := by
    decide +kernel
  have listed : (⟨"name".toList, [], [' '], none⟩ : Suggestion) ∈
      (fieldCandidates schema (schema.contextAt "author.na = 1".toList (9 : Nat))).complete.suggestions := by
    rw [context]
    decide +kernel
  have identifiers : schema.HasIdentifiers := by decide
  have spaces : ("author.na = 1".toList.drop 9).takeWhile Text.isSpace = [' '] := by decide +kernel
  have noBreak : ∀ c ∈ ("author.na = 1".toList.drop 9).takeWhile Text.isSpace, isLineBreak c = false := by
    rw [spaces]
    intro c inside
    cases List.mem_singleton.mp inside
    rfl
  have kept := (accept_field_keeps_rest_iff identifiers parts rfl (by rw [context]) listed).2 noBreak
  have seam : ((schema.contextAt "author.na = 1".toList (9 : Nat)).textBefore "author.na = 1".toList
        (9 : Nat)).length +
      (Suggestion.pasted ⟨"name".toList, [], [' '], none⟩
        ((schema.contextAt "author.na = 1".toList (9 : Nat)).textBefore "author.na = 1".toList (9 : Nat))
        ((schema.contextAt "author.na = 1".toList (9 : Nat)).textAfter "author.na = 1".toList
          (9 : Nat))).length = 12 := by
    rw [context]
    decide +kernel
  rw [seam] at kept
  exact ⟨by decide +kernel, kept.mpr fun runs => by cases runs.1⟩

/-- The dot of a relation meets the connector behind it, and the two become one name. -/
theorem accept_relation_swallows_connector :
    let schema : Schema :=
      { currentModel := some "book".toList
        models :=
          [("book".toList, [("author".toList, { type := .relation, relation := some "user".toList }),
              ("id".toList, { type := .int })]),
            ("user".toList, [("name".toList, { type := .str })])] }
    let text := "author and id = 1".toList
    (schema.contextAt text (6 : Nat)).scope = some .field ∧
      ⟨"author".toList, [], ['.'], none⟩ ∈
        (fieldCandidates schema (schema.contextAt text (6 : Nat))).complete.suggestions ∧
      Suggestion.accept ⟨"author".toList, [], ['.'], none⟩ schema text (6 : Nat) =
        ⟨"author.and id = 1".toList, 7⟩ ∧
      (tokenize text).map Token.content =
        [(.name, "author".toList), (.andWord, "and".toList), (.name, "id".toList), (.equals, ['=']),
          (.int, ['1'])] ∧
      contentFrom "author.and id = 1".toList 7 =
        [(.name, "id".toList), (.equals, ['=']), (.int, ['1'])] := by
  decide +kernel

end Suggestion

end QueryCompletion
