import QueryCompletion.Text.Lowercase

/-!
Search that may disregard case. Characters are compared one by one, so a match is always as long as
the word searched for.
-/

namespace QueryCompletion.Text

/-- Two characters are the same letter: their lower-case partners agree or are listed as
variants. -/
def sameLetter (wanted found : Char) : Bool :=
  let base := lowerChar wanted
  let other := lowerChar found
  other == base || ((letterVariants.lookup base.toNat).getD []).contains other.toNat

/-- Whether the word, compared character by character, starts the text. -/
def startsBy (same : Char → Char → Bool) : (word text : Text) → Bool
  | [], _ => true
  | _ :: _, [] => false
  | w :: word, c :: text => same w c && startsBy same word text

/-- Start offsets of the occurrences of a non-empty word, from left to right and without overlap.
`position` is the offset of the text, and the first `skip` characters belong to an earlier match. -/
def occurrencesFrom (same : Char → Char → Bool) (word : Text) (position skip : Nat) :
    Text → List Nat
  | [] => []
  | c :: rest =>
    match skip with
    | skip + 1 => occurrencesFrom same word (position + 1) skip rest
    | 0 =>
      if startsBy same word (c :: rest) then
        position :: occurrencesFrom same word (position + 1) (word.length - 1) rest
      else occurrencesFrom same word (position + 1) 0 rest

/-- Start offsets of the occurrences of a non-empty word in a text. -/
def occurrences (caseSensitive : Bool) (word text : Text) : List Nat :=
  occurrencesFrom (if caseSensitive then (· == ·) else sameLetter) word 0 0 text

end QueryCompletion.Text
