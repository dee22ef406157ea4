import QueryCompletion.Text.Basic

/-!
White space, trimming and words. Two classes are in use: `isSpace` also counts the four information
separators U+001C to U+001F, `isPatternSpace` does not.
-/

namespace QueryCompletion.Text

/-- White space of the character standard. -/
def isPatternSpace (c : Char) : Bool :=
  let n := c.toNat
  (0x09 ≤ n && n ≤ 0x0D) || n == 0x20 || n == 0x85 || n == 0xA0 || n == 0x1680 ||
    (0x2000 ≤ n && n ≤ 0x200A) || n == 0x2028 || n == 0x2029 || n == 0x202F || n == 0x205F ||
    n == 0x3000

/-- White space including the information separators. -/
def isSpace (c : Char) : Bool :=
  isPatternSpace c || (0x1C ≤ c.toNat && c.toNat ≤ 0x1F)

/-- The text without the characters of a class at both ends. -/
def trimBy (member : Char → Bool) (text : Text) : Text :=
  ((text.dropWhile member).reverse.dropWhile member).reverse

/-- The text without white space at both ends. -/
def trim (text : Text) : Text := trimBy isSpace text

/-- The maximal runs of characters that are not white space, given the run read so far. -/
def wordsFrom (run : Text) : Text → List Text
  | [] => if run.isEmpty then [] else [run.reverse]
  | c :: rest =>
    if isSpace c then
      if run.isEmpty then wordsFrom [] rest else run.reverse :: wordsFrom [] rest
    else wordsFrom (c :: run) rest

/-- The maximal runs of characters that are not white space. -/
def words (text : Text) : List Text := wordsFrom [] text

end QueryCompletion.Text
