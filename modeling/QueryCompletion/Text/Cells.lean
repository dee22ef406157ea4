import QueryCompletion.Text.RangeTable
import QueryCompletion.Text.Space
import QueryCompletion.Text.WidthTable

/-!
Texts on a terminal, measured in cells. A text is broken into lines at line feeds and, where a line
is too wide, between words.
-/

namespace QueryCompletion.Text

def zeroWidthRanges : List (Nat × Nat) := ranges zeroWidthRows

def doubleWidthRanges : List (Nat × Nat) := ranges doubleWidthRows

/-- The cells that a character takes. -/
def charCells (c : Char) : Nat :=
  if 0x20 ≤ c.toNat && c.toNat < 0x7F then 1
  else if inRanges zeroWidthRanges c.toNat then 0
  else if inRanges doubleWidthRanges c.toNat then 2
  else 1

/-- The cells that a text takes. -/
def cells (text : Text) : Nat := text.foldl (fun total c => total + charCells c) 0

/-- The text filled up with blanks on the right to at least the given width. -/
def padRight (width : Nat) (text : Text) : Text :=
  text ++ List.replicate (width - cells text) ' '

/-- The text filled up with blanks on the left to at least the given width. -/
def padLeft (width : Nat) (text : Text) : Text :=
  List.replicate (width - cells text) ' ' ++ text

/-- A line from a column on, with blanks in the place of tabs up to the next multiple of eight. -/
def expandTabsFrom (column : Nat) : Text → Text
  | [] => []
  | c :: rest =>
    if c = '\t' then
      let blanks := 8 - column % 8
      List.replicate blanks ' ' ++ expandTabsFrom (column + blanks) rest
    else c :: expandTabsFrom (column + charCells c) rest

def expandTabs (line : Text) : Text := expandTabsFrom 0 line

/-- The words of a line, each with the blanks behind it and the first one with those before it too;
`run` is the reversed start of the next word, `begun` and `ended` say whether it holds more than
blanks and whether blanks follow. -/
def chunksFrom (run : Text) (begun ended : Bool) : Text → List Text
  | [] => if begun then [run.reverse] else []
  | c :: rest =>
    if isSpace c then chunksFrom (c :: run) begun begun rest
    else if ended then run.reverse :: chunksFrom [c] true false rest
    else chunksFrom (c :: run) true false rest

def chunks (line : Text) : List Text := chunksFrom [] false false line

def trimRight (text : Text) : Text := (text.reverse.dropWhile isSpace).reverse

/-- Pieces that each fit into a width; `piece` is the reversed start of the next one, `filled` the
cells it takes. -/
def foldFrom (width : Nat) (piece : Text) (filled : Nat) : Text → List Text
  | [] => [piece.reverse]
  | c :: rest =>
    if width < filled + charCells c then piece.reverse :: foldFrom width [c] (charCells c) rest
    else foldFrom width (c :: piece) (filled + charCells c) rest

/-- The lines into which words are set, the last one first. A word that fits on no line is folded
over several or, where that is not wanted, put on a line of its own. -/
def setWords (width : Nat) (folds : Bool) (lines : List Text) : List Text → List Text
  | [] => lines
  | word :: rest =>
    let length := cells (trimRight word)
    let set :=
      match lines with
      | [] => if width < length && folds then (foldFrom width [] 0 word).reverse else [word]
      | line :: before =>
        if cells line + length ≤ width then (line ++ word) :: before
        else if width < length && folds then (foldFrom width [] 0 word).reverse ++ lines
        else word :: lines
    setWords width folds set rest

/-- The line without the blanks at its end that go beyond a width. -/
def trimBeyond (width : Nat) (line : Text) : Text :=
  line.take (max width (trimRight line).length)

/-- The lines of a text in a width. -/
def wrap (width : Nat) (folds : Bool) (text : Text) : List Text :=
  (pieces '\n' text).flatMap fun line =>
    let expanded := expandTabs line
    match (setWords width folds [] (chunks expanded)).reverse with
    | [] => [trimBeyond width expanded]
    | lines => lines.map (trimBeyond width)

end QueryCompletion.Text
