import QueryCompletion.Text.Basic

/-!
Reading the tables that say to which classes characters belong. A table is a list of rows of entries
with blanks between them; an entry starts with one hexadecimal number or, for a range, with its two
inclusive bounds.
-/

namespace QueryCompletion.Text

/-- Whether a code point lies in one of the inclusive ranges. -/
def inRanges (ranges : List (Nat × Nat)) (code : Nat) : Bool :=
  ranges.any fun range => range.1 ≤ code && code ≤ range.2

/-- The number that lower-case hexadecimal digits write. -/
def hexNumber (digits : Text) : Nat :=
  digits.foldl (fun value c => value * 16 + (if c ≤ '9' then c.toNat - 48 else c.toNat - 87)) 0

/-- The two bounds of a range, equal for a single number. -/
def hexBounds (separator : Char) (entry : Text) : Nat × Nat :=
  match cut separator entry with
  | (first, some last) => (hexNumber first, hexNumber last)
  | (only, none) => (hexNumber only, hexNumber only)

/-- The entries of a table. -/
def entries (rows : List String) : List Text := rows.flatMap fun row => pieces ' ' row.toList

/-- The ranges of a table that lists nothing else. -/
def ranges (rows : List String) : List (Nat × Nat) := (entries rows).map (hexBounds '-')

end QueryCompletion.Text
