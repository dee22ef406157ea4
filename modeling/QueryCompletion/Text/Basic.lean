/-!
Texts are lists of characters, so every offset and length counts characters. A slice takes signed
bounds: a negative bound counts from the end and a bound outside the text is clamped to it.
-/

namespace QueryCompletion

abbrev Text := List Char

namespace Text

/-- The offset that a signed bound denotes in a text of the given length. -/
def offset (length : Nat) (bound : Int) : Nat :=
  if bound < 0 then (length + bound).toNat else min bound.toNat length

/-- The characters between two signed bounds; empty when the first is not before the second. -/
def slice (text : Text) (start stop : Int) : Text :=
  (text.take (offset text.length stop)).drop (offset text.length start)

/-- The characters before a signed bound. -/
def before (text : Text) (stop : Int) : Text :=
  text.take (offset text.length stop)

/-- The characters from a signed bound on. -/
def after (text : Text) (start : Int) : Text :=
  text.drop (offset text.length start)

/-- Whether the word occurs somewhere in the text. -/
def hasInside (word : Text) : Text → Bool
  | [] => word.isEmpty
  | c :: rest => word.isPrefixOf (c :: rest) || hasInside word rest

/-- The pieces between the occurrences of a separating character; never empty. -/
def pieces (separator : Char) : Text → List Text
  | [] => [[]]
  | c :: rest =>
    match pieces separator rest with
    | [] => [[]]
    | first :: others => if c = separator then [] :: first :: others else (c :: first) :: others

/-- The pieces written one after another with a separator between neighbours. -/
def joinWith (separator : Text) : List Text → Text
  | [] => []
  | [piece] => piece
  | piece :: others => piece ++ separator ++ joinWith separator others

theorem pieces_ne_nil (separator : Char) (text : Text) : pieces separator text ≠ [] := by
  cases text with
  | nil => simp [Text.pieces]
  | cons c rest =>
    unfold Text.pieces
    split
    · simp
    · split <;> simp

/-- Joining the pieces with the separator gives the text back. -/
theorem joinWith_pieces (separator : Char) (text : Text) :
    joinWith [separator] (pieces separator text) = text := by
  induction text with
  | nil => rfl
  | cons c rest ih =>
    unfold Text.pieces
    split
    · rename_i empty
      exact absurd empty (pieces_ne_nil separator rest)
    · rename_i first others pieced
      rw [pieced] at ih
      split
      · rename_i same
        subst same
        simp [joinWith, ih]
      · cases others with
        | nil => simpa [joinWith] using ih
        | cons next more => simpa [joinWith] using ih

/-- The text before the first occurrence of a character and, if there is one, the text behind it. -/
def cut (separator : Char) (text : Text) : Text × Option Text :=
  match text.dropWhile (· ≠ separator) with
  | [] => (text, none)
  | _ :: rest => (text.takeWhile (· ≠ separator), some rest)

/-- Line ends written as a carriage return, with or without a line feed, become a line feed. -/
def unifyLineEnds : Text → Text
  | [] => []
  | '\r' :: '\n' :: rest => '\n' :: unifyLineEnds rest
  | c :: rest => (if c = '\r' then '\n' else c) :: unifyLineEnds rest

end Text

end QueryCompletion
