import QueryCompletion.Suggestion.Basic
import QueryCompletion.Text.Caseless

/-!
Suggestions as styled text: the occurrences of the typed text in bold, the explanation set apart.
-/

namespace QueryCompletion

/-- A style over the characters between two offsets. -/
structure Span where
  start : Nat
  stop : Nat
  style : String
deriving DecidableEq, Repr

structure StyledText where
  plain : Text
  spans : List Span
deriving DecidableEq, Repr

/-- Control characters that a terminal acts upon are left out of styled text. -/
def isTerminalControl (c : Char) : Bool :=
  c == '\x07' || c == '\x08' || c == '\x0b' || c == '\x0c' || c == '\r'

def printableText (text : Text) : Text := text.filter (!isTerminalControl ·)

/-- The text with every occurrence of the typed text in bold. -/
def highlight (text typed : Text) (caseSensitive : Bool) : StyledText :=
  let plain := printableText text
  let starts := if typed.isEmpty then [] else Text.occurrences caseSensitive typed plain
  ⟨plain, starts.map fun start => ⟨start, start + typed.length, "bold"⟩⟩

/-- A suggestion with its explanation in italics behind it. -/
def Suggestion.render (suggestion : Suggestion) (typed : Text) (caseSensitive : Bool) : StyledText :=
  let shown := highlight suggestion.text typed caseSensitive
  match suggestion.explanation with
  | some (c :: rest) =>
    let explanation := printableText (c :: rest)
    let start := shown.plain.length + 1
    ⟨shown.plain ++ ' ' :: explanation,
      shown.spans ++ [⟨start, start + explanation.length, "italic dim"⟩]⟩
  | _ => shown

end QueryCompletion
