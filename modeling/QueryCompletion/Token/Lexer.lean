import QueryCompletion.Token.Basic

/-!
Splitting a text into tokens. At every position all rules are tried; the longest match wins and of
equally long ones the rule listed first. Blanks are passed over, and so is a character that no rule
accepts, so a half-typed query still yields its tokens.
-/

namespace QueryCompletion.Lexer

/-- Characters between tokens. -/
def isBlank (c : Char) : Bool :=
  c == ' ' || c == '\t' || c == '\x0b' || c == '\x0c' || c == '\r' || c == '\n' || c == '\u00a0'

def isDigit (c : Char) : Bool := '0' ≤ c && c ≤ '9'

def isNameStart (c : Char) : Bool :=
  c == '_' || ('A' ≤ c && c ≤ 'Z') || ('a' ≤ c && c ≤ 'z')

def isNamePart (c : Char) : Bool := isNameStart c || isDigit c

def isHexDigit (c : Char) : Bool :=
  isDigit c || ('A' ≤ c && c ≤ 'F') || ('a' ≤ c && c ≤ 'f')

/-- Characters that may follow a backslash in a string literal, code escapes apart. -/
def isEscapable (c : Char) : Bool :=
  c == '\\' || c == '"' || c == '/' || c == 'b' || c == 'f' || c == 'n' || c == 'r' || c == 't'

/-- Characters that may not stand in a string literal. -/
def isLineBreak (c : Char) : Bool :=
  c == '\n' || c == '\r' || c == '\u2028' || c == '\u2029'

/-- Length of the leading characters of a class. -/
def runLength (member : Char → Bool) : Text → Nat
  | [] => 0
  | c :: rest => if member c then runLength member rest + 1 else 0

/-- Length of a fixed word at the start of a text, zero when it is not there. -/
def wordLength (word text : Text) : Nat :=
  if word.isPrefixOf text then word.length else 0

/-- Length of a reserved word at the start of a text; a longer name does not count. -/
def keywordLength (word text : Text) : Nat :=
  if word.isPrefixOf text && !((text.drop word.length).head?.map isNamePart).getD false then
    word.length
  else 0

/-- Length of what continues a dotted name: name characters, and dots before a character that starts
a name. -/
def nameTail : Text → Nat
  | [] => 0
  | [c] => if isNamePart c then 1 else 0
  | c :: d :: rest =>
    if isNamePart c then nameTail (d :: rest) + 1
    else if c = '.' && isNameStart d then nameTail rest + 2
    else 0

/-- Length of a dotted name at the start of a text. -/
def nameLength : Text → Nat
  | [] => 0
  | c :: rest => if isNameStart c then nameTail rest + 1 else 0

/-- Length of the rest of a string literal up to and with its closing quote. -/
def stringTail? : Text → Option Nat
  | [] => none
  | '"' :: _ => some 1
  | '\\' :: 'u' :: a :: b :: c :: d :: rest =>
    if isHexDigit a && isHexDigit b && isHexDigit c && isHexDigit d then (stringTail? rest).map (· + 6)
    else none
  | '\\' :: c :: rest => if isEscapable c then (stringTail? rest).map (· + 2) else none
  | c :: rest => if c = '\\' || isLineBreak c then none else (stringTail? rest).map (· + 1)

/-- Length of a string literal at the start of a text, quotes included. -/
def stringLength : Text → Nat
  | '"' :: rest => ((stringTail? rest).map (· + 1)).getD 0
  | _ => 0

/-- Length of an unsigned integer: a single zero, or digits that do not start with zero. -/
def naturalLength : Text → Nat
  | [] => 0
  | c :: rest => if c = '0' then 1 else if isDigit c then runLength isDigit rest + 1 else 0

/-- Length of an integer at the start of a text. -/
def intLength : Text → Nat
  | '-' :: rest => if naturalLength rest = 0 then 0 else naturalLength rest + 1
  | text => naturalLength text

/-- Length of a point with at least one digit after it. -/
def fractionLength : Text → Nat
  | '.' :: rest => if runLength isDigit rest = 0 then 0 else runLength isDigit rest + 1
  | _ => 0

/-- Length of an optional sign. -/
def signLength : Text → Nat
  | c :: _ => if c = '+' || c = '-' then 1 else 0
  | [] => 0

/-- Length of an exponent: its mark, an optional sign and at least one digit. -/
def exponentLength : Text → Nat
  | c :: rest =>
    if c = 'e' || c = 'E' then
      let sign := signLength rest
      let digits := runLength isDigit (rest.drop sign)
      if digits = 0 then 0 else digits + sign + 1
    else 0
  | [] => 0

/-- Length of an integer with a fraction, an exponent or both. -/
def floatLength (text : Text) : Nat :=
  let whole := intLength text
  if whole = 0 then 0
  else
    let fraction := fractionLength (text.drop whole)
    let exponent := exponentLength (text.drop (whole + fraction))
    if fraction + exponent = 0 then 0 else whole + fraction + exponent

/-- A rule says how many characters at the start of a text it accepts, zero meaning that it does not
apply; what a rule without a kind accepts is passed over. -/
structure Rule where
  kind : Option TokenKind
  accepts : Text → Nat

/-- All rules, those preferred among equally long matches first. -/
def rules : List Rule :=
  [ ⟨none, runLength isBlank⟩,
    ⟨some .dot, wordLength ['.']⟩,
    ⟨some .comma, wordLength [',']⟩,
    ⟨some .orWord, keywordLength ['o', 'r']⟩,
    ⟨some .andWord, keywordLength ['a', 'n', 'd']⟩,
    ⟨some .notWord, keywordLength ['n', 'o', 't']⟩,
    ⟨some .inWord, keywordLength ['i', 'n']⟩,
    ⟨some .startsWithWord, keywordLength ['s', 't', 'a', 'r', 't', 's', 'w', 'i', 't', 'h']⟩,
    ⟨some .endsWithWord, keywordLength ['e', 'n', 'd', 's', 'w', 'i', 't', 'h']⟩,
    ⟨some .trueWord, keywordLength ['T', 'r', 'u', 'e']⟩,
    ⟨some .falseWord, keywordLength ['F', 'a', 'l', 's', 'e']⟩,
    ⟨some .noneWord, keywordLength ['N', 'o', 'n', 'e']⟩,
    ⟨some .name, nameLength⟩,
    ⟨some .string, stringLength⟩,
    ⟨some .int, intLength⟩,
    ⟨some .float, floatLength⟩,
    ⟨some .parenL, wordLength ['(']⟩,
    ⟨some .parenR, wordLength [')']⟩,
    ⟨some .equals, wordLength ['=']⟩,
    ⟨some .notEquals, wordLength ['!', '=']⟩,
    ⟨some .greater, wordLength ['>']⟩,
    ⟨some .greaterEqual, wordLength ['>', '=']⟩,
    ⟨some .less, wordLength ['<']⟩,
    ⟨some .lessEqual, wordLength ['<', '=']⟩,
    ⟨some .contains, wordLength ['~']⟩,
    ⟨some .notContains, wordLength ['!', '~']⟩ ]

/-- A kind and how many characters it takes. -/
structure Match where
  kind : Option TokenKind
  length : Nat
deriving DecidableEq, Repr

/-- The better of the best match so far and one more rule: only a longer match replaces it. -/
def better (text : Text) (best : Match) (rule : Rule) : Match :=
  if best.length < rule.accepts text then ⟨rule.kind, rule.accepts text⟩ else best

/-- The longest match at the start of a text; its length is zero when no rule applies. -/
def longest (text : Text) : Match := rules.foldl (better text) ⟨none, 0⟩

/-- The value of a token: its characters, for a string those between the quotes. -/
def tokenValue (kind : TokenKind) (lexeme : Text) : Text :=
  if kind = .string then (lexeme.drop 1).dropLast else lexeme

/-- The token that a match at an offset stands for, if any. -/
def tokenAt? (position : Nat) (text : Text) (found : Match) : Option Token :=
  found.kind.map fun kind =>
    ⟨kind, tokenValue kind (text.take found.length), position, position + found.length⟩

/-- The tokens of a text that starts at the given offset. -/
def scan (position : Nat) (text : Text) : List Token :=
  match text with
  | [] => []
  | c :: rest =>
    let found := longest (c :: rest)
    let passed := found.length - 1
    (tokenAt? position (c :: rest) found).toList ++ scan (position + passed + 1) (rest.drop passed)
termination_by text.length
decreasing_by
  simp only [List.length_drop, List.length_cons]
  omega

/-- The tokens of a text. -/
def tokenize (text : Text) : List Token := scan 0 text

end QueryCompletion.Lexer
