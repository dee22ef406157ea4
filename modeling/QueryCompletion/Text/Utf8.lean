import QueryCompletion.Text.Basic

/-!
Texts as bytes in UTF-8.
-/

namespace QueryCompletion.Text

/-- The bytes of a character in UTF-8. -/
def utf8Char (c : Char) : List Nat :=
  let n := c.toNat
  if n < 0x80 then [n]
  else if n < 0x800 then [0xC0 + n / 0x40, 0x80 + n % 0x40]
  else if n < 0x10000 then [0xE0 + n / 0x1000, 0x80 + n / 0x40 % 0x40, 0x80 + n % 0x40]
  else
    [0xF0 + n / 0x40000, 0x80 + n / 0x1000 % 0x40, 0x80 + n / 0x40 % 0x40, 0x80 + n % 0x40]

/-- The bytes of a text in UTF-8. -/
def utf8 (text : Text) : List Nat := text.flatMap utf8Char

end QueryCompletion.Text
