/-
Quoted text: how a text is written inside a larger written form.

The text stands between double quotes. A double quote, a backslash and the
four control characters that have a short name are written as a backslash and
one more character; every other unprintable character is written as its code
point in hexadecimal, between braces; and all else stands for itself. An
escape can be told from the text around it, because a backslash never stands
for itself, and the end of the text can be told because a double quote never
does.
-/
import RecordPatterns.Text.Unprintable

set_option autoImplicit false

namespace RecordPatterns.Text

/-- A character as its code point in hexadecimal, between braces. -/
def escapeByCode (c : Char) : List Char :=
  '\\' :: 'u' :: '\x7b' :: (Nat.toDigits 16 c.toNat ++ ['\x7d'])

/-- One character of a quoted text. -/
def escape (c : Char) : List Char :=
  if c = '"' then ['\\', '"']
  else if c = '\\' then ['\\', '\\']
  else if c = '\n' then ['\\', 'n']
  else if c = '\r' then ['\\', 'r']
  else if c = '\t' then ['\\', 't']
  else if c = '\x00' then ['\\', '0']
  else if isUnprintable c then escapeByCode c
  else [c]

/-- A text between double quotes, each of its characters escaped. -/
def quote (s : List Char) : List Char :=
  '"' :: (s.flatMap escape ++ ['"'])

end RecordPatterns.Text
