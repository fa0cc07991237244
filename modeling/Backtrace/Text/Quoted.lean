import Backtrace.Text.Printable

/-!
# Quoted text

The form in which a message shows arbitrary text: between double quotes, with a backslash before
quotes and backslashes, short escapes for four controls, and the code point in hexadecimal for
every other character that is not printable.
-/

namespace Backtrace.Text

/-- The code point of a character in lower-case hexadecimal digits without padding. -/
def codePoint (character : Char) : Text := Nat.toDigits 16 character.toNat

/-- How one character is shown between quotes. -/
def escape (character : Char) : Text :=
  if character = '"' ∨ character = '\\' then ['\\', character]
  else if character = '\x00' then ['\\', '0']
  else if character = '\t' then ['\\', 't']
  else if character = '\r' then ['\\', 'r']
  else if character = '\n' then ['\\', 'n']
  else if isPrintable character then [character]
  else ['\\', 'u', '\x7b'] ++ codePoint character ++ ['\x7d']

/-- A text between double quotes, with its quotes, backslashes and unprintable characters
escaped. -/
def quoted (text : Text) : Text := '"' :: (text.flatMap escape ++ ['"'])

end Backtrace.Text
