/-
Quoted — text between double quotes.

| character                  | written          |
|----------------------------|------------------|
| quote, backslash           | after a backslash |
| tab, line feed, return, NUL | `\t` `\n` `\r` `\0` |
| any other unprintable one  | its code in hexadecimal, as `\u` and braces |
| every other one            | itself           |

An apostrophe is not escaped.
-/
import Resumption.Text.Printable

namespace Resumption.Text

/-- A character by its code, in hexadecimal. -/
def codeEscape (c : Char) : List Char :=
  ['\\', 'u', '\x7b'] ++ Nat.toDigits 16 c.toNat ++ ['\x7d']

/-- One character as it stands between quotes. -/
def escape (c : Char) : List Char :=
  if c = '"' ∨ c = '\\' then ['\\', c]
  else if c = '\t' then ['\\', 't']
  else if c = '\n' then ['\\', 'n']
  else if c = '\r' then ['\\', 'r']
  else if c = '\x00' then ['\\', '0']
  else if isPrintable c then [c]
  else codeEscape c

/-- A text between quotes. -/
def quoted (s : String) : String :=
  String.ofList (['"'] ++ s.toList.flatMap escape ++ ['"'])

end Resumption.Text
