import LogSearch.Text.Table.Visibility
import LogSearch.Text.Lowercase

/-!
# Quoted text

A text between quotes, for messages: quotes and backslashes are escaped, the four usual controls by
a letter, and everything that could not be seen by itself as `\u{…}` with its code point.
-/

namespace LogSearch

/-- A code point in lower-case hexadecimal digits, without zeros at the front. -/
def hexDigits (n : Nat) : List Char := Nat.toDigits 16 n

/-- One character as it stands between double quotes; single quotes stand for themselves. -/
def quoteChar (c : Char) : List Char :=
  if c = '\x00' then ['\\', '0']
  else if c = '\t' then ['\\', 't']
  else if c = '\r' then ['\\', 'r']
  else if c = '\n' then ['\\', 'n']
  else if c = '\\' || c = '"' then ['\\', c]
  else if inRanges Visibility.combining c.toNat || inRanges Visibility.unprintable c.toNat then
    ['\\', 'u', '\x7b'] ++ hexDigits c.toNat ++ ['\x7d']
  else [c]

/-- A text in double quotes. -/
def quoted (s : String) : String :=
  String.ofList ('"' :: s.toList.flatMap quoteChar ++ ['"'])

end LogSearch
