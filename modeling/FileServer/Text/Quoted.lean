import FileServer.Text.Printable

/-!
# Quoted text

How a message shows a text it was given: between double quotes, with a backslash
before a quote and a backslash, short names for the null character, tab, line
feed and carriage return, and `\u{…}` with the number in hexadecimal for every
other character that would not show by itself.
-/

namespace FileServer.Text

/-- The characters that stand for one character of a quoted text. -/
def quoteChar (c : Char) : List Char :=
  if c == '\x00' then ['\\', '0']
  else if c == '\t' then ['\\', 't']
  else if c == '\n' then ['\\', 'n']
  else if c == '\r' then ['\\', 'r']
  else if c == '"' then ['\\', '"']
  else if c == '\\' then ['\\', '\\']
  else if isGraphemeExtend c || isUnprintable c then
    ['\\', 'u', '\x7b'] ++ Nat.toDigits 16 c.toNat ++ ['\x7d']
  else [c]

/-- The text between quotes. -/
def quoted (s : String) : String :=
  String.ofList ('"' :: s.toList.flatMap quoteChar ++ ['"'])

end FileServer.Text
