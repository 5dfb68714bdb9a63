import NetConsole.Text.Printable

/-!
# Quoted text

A text between quotes with everything escaped that could not be told from the quotation or could
not be seen.
-/

set_option autoImplicit false

namespace NetConsole.Text

/-- A number in lower-case hexadecimal digits. -/
def hexChars (n : Nat) : List Char := Nat.toDigits 16 n

/-- How one character is shown inside quotes: five have a letter or stand behind a backslash,
invisible and extending ones are shown by their number, all others stand for themselves. -/
def quotedChar (c : Char) : List Char :=
  if c = '"' then ['\\', '"']
  else if c = '\\' then ['\\', '\\']
  else if c = '\n' then ['\\', 'n']
  else if c = '\r' then ['\\', 'r']
  else if c = '\t' then ['\\', 't']
  else if c.toNat = 0 then ['\\', '0']
  else if isExtending c || !isPrintable c then
    ['\\', 'u', '\x7b'] ++ hexChars c.toNat ++ ['\x7d']
  else [c]

/-- A text between quotes. -/
def quoted (s : String) : String :=
  String.ofList ('"' :: (s.toList.flatMap quotedChar ++ ['"']))

end NetConsole.Text
