import FormRules.Unicode.Naming

/-!
# Quoted texts

A text in double quotes in which every character that could be misread is
escaped: double quotes, backslashes, control characters, characters that leave
no mark, and characters that combine with the one before them.
-/

namespace FormRules.Text

/-- A character by its number, in lower-case hexadecimal digits. -/
def numbered (c : Char) : List Char :=
  '\\' :: 'u' :: '\x7b' :: Nat.toDigits 16 c.toNat ++ ['\x7d']

/-- A character within quotes. -/
def quoteChar (c : Char) : List Char :=
  if c = '\x00' then ['\\', '0']
  else if c = '\t' then ['\\', 't']
  else if c = '\n' then ['\\', 'n']
  else if c = '\r' then ['\\', 'r']
  else if c = '"' ∨ c = '\\' then ['\\', c]
  else if ' ' ≤ c ∧ c ≤ '~' then [c]
  else if Unicode.isHidden c then numbered c
  else [c]

/-- A text within quotes. -/
def quoted (s : String) : String :=
  "\"" ++ String.ofList (s.toList.flatMap quoteChar) ++ "\""

end FormRules.Text
